import DiscordRest.Url.Host

/-! Absolute URLs by their parts, and their written form. -/

namespace DiscordRest

namespace Url

/-- The path of a URL. -/
inductive Path where
  /-- One text without structure. -/
  | whole (text : List Char)
  /-- Segments, each behind a slash. -/
  | segments (parts : List (List Char))
  deriving DecidableEq, Repr

/-- The written form of a path. -/
def Path.text : Path → List Char
  | whole text => text
  | segments parts => parts.flatMap fun segment => '/' :: segment

/-- Whether a path is one text without structure. -/
def Path.isWhole : Path → Bool
  | whole _ => true
  | segments _ => false

/-- The scheme of local files. -/
def fileScheme : List Char := ['f', 'i', 'l', 'e']

/-- The default port number of a scheme. -/
def defaultPort? (scheme : List Char) : Option Nat :=
  if scheme = "http".toList || scheme = "ws".toList then some 80
  else if scheme = "https".toList || scheme = "wss".toList then some 443
  else if scheme = "ftp".toList then some 21
  else none

/-- Whether a scheme is special: it has a default port number, or it is that of local files. -/
def isSpecial (scheme : List Char) : Bool :=
  (defaultPort? scheme).isSome || scheme == fileScheme

end Url

/-- An absolute URL. -/
structure Url where
  /-- The scheme, in lower case. -/
  scheme : List Char
  /-- The user name, with percent signs. -/
  username : List Char
  /-- The password, with percent signs. -/
  password : List Char
  /-- The host; none if the URL has no part for it. -/
  host : Option Url.Host
  /-- The port number, if it is not the scheme's default. -/
  portNumber : Option Nat
  /-- The path. -/
  path : Url.Path
  /-- The query, if there is one. -/
  query : Option (List Char)
  /-- The fragment, if there is one. -/
  fragment : Option (List Char)
  deriving DecidableEq, Repr

namespace Url

/-- The user name and the password as they stand before the host. -/
def userText (url : Url) : List Char :=
  let password := if url.password.isEmpty then [] else ':' :: url.password
  if url.username.isEmpty && url.password.isEmpty then [] else url.username ++ password ++ ['@']

/-- A colon and the port number, if it is not the default. -/
def portText (url : Url) : List Char :=
  match url.portNumber with
  | none => []
  | some n => ':' :: (Text.decimal n).toList

/--
The part between scheme and path. Without a host, a path that starts with two slashes is kept from
looking like one by a dot segment before it.
-/
def authorityText (url : Url) : List Char :=
  match url.host with
  | some host => ['/', '/'] ++ url.userText ++ host.text ++ url.portText
  | none =>
    match url.path with
    | .segments ([] :: _ :: _) => ['/', '.']
    | _ => []

/-- A query behind its mark, if there is one. -/
def queryText (url : Url) : List Char :=
  match url.query with
  | none => []
  | some query => '?' :: query

/-- A fragment behind its mark, if there is one. -/
def fragmentText (url : Url) : List Char :=
  match url.fragment with
  | none => []
  | some fragment => '#' :: fragment

/-- The written form of a URL, as characters. -/
def chars (url : Url) : List Char :=
  url.scheme ++ [':'] ++ url.authorityText ++ url.path.text ++ url.queryText ++ url.fragmentText

/-- The written form of a URL. -/
def text (url : Url) : String :=
  String.ofList url.chars

/-- Whether no relative reference can be resolved against a URL: no slash follows its scheme. -/
def cannotBeBase (url : Url) : Bool :=
  url.host.isNone && url.path.isWhole

/-- Whether a URL names a machine. -/
def hasHost (url : Url) : Bool :=
  match url.host with
  | some host => host.isPresent
  | none => false

/-- The URL without user name and password. -/
def withoutUser (url : Url) : Url :=
  { url with username := [], password := [] }

/-- The URL without query and fragment. -/
def withoutQuery (url : Url) : Url :=
  { url with query := none, fragment := none }

/-- The port number that a connection uses. -/
def effectivePort (url : Url) : Option Nat :=
  url.portNumber.or (defaultPort? url.scheme)

end Url

end DiscordRest
