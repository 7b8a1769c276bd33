import DiscordRest.Text.Blank
import DiscordRest.Url.Basic

/-!
Reading URLs by the rules of web browsers: spaces around the text and line breaks within it are
dropped, a special scheme takes backslashes for slashes, dot segments are resolved, and everything
that a part does not admit is percent-encoded.
-/

namespace DiscordRest.Url

/-! ### Cutting the text into parts -/

/-- The text before the first occurrence of a character, and the text after it if it occurs. -/
def cut (separator : Char) : List Char → List Char × Option (List Char)
  | [] => ([], none)
  | c :: rest =>
    if c = separator then ([], some rest)
    else
      let (before, after) := cut separator rest
      (c :: before, after)

/-- The text without spaces and control characters around it and without tabs and line breaks. -/
def clean (text : List Char) : List Char :=
  (Text.trimWhile (fun c => c.toNat ≤ 0x20) text).filter fun c =>
    !(c == '\t' || c == '\n' || c == '\r')

/-- A text that may start with a scheme: the scheme in lower case and the text after its colon. -/
def readScheme? (text : List Char) : Option (List Char × List Char) :=
  match text with
  | [] => none
  | c :: _ =>
    let name := text.takeWhile fun c =>
      c.isAlphanum || c == '+' || c == '-' || c == '.'
    match text.drop name.length with
    | ':' :: rest => if c.isAlpha then some (name.map Char.toLower, rest) else none
    | _ => none

/-- Whether a character separates the segments of a path. -/
def separates (special : Bool) (c : Char) : Bool :=
  c == '/' || (special && c == '\\')

/-! ### Paths -/

/-- Whether a segment stands for the one above it. -/
def isDoubleDot (segment : List Char) : Bool :=
  ["..", ".%2e", "%2e.", "%2e%2e"].contains (String.ofList (segment.map Char.toLower))

/-- Whether a segment stands for nothing. -/
def isSingleDot (segment : List Char) : Bool :=
  [".", "%2e"].contains (String.ofList (segment.map Char.toLower))

/-- Whether a segment is the letter of a drive. -/
def isDrive (segment : List Char) : Bool :=
  match segment with
  | [letter, mark] => letter.isAlpha && (mark == ':' || mark == '|')
  | _ => false

/-- A letter of a drive with a colon. -/
def driveText (segment : List Char) : List Char :=
  if isDrive segment then segment.take 1 ++ [':'] else segment

/-- The segments without the last one; a drive at the root of a file path stays. -/
def shorten (isFile : Bool) (path : List (List Char)) : List (List Char) :=
  match path with
  | [only] => if isFile && isDrive only then [only] else []
  | path => path.dropLast

/--
Appends raw segments to a path, with dot segments resolved and all else percent-encoded. A dot
segment at the end leaves an empty segment.
-/
def appendSegments (isFile : Bool) (path : List (List Char))
    : List (List Char) → List (List Char)
  | [] => path
  | segment :: rest =>
    let ending := if rest.isEmpty then [[]] else []
    if isDoubleDot segment then appendSegments isFile (shorten isFile path ++ ending) rest
    else if isSingleDot segment then appendSegments isFile (path ++ ending) rest
    else
      let written := percentEncode escapesPath segment
      let written := if isFile && path.isEmpty then driveText written else written
      appendSegments isFile (path ++ [written]) rest

/-- The path of local files: empty segments before the first other one are dropped. -/
def trimFilePath (path : List (List Char)) : List (List Char) :=
  match path.dropWhile List.isEmpty with
  | [] => [[]]
  | path => path

/-- The path of a text that follows an authority. -/
def readPath (scheme text : List Char) : Path :=
  let special := isSpecial scheme
  let isFile := scheme == fileScheme
  match text with
  | [] => if special then .segments [[]] else .segments []
  | c :: rest =>
    let raw := splitWhere (separates special) (if separates special c then rest else text)
    let path := appendSegments isFile [] raw
    .segments (if isFile then trimFilePath path else path)

/-! ### Authorities -/

/-- The text up to the path, and the path's text. -/
def cutPath (special : Bool) (text : List Char) : List Char × List Char :=
  let before := text.takeWhile fun c => !separates special c
  (before, text.drop before.length)

/-- The text before the last at sign, and the text after it; none if there is no at sign. -/
def cutUser? (text : List Char) : Option (List Char × List Char) :=
  let after := (text.reverse.takeWhile (· != '@')).reverse
  if after.length = text.length then none
  else some (text.take (text.length - after.length - 1), after)

/-- The text of a host, up to a colon outside of brackets, and the rest from that colon on. -/
def cutHost (inBrackets : Bool) : List Char → List Char × List Char
  | [] => ([], [])
  | c :: rest =>
    if c == ':' && !inBrackets then ([], c :: rest)
    else
      let inside := if c == '[' then true else if c == ']' then false else inBrackets
      let (host, after) := cutHost inside rest
      (c :: host, after)

/--
Reads the digits of a port number below 65536, and gives the text after them; none for no digits.
-/
def readPort (value : Option Nat) : List Char → Except Fault (Option Nat × List Char)
  | [] => .ok (value, [])
  | c :: rest =>
    if Text.isDigit c then
      let next := value.getD 0 * 10 + (c.toNat - 48)
      if 65535 < next then .error .invalidPort else readPort (some next) rest
    else if c == '\\' then .ok (value, c :: rest)
    else .error .invalidPort

/-- The part of a URL between scheme and path. -/
structure Authority where
  /-- The user name. -/
  username : List Char
  /-- The password. -/
  password : List Char
  /-- The host. -/
  host : Host
  /-- The port number, if it is not the scheme's default. -/
  portNumber : Option Nat

/-- Reads the text between scheme and path; gives the authority and what belongs to the path. -/
def readAuthority (scheme text : List Char) (followed : Bool)
    : Except Fault (Authority × List Char) := do
  let special := isSpecial scheme
  let (user, address) ← match cutUser? text with
    | none => pure ([], text)
    | some ([], address) =>
      if address.isEmpty && followed then .error .emptyHost else pure ([], address)
    | some parts => pure parts
  let (username, password) := cut ':' user
  let (hostText, after) := cutHost false address
  if special && hostText.isEmpty then .error .emptyHost
  let host ← if special then Host.readDomain hostText else Host.readPlain hostText
  if !host.isPresent && after.head? = some ':' then .error .emptyHost
  let (number, rest) ← if after.isEmpty then pure (none, []) else readPort none after.tail
  let username := percentEncode escapesUser username
  let password := percentEncode escapesUser (password.getD [])
  if !host.isPresent && !(username.isEmpty && password.isEmpty) then .error .emptyHost
  let number := if number = defaultPort? scheme then none else number
  .ok (⟨username, password, host, number⟩, rest)

/-! ### URLs -/

/-- The query of a URL, percent-encoded as its scheme demands. -/
def encodeQuery (scheme query : List Char) : List Char :=
  percentEncode (if isSpecial scheme then escapesSpecialQuery else escapesQuery) query

/-- A URL without user, host and port number. -/
def ofPath (scheme : List Char) (host : Option Host) (path : Path) : Url :=
  ⟨scheme, [], [], host, none, path, none, none⟩

/-- Reads what follows the two slashes behind a scheme. -/
def readAfterSlashes (scheme text : List Char) (followed : Bool) : Except Fault Url := do
  let (before, pathText) := cutPath (isSpecial scheme) text
  let (authority, extra) ← readAuthority scheme before (followed || !pathText.isEmpty)
  let path := readPath scheme (extra ++ pathText)
  .ok ⟨scheme, authority.username, authority.password, some authority.host,
    authority.portNumber, path, none, none⟩

/-- The host of a local file; the own machine is no host, and a drive belongs to the path. -/
def readFileHost (text : List Char) : Except Fault (Host × List Char) :=
  let (hostText, pathText) := cutPath true text
  if isDrive hostText then .ok (.name [], text)
  else if hostText.isEmpty then .ok (.name [], pathText)
  else
    match Host.readDomain hostText with
    | .error fault => .error fault
    | .ok host => .ok (if host = .name "localhost".toList then .name [] else host, pathText)

/-- A local file; on a drive, it is a file of the own machine. -/
def ofFile (host : Host) (pathText : List Char) : Url :=
  let path := readPath fileScheme pathText
  match path with
  | .segments (first :: _) =>
    ofPath fileScheme (some (if isDrive first then .name [] else host)) path
  | path => ofPath fileScheme (some host) path

/-- Reads what follows the scheme of local files. -/
def readFile (text : List Char) : Except Fault Url :=
  match text with
  | a :: b :: rest =>
    if separates true a && separates true b then do
      let (host, pathText) ← readFileHost rest
      .ok (ofFile host pathText)
    else .ok (ofFile (.name []) text)
  | text => .ok (ofFile (.name []) text)

/-- Reads what follows any scheme, without query and fragment. -/
def readHierarchy (scheme text : List Char) (followed : Bool) : Except Fault Url :=
  if scheme = fileScheme then readFile text
  else if isSpecial scheme then
    readAfterSlashes scheme (text.dropWhile (separates true)) followed
  else
    match text with
    | '/' :: '/' :: rest => readAfterSlashes scheme rest followed
    | '/' :: rest =>
      .ok (ofPath scheme none (.segments (appendSegments false [] (splitAt '/' rest))))
    | text => .ok (ofPath scheme none (.whole (percentEncode escapesControl text)))

/-- A text cut into the part before the query, the query and the fragment. -/
def cutEnds (text : List Char) : List Char × Option (List Char) × Option (List Char) :=
  let (body, fragment) := cut '#' text
  let (before, query) := cut '?' body
  (before, query, fragment)

/-- A URL with query and fragment added. -/
def withEnds (url : Url) (query fragment : Option (List Char)) : Url :=
  { url with
    query := query.map (encodeQuery url.scheme)
    fragment := fragment.map (percentEncode escapesFragment) }

/-- Reads what follows a scheme. -/
def readAfterScheme (scheme text : List Char) : Except Fault Url :=
  let (before, query, fragment) := cutEnds text
  (readHierarchy scheme before (query.isSome || fragment.isSome)).map fun url =>
    url.withEnds query fragment

/-- Reads an absolute URL from characters. -/
def ofChars (text : List Char) : Except Fault Url :=
  let text := clean text
  match readScheme? text with
  | none => .error .noScheme
  | some (scheme, rest) => readAfterScheme scheme rest

/-- Reads an absolute URL. -/
def ofText (text : String) : Except Fault Url :=
  ofChars text.toList

/-! ### References -/

/-- Resolves a reference without scheme against a special URL. -/
def resolveRelative (base : Url) (text : List Char) : Except Fault Url :=
  let (before, query, fragment) := cutEnds text
  let slashes := (before.takeWhile (separates true)).length
  let kept := match base.path with
    | .segments segments => segments
    | .whole _ => []
  if 2 ≤ slashes then
    (readAfterSlashes base.scheme (before.drop slashes) (query.isSome || fragment.isSome)).map
      fun url => url.withEnds query fragment
  else if slashes = 1 then
    .ok ({ base with path := readPath base.scheme before }.withEnds query fragment)
  else if before.isEmpty then
    match query with
    | none => .ok { base with fragment := fragment.map (percentEncode escapesFragment) }
    | some _ => .ok (base.withEnds query fragment)
  else
    let raw := splitWhere (separates true) before
    .ok ({ base with path := .segments (appendSegments false kept.dropLast raw) }.withEnds
      query fragment)

/--
Resolves a reference against the URL of a web page: an absolute URL stands for itself, and
everything else replaces the end of the page's URL.
-/
def resolve (base : Url) (reference : List Char) : Except Fault Url :=
  let text := clean reference
  match readScheme? text with
  | some (scheme, rest) =>
    if scheme = base.scheme && (rest.takeWhile (separates true)).length < 2 then
      resolveRelative base rest
    else readAfterScheme scheme rest
  | none => resolveRelative base text

end DiscordRest.Url
