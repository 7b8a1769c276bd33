import DiscordRest.Form
import DiscordRest.Http.Address
import DiscordRest.Http.Failure
import DiscordRest.Http.Header
import DiscordRest.Http.RouterSettings
import DiscordRest.Json.Codec
import DiscordRest.Text.Base64

/-!
Requests: what is wanted of a router, and what goes over the network for it. A request whose URL or
headers are invalid is never sent.
-/

namespace DiscordRest.Http

/-- What a request carries besides its method and path. -/
structure RequestOptions where
  /-- The pairs that are added to the query. -/
  query : TextMap
  /-- The headers. -/
  headers : TextMap
  /-- The body. -/
  body : Option Json.Value

namespace RequestOptions

/-- A request carries nothing unless something else is said. -/
instance : Inhabited RequestOptions := ⟨⟨.empty, .empty, none⟩⟩

/-- The options with a pair added to the query. -/
def withQuery (options : RequestOptions) (name value : String) : RequestOptions :=
  { options with query := options.query.put name value }

/-- The options with several pairs added to the query. -/
def withQueries (options : RequestOptions) (pairs : TextMap) : RequestOptions :=
  { options with query := options.query.putAll pairs }

/-- The options with a header added. -/
def withHeader (options : RequestOptions) (name value : String) : RequestOptions :=
  { options with headers := options.headers.put name value }

/-- The options with a body, whose members are put in order. -/
def withBody (options : RequestOptions) (body : Json.Value) : RequestOptions :=
  { options with body := some body.normalise }

end RequestOptions

/-- A request as it is sent. -/
structure Request where
  /-- The method. -/
  method : String
  /-- The URL, without user name and password. -/
  url : Url
  /-- The headers. -/
  headers : Headers
  /-- The text of the body. -/
  body : Option String
  deriving DecidableEq, Repr

namespace Request

/--
Whether a URL that is fetched can be sent: it is not too long, and no sign in its host stands
against it. As it was read nothing else can.
-/
def isSendable (url : Url) : Bool :=
  let host := (url.host.map Url.Host.text).getD []
  (!host.any fun c => ['\x22', '\x60', '\x7b', '\x7d'].contains c)
    && url.chars.length ≤ Address.lengthLimit

/-- Whether a URL is fetched over the network. -/
def isFetchable (url : Url) : Bool :=
  url.scheme == "http".toList || url.scheme == "https".toList

/-- Whether a URL is an address, be it fetched or not. -/
def isAddress (url : Url) : Bool :=
  if isFetchable url then isSendable url else Address.isWellFormed url

/--
The user and the password in a URL, as they are meant; none if there are none. A user that is no
text hides the password, and a password that is no text is none.
-/
def credentials? (url : Url) : Option (List Char × List Char) :=
  match Text.decodeStrict? (Url.percentDecode url.username) with
  | none => none
  | some user =>
    let password :=
      if url.password.isEmpty then none else Text.decodeStrict? (Url.percentDecode url.password)
    if user.isEmpty && password.isNone then none else some (user, password.getD [])

/-- The header for a user and a password. -/
def basicAuthorization (user password : List Char) : Header :=
  ⟨"authorization",
    "Basic " ++ String.ofList (Text.base64 (Text.utf8Bytes (user ++ [':'] ++ password)))⟩

/-- The header for the credentials of a URL, if it has any. -/
def credentialsLine : Option (List Char × List Char) → Headers
  | none => []
  | some (user, password) => [basicAuthorization user password]

/-- Headers from the entries of a map; none if one of them is invalid. -/
def headersOf? (map : TextMap) : Option Headers :=
  map.entries.mapM fun entry => Header.ofTexts? entry.1 entry.2

/-- The URL with pairs added to its query. -/
def addQuery (url : Url) (pairs : TextMap) : Url :=
  if pairs.isEmpty then url
  else { url with query := some (Form.extend (url.query.getD []) pairs.entries) }

/--
The headers that are sent: the credentials of the URL, those of the router and those of the
request, the type of a body, and the name of the program.
-/
def sentHeaders (settings : RouterSettings) (credentials : Option (List Char × List Char))
    (given : Headers) (hasBody : Bool) : Headers :=
  let signed : Headers := credentialsLine credentials ++ given
  let typed := if hasBody then signed.withDefault "content-type" "application/json" else signed
  (typed.withDefault "user-agent" settings.userAgent).withDefault "accept" "*/*"

/--
The request for a URL. Of several faults the first one counts: an unreadable URL, a URL without
host, an invalid header, a scheme that cannot be fetched, and a URL that cannot be sent.
-/
def make (settings : RouterSettings) (method fullUrl : String) (options : RequestOptions)
    : Except Failure Request :=
  match Url.ofText fullUrl with
  | .error _ => .error (.invalidRequest none)
  | .ok url =>
    if !url.hasHost then .error (.invalidRequest (some url))
    else
      let credentials := credentials? url
      let url := if credentials.isSome then url.withoutUser else url
      match headersOf? settings.headers, headersOf? options.headers with
      | some always, some extra =>
        let url := addQuery url options.query
        if !isFetchable url || !isSendable url then
          .error (.invalidRequest (some url))
        else
          .ok ⟨method, url,
            sentHeaders settings credentials (always ++ extra) options.body.isSome,
            options.body.map Json.Value.text⟩
      | _, _ => .error (.invalidRequest none)

end Request

end DiscordRest.Http
