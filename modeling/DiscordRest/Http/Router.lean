import DiscordRest.Http.Redirect
import DiscordRest.Reply

/-!
Routers: they send each request once to the root they are set to, report how it went, and read the
answer. Any status but success is an error that carries the status and the body.
-/

namespace DiscordRest.Http

/-- A router. -/
structure Router where
  /-- Its settings. -/
  settings : RouterSettings
  /-- The root of all its paths. -/
  base : Url
  deriving DecidableEq

namespace Router

/-- A router for some settings: the root must be fit for paths, and the user agent for a header. -/
def ofSettings (settings : RouterSettings) : Except Error Router :=
  match Url.ofText settings.baseUrl with
  | .error fault => .error (.invalidUrl fault)
  | .ok base =>
    if base.cannotBeBase then
      .error (.configuration ("Base URL cannot be a base: " ++ settings.baseUrl))
    else if Header.isValue settings.userAgent then .ok ⟨settings, base⟩
    else .error (.http (.invalidRequest none))

/-- Words for a router, which do not show its headers. -/
def words (router : Router) : String :=
  "Router \x7b base_url: " ++ Text.quoted router.settings.baseUrl
    ++ ", timeout: " ++ durationWords router.settings.timeout
    ++ ", user_agent: " ++ Text.quoted router.settings.userAgent ++ ", .. \x7d"

/-- Whether a path is a URL of its own. -/
def isAbsolute (path : String) : Bool :=
  path.startsWith "http://" || path.startsWith "https://"

/-- The URL of a path: the path behind the root with one slash between, or the path itself. -/
def fullUrl (router : Router) (path : String) : String :=
  if isAbsolute path then path
  else
    let root := (router.base.chars.reverse.dropWhile (· == '/')).reverse
    String.ofList (root ++ ['/'] ++ path.toList.dropWhile (· == '/'))

/-- What an answer means, and what is reported of it; a body that was cut off comes first. -/
def read (method url : String) (response : Response) : Except Error String × List Log.Event :=
  match response.text with
  | .error failure => (.error (.http failure), [])
  | .ok body =>
    if response.isSuccess then (.ok body, [.requestSucceeded method url])
    else
      (.error (.status response.status body),
        [.requestFailed method url response.status])

/-- Sends a request and gives the body of the answer. -/
def request (router : Router) (method path : String) (options : RequestOptions)
    (network : Network) : Reply Network String :=
  let url := router.fullUrl path
  match Request.make router.settings method url options with
  | .error failure => .failure network (.http failure)
  | .ok request =>
    match network.exchange redirectLimit request with
    | (network, .error failure) => .failure network (.http failure)
    | (network, .ok response) =>
      let (answer, events) := read method url response
      ⟨network, answer, events⟩

/-- Reads a body; an empty one stands for null. -/
def decode {α : Type} (codec : Json.Codec α) (body : String) : Except Error α :=
  (codec.ofText (if body.isEmpty then "null" else body)).mapError .invalidJson

/-- Sends a request and reads the body of the answer. -/
def requestJson {α : Type} (router : Router) (codec : Json.Codec α) (method path : String)
    (options : RequestOptions) (network : Network) : Reply Network α :=
  (router.request method path options network).read (decode codec)

/-- Asks for a path. -/
def getJson {α : Type} (router : Router) (codec : Json.Codec α) (path : String) (query : TextMap)
    (network : Network) : Reply Network α :=
  router.requestJson codec "GET" path { (default : RequestOptions) with query } network

/-- Sends a value to a path. -/
def postJson {α : Type} (router : Router) (codec : Json.Codec α) (path : String)
    (body : Json.Value) (network : Network) : Reply Network α :=
  router.requestJson codec "POST" path ((default : RequestOptions).withBody body) network

/-- Sends changes to a path. -/
def patchJson {α : Type} (router : Router) (codec : Json.Codec α) (path : String)
    (body : Json.Value) (network : Network) : Reply Network α :=
  router.requestJson codec "PATCH" path ((default : RequestOptions).withBody body) network

end Router

end DiscordRest.Http
