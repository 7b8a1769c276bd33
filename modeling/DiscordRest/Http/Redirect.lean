import DiscordRest.Http.Network

/-!
Redirects: an answer may send a request to another place. At most ten redirects are followed; the
method, the body and the credentials of the request may be lost on the way.
-/

namespace DiscordRest.Http

/-- How many redirects are followed. -/
def redirectLimit : Nat := 10

/-- The headers that describe a body. -/
def bodyHeaders : List String :=
  ["transfer-encoding", "content-encoding", "content-type", "content-length"]

/-- The headers that are meant for one host alone. -/
def privateHeaders : List String :=
  ["authorization", "cookie", "cookie2", "proxy-authorization", "www-authenticate"]

/-- Whether a status asks to go elsewhere. -/
def isRedirect (status : UInt16) : Bool :=
  [301, 302, 303, 307, 308].contains status

/-- The place that an answer to a request for `url` sends to, if it is an address. -/
def Response.target? (response : Response) (url : Url) : Option Url :=
  if isRedirect response.status then do
    let location ← response.headers.get? "location"
    let target ← (url.resolve location.toList).toOption
    if Request.isAddress target then some target else none
  else none

/-- Whether two URLs are for the same host and port number. -/
def sameHost (a b : Url) : Bool :=
  a.host == b.host && a.effectivePort == b.effectivePort

namespace Request

/-- Whether a redirect makes a request a plain one without a body. -/
def losesBody (request : Request) (status : UInt16) : Bool :=
  if status == 303 then request.method != "HEAD"
  else (status == 301 || status == 302) && request.method == "POST"

/-- The request as a plain one without a body. -/
def asGet (request : Request) : Request :=
  { request with method := "GET", headers := request.headers.without bodyHeaders, body := none }

/-- The request at another place; private headers stay behind where the host changes. -/
def movedTo (request : Request) (target : Url) : Request :=
  let kept :=
    if sameHost request.url target then request.headers
    else request.headers.without privateHeaders
  let referer := { request.url.withoutUser with fragment := none }.text
  { request with url := target.withoutUser, headers := kept.replace "referer" referer }

/-- The request that follows a redirect. -/
def redirected (request : Request) (status : UInt16) (target : Url) : Request :=
  (if request.losesBody status then request.asGet else request).movedTo target

end Request

/-- Sends a request and follows at most `limit` redirects. -/
def Network.exchange : Nat → Network → Request → Network × Except Failure Response
  | limit, network, request =>
    match network.send request with
    | (network, none) => (network, .error (.noAnswer request.url))
    | (network, some response) =>
      match response.target? request.url, limit with
      | none, _ => (network, .ok response)
      | some _, 0 => (network, .error (.tooManyRedirects request.url))
      | some target, limit + 1 =>
        if Request.isFetchable target then
          exchange limit network (request.redirected response.status target)
        else (network, .error (.invalidRequest (some target)))

end DiscordRest.Http
