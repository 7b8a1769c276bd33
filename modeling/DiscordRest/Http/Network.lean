import DiscordRest.Http.Request

/-!
A network whose answers are known beforehand: they are used up one by one, whatever is asked, and
every request that gets through is remembered.
-/

namespace DiscordRest.Http

/-- An answer to a request. -/
structure Response where
  /-- The status. -/
  status : UInt16
  /-- The headers. -/
  headers : Headers
  /-- The bytes of the body. -/
  body : List UInt8
  /-- Whether the body arrived as a whole. -/
  complete : Bool
  deriving DecidableEq, Repr

namespace Response

/-- Whether a status means success. -/
def isSuccess (response : Response) : Bool :=
  200 ≤ response.status && response.status < 300

/-- The answer of a network that has no further answers. -/
def exhausted : Response :=
  ⟨404, [], Text.utf8Bytes "no more responses".toList, true⟩

/-- The answer without a body. -/
def withoutBody (response : Response) : Response :=
  { response with body := [], complete := true }

/-- Whether answers with a status never have a body. -/
def isBodiless (response : Response) : Bool :=
  response.status == 204 || response.status == 304

/-- The text of the body, unless it did not arrive as a whole. -/
def text (response : Response) : Except Failure String :=
  if response.complete then .ok (String.ofList (Text.decodeLenient response.body))
  else .error .truncated

end Response

/-- A network. -/
structure Network where
  /-- Whether hosts can be reached. -/
  connected : Bool
  /-- The answers to come; none stands for a connection that is closed without an answer. -/
  answers : List (Option Response)
  /-- The requests that got through, the first one first. -/
  received : List Request
  deriving DecidableEq, Repr

namespace Network

/-- Whether a URL can be reached: only plain connections are. -/
def reaches (network : Network) (url : Url) : Bool :=
  network.connected && url.scheme == "http".toList

/-- The answer to a method: some methods and statuses go without a body. -/
def fit (method : String) (response : Response) : Response :=
  if method == "HEAD" || response.isBodiless then response.withoutBody else response

/-- Sends a request: the network after it, and the answer if one came. -/
def send (network : Network) (request : Request) : Network × Option Response :=
  if network.reaches request.url then
    let received := network.received ++ [request]
    match network.answers with
    | [] => ({ network with received }, some (fit request.method .exhausted))
    | answer :: answers => ({ network with answers, received }, answer.map (fit request.method))
  else (network, none)

end Network

end DiscordRest.Http
