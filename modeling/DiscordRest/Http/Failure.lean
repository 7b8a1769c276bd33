import DiscordRest.Arrangement
import DiscordRest.Url.Basic

/-! Reasons why a request got no usable answer. -/

namespace DiscordRest.Http

/-- A reason why a request got no usable answer. -/
inductive Failure where
  /-- The request could not be made: its URL, if that could be read, or a part of it is invalid. -/
  | invalidRequest (url : Option Url)
  /-- No answer came. -/
  | noAnswer (url : Url)
  /-- The answer ended too early. -/
  | truncated
  /-- There were too many redirects. -/
  | tooManyRedirects (url : Url)
  deriving DecidableEq, Repr

/-- The text of a URL in messages; the pairs of its query are those of a map, in some order. -/
def shownUrl (order : Arrangement) (url : Url) : String :=
  let query := url.query.map fun query =>
    let pairs := order.arrange ((Url.splitAt '&' query).map String.ofList)
    ['&'].intercalate (pairs.map String.toList)
  { url with query }.text

/-- The words for a failure. -/
def Failure.message (failure : Failure) (order : Arrangement := .asGiven) : String :=
  match failure with
  | invalidRequest none => "builder error"
  | invalidRequest (some url) => "builder error for url (" ++ shownUrl order url ++ ")"
  | noAnswer url => "error sending request for url (" ++ shownUrl order url ++ ")"
  | truncated => "error decoding response body"
  | tooManyRedirects url =>
    "error following redirect for url (" ++ shownUrl order url ++ ")"

end DiscordRest.Http
