import DiscordRest.Program
import DiscordRest.Text.Map
import DiscordRest.Text.Numeral

/-! Settings of a router: where its requests go, and what they all carry. -/

namespace DiscordRest.Http

/-- The root of the service unless something else is said. -/
def defaultBaseUrl : String := "https://discord.com/api/v10"

/-- How requests name the program unless something else is said. -/
def defaultUserAgent : String :=
  "DiscordBot (" ++ Program.name ++ ", " ++ Program.version ++ ")"

/-- The name of the header that carries the credentials. -/
def authorizationName : String := "Authorization"

/-- Settings of a router. -/
structure RouterSettings where
  /-- The root below which all paths lie. -/
  baseUrl : String
  /-- After how many milliseconds a request is given up. -/
  timeout : Nat
  /-- The headers of all requests. -/
  headers : TextMap
  /-- How requests name the program. -/
  userAgent : String
  deriving DecidableEq

namespace RouterSettings

/-- A router goes to the service itself unless something else is said. -/
instance : Inhabited RouterSettings := ⟨⟨defaultBaseUrl, 30000, .empty, defaultUserAgent⟩⟩

/-- The settings with a header added. -/
def withHeader (settings : RouterSettings) (name value : String) : RouterSettings :=
  { settings with headers := settings.headers.put name value }

/-- The settings with credentials for all requests. -/
def withAuthorization (settings : RouterSettings) (value : String) : RouterSettings :=
  settings.withHeader authorizationName value

end RouterSettings

/-- A time span in the greatest unit of which it is not a mere fraction, without needless zeros. -/
def durationWords (milliseconds : Nat) : String :=
  if milliseconds = 0 then "0ns"
  else if milliseconds < 1000 then Text.decimal milliseconds ++ "ms"
  else
    let fraction := ((Text.decimalPadded 3 (milliseconds % 1000)).toList.reverse.dropWhile
      (· == '0')).reverse
    Text.decimal (milliseconds / 1000)
      ++ (if fraction.isEmpty then "" else "." ++ String.ofList fraction) ++ "s"

end DiscordRest.Http
