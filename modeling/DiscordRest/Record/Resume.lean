import DiscordRest.Json.Layout

/-! The event that tells of a resumed session. -/

namespace DiscordRest

open Json

/-- A session was resumed. -/
structure ResumeEvent where
  /-- The servers that handled the resumption. -/
  trace : List String
  deriving DecidableEq, Repr

namespace ResumeEvent

/-- An event without servers is the default. -/
instance : Inhabited ResumeEvent := ⟨⟨[]⟩⟩

/-- The layout of a resumption. -/
def layout : Layout :=
  ⟨"ResumeEvent", [.withDefault "_trace" (.list .string) []]⟩

/-- How resumptions are read and written. -/
def codec : Codec ResumeEvent :=
  layout.closedCodec.convert (fun (trace, ()) => ⟨trace⟩) fun event => (event.trace, ())

/-- The event in words. -/
def display (event : ResumeEvent) : String :=
  "ResumeEvent\x7btrace=[" ++ String.intercalate ", " event.trace ++ "]\x7d"

end ResumeEvent

end DiscordRest
