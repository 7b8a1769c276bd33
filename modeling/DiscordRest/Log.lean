import DiscordRest.Error
import DiscordRest.Paging.Request

/-! Events that the library reports while it works. -/

namespace DiscordRest.Log

open Paging

/-- How urgent an event is. -/
inductive Level where
  /-- An operation failed. -/
  | error
  /-- Something looks wrong. -/
  | warning
  /-- An operation is done. -/
  | information
  /-- A step of an operation is done. -/
  | detail
  deriving DecidableEq, Repr

/-- The name of a level. -/
def Level.name : Level → String
  | error => "ERROR"
  | warning => "WARN"
  | information => "INFO"
  | detail => "DEBUG"

/-- Whether events of a level are shown; details only if they are asked for. -/
def Level.isShown (verbose : Bool) : Level → Bool
  | detail => verbose
  | _ => true

/-- An event. -/
inductive Event where
  /-- A page with records was fetched. -/
  | pageFetched (page : UInt32) (records : Nat) (request : PageRequest) (next : Snowflake)
  /-- An empty page ended a walk. -/
  | exhausted (pages : UInt32) (records : UInt64)
  /-- The last record of a page does not lie beyond the cursor of its request. -/
  | cursorStuck (direction : Direction) (source target : Snowflake)
  /-- A page could not be fetched. -/
  | pageFailed (request : PageRequest) (error : Error)
  /-- A request was answered with success. -/
  | requestSucceeded (method url : String)
  /-- A request was answered, but not with success. -/
  | requestFailed (method url : String) (code : UInt16)
  /-- A listing is complete. -/
  | listed (count : Nat) (what : String)
  /-- A listing broke off. -/
  | listingFailed (what : String) (count : Nat) (error : Error)
  deriving DecidableEq, Repr

namespace Event

/-- The level of an event. -/
def level : Event → Level
  | pageFetched .. => .detail
  | exhausted .. => .detail
  | cursorStuck .. => .warning
  | pageFailed .. => .detail
  | requestSucceeded .. => .detail
  | requestFailed .. => .detail
  | listed .. => .information
  | listingFailed .. => .error

/-- A request by its direction and cursor. -/
def requestWords (request : PageRequest) : String :=
  request.direction.name ++ "=" ++ request.cursor.text

/-- The words for an event; `order` is that of the pairs in the query of a URL. -/
def message (event : Event) (order : Arrangement := .asGiven) : String :=
  match event with
  | pageFetched page records request next =>
    "Fetched page " ++ Text.decimal page.toNat ++ " (" ++ Text.decimal records ++ " records) at "
      ++ requestWords request ++ ", next cursor " ++ next.text
  | exhausted pages records =>
    "Pagination exhausted after " ++ Text.decimal pages.toNat ++ " pages, "
      ++ Text.decimal records.toNat ++ " records"
  | cursorStuck direction source target =>
    "Cursor did not move " ++ direction.name ++ ": " ++ source.text ++ " -> " ++ target.text
  | pageFailed request error =>
    "Page fetch failed at " ++ requestWords request ++ ": " ++ error.message order
  | requestSucceeded method url => "Request succeeded: " ++ method ++ " " ++ url
  | requestFailed method url code =>
    "Request failed: " ++ method ++ " " ++ url ++ " -> " ++ Text.decimal code.toNat
  | listed count what => "Listed " ++ Text.decimal count ++ " " ++ what
  | listingFailed what count error =>
    "Listing " ++ what ++ " failed after " ++ Text.decimal count ++ " records: "
      ++ error.message order

/-- An event as a line of a log. -/
def line (event : Event) (order : Arrangement := .asGiven) : String :=
  event.level.name ++ " " ++ event.message order

end Event

end DiscordRest.Log
