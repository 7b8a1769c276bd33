import DiscordRest.Snowflake
import DiscordRest.Text.Map

/-!
Requests for one page of records: the side of a cursor to look at, the cursor, and how many
records to give at most.
-/

namespace DiscordRest.Paging

/-- The side of a cursor on which a page lies. -/
inductive Direction where
  /-- Records with greater identifiers, the oldest first. -/
  | after
  /-- Records with smaller identifiers, the newest first. -/
  | before
  deriving DecidableEq, Repr

namespace Direction

/-- Pages lie after the cursor unless something else is said. -/
instance : Inhabited Direction := ⟨after⟩

/-- The name of a direction, which is also the query parameter that carries the cursor. -/
def name : Direction → String
  | after => "after"
  | before => "before"

/-- Whether a move of the cursor goes strictly in a direction. -/
def advances (direction : Direction) (source target : Snowflake) : Bool :=
  match direction with
  | after => source < target
  | before => target < source

end Direction

/-- The query parameter that carries the number of records. -/
def limitName : String := "limit"

/-- A request for one page. -/
structure PageRequest where
  /-- The side of the cursor. -/
  direction : Direction
  /-- The cursor. -/
  cursor : Snowflake
  /-- The greatest number of records wanted. -/
  limit : UInt32
  deriving DecidableEq, Repr

/-- The query parameters of a request: the cursor under its direction's name, and the limit. -/
def PageRequest.parameters (request : PageRequest) : TextMap :=
  (TextMap.empty.put request.direction.name request.cursor.text).put
    limitName (Text.decimal request.limit.toNat)

end DiscordRest.Paging
