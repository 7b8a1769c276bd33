import DiscordRest.Paging.Paginator

/-!
Sources held in memory: a script of pages, one page repeated for ever, and a data set that is
served page by page. They remember the requests they got.
-/

namespace DiscordRest.Paging

/-- A record with its identifier and the key by which it is paged. -/
structure Entry where
  /-- The identifier. -/
  id : Snowflake
  /-- The key. -/
  key : Snowflake
  deriving DecidableEq, Repr

/-- The entry whose key is its identifier. -/
def Entry.ofId (id : Snowflake) : Entry :=
  ⟨id, id⟩

/-- What a source in memory serves. -/
inductive Stock where
  /-- One page after another, whatever is asked, and empty pages at the end. -/
  | script (pages : List (Except Error (List Entry)))
  /-- The same page for every request. -/
  | constant (page : Except Error (List Entry))
  /-- The entries on the asked side of the cursor; the call with number `failing` fails. -/
  | dataSet (ids : List Snowflake) (failing : Option Nat)

/-- The page of a data set that a request asks for, in the order of its direction. -/
def servePage (ids : List Snowflake) (request : PageRequest) : List Snowflake :=
  match request.direction with
  | .after => (ids.filter fun id => request.cursor < id).take request.limit.toNat
  | .before => (ids.reverse.filter fun id => id < request.cursor).take request.limit.toNat

/-- A source in memory. -/
structure Memory where
  /-- What it serves. -/
  stock : Stock
  /-- The requests it got, the latest first. -/
  requests : List PageRequest

namespace Memory

/-- A source that got no request yet. -/
def ofStock (stock : Stock) : Memory :=
  ⟨stock, []⟩

/-- Answers a request and remembers it. -/
def fetch : Source Memory Entry := fun memory request =>
  let requests := request :: memory.requests
  match memory.stock with
  | .script [] => ⟨⟨.script [], requests⟩, .ok [], []⟩
  | .script (page :: rest) => ⟨⟨.script rest, requests⟩, page, []⟩
  | .constant page => ⟨⟨.constant page, requests⟩, page, []⟩
  | .dataSet ids failing =>
    let answer := if failing = some requests.length
      then .error (.status 500 "Internal Server Error")
      else .ok ((servePage ids request).map .ofId)
    ⟨⟨.dataSet ids failing, requests⟩, answer, []⟩

end Memory

end DiscordRest.Paging
