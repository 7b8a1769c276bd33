import DiscordRest.Reply

/-!
Pagination: asking for page after page, each on the far side of the last record of the page
before, until a page is empty or a request fails. A walk gives one record at each poll and asks
for the next page only when the records of the last one are used up.
-/

namespace DiscordRest.Paging

/-- The number of records on a page unless something else is said. -/
def defaultPageSize : UInt32 := 100

/-- How to page through a collection. -/
structure Paginator where
  /-- The side of the cursor on which the walk goes. -/
  direction : Direction
  /-- The greatest number of records on a page. -/
  pageSize : UInt32
  /-- The first cursor. -/
  start : Snowflake
  deriving DecidableEq, Repr

namespace Paginator

/-- From the beginning in ascending order. -/
def after (pageSize : UInt32) : Paginator :=
  ⟨.after, pageSize, .zero⟩

/-- Below the start in descending order. -/
def before (pageSize : UInt32) : Paginator :=
  ⟨.before, pageSize, .zero⟩

/-- A paginator goes through everything from the beginning unless something else is said. -/
instance : Inhabited Paginator := ⟨after defaultPageSize⟩

/-- The paginator with another first cursor. -/
def startAt (paginator : Paginator) (start : Snowflake) : Paginator :=
  { paginator with start }

/-- The request for the page at a cursor. -/
def request (paginator : Paginator) (cursor : Snowflake) : PageRequest :=
  ⟨paginator.direction, cursor, paginator.pageSize⟩

end Paginator

/-- How far a walk has come. -/
structure Progress where
  /-- The cursor of the next request. -/
  cursor : Snowflake
  /-- How many pages were received, the empty one at the end included. -/
  pages : UInt32
  /-- How many records were received. -/
  records : UInt64
  /-- Whether nothing is left to ask for. -/
  done : Bool
  deriving DecidableEq, Repr

namespace Progress

/-- Nothing was received yet. -/
def startingAt (cursor : Snowflake) : Progress :=
  ⟨cursor, 0, 0, false⟩

/-- A walk starts at the cursor zero unless something else is said. -/
instance : Inhabited Progress := ⟨startingAt .zero⟩

/-- Counts a page with some number of records; behind its width a counter starts again at zero. -/
def addPage (progress : Progress) (count : Nat) : Progress :=
  { progress with
    pages := progress.pages + 1
    records := progress.records + UInt64.ofNat count }

/--
Counts a page in a program that checks its sums. It stops where a counter has no room for the page,
and then there is no progress.
-/
def addPage? (progress : Progress) (count : Nat) : Option Progress :=
  if progress.pages.toNat + 1 < UInt32.size ∧ progress.records.toNat + count < UInt64.size
  then some (progress.addPage count)
  else none

/-- Moves the cursor. -/
def moveTo (progress : Progress) (cursor : Snowflake) : Progress :=
  { progress with cursor }

/-- Nothing is left to ask for. -/
def finish (progress : Progress) : Progress :=
  { progress with done := true }

end Progress

/-- A source of pages of records: its state may change with every request. -/
abbrev Source (σ ρ : Type) : Type :=
  σ → PageRequest → Reply σ (List ρ)

/-- A walk through the pages of a source. -/
structure Walk (ρ : Type) where
  /-- How to page. -/
  paginator : Paginator
  /-- How far the walk has come. -/
  progress : Progress
  /-- The records of the last page that were not given out yet. -/
  pending : List ρ

/-- What a poll of a walk gives. -/
inductive Item (ρ : Type) where
  /-- A record. -/
  | record (record : ρ)
  /-- A failure, after which the walk is at its end. -/
  | failure (error : Error)
  /-- The end of the walk. -/
  | finished

/-- A walk after a poll. -/
structure Polled (σ ρ : Type) where
  /-- What the poll gave. -/
  item : Item ρ
  /-- The walk. -/
  walk : Walk ρ
  /-- The source. -/
  state : σ
  /-- What was reported. -/
  events : List Log.Event

namespace Walk

variable {σ ρ : Type}

/-- Opens a walk; nothing is asked for yet. A page must hold at least one record. -/
def open? (paginator : Paginator) : Except Error (Walk ρ) :=
  if paginator.pageSize = 0 then .error (.invalidPageSize paginator.pageSize)
  else .ok ⟨paginator, .startingAt paginator.start, []⟩

/-- The next request of a walk. -/
def request (walk : Walk ρ) : PageRequest :=
  walk.paginator.request walk.progress.cursor

/-- What is reported of a page whose last record is `next`. -/
def pageEvents (walk : Walk ρ) (count : Nat) (next : Snowflake) : List Log.Event :=
  let cursor := walk.progress.cursor
  let direction := walk.paginator.direction
  (if direction.advances cursor next then [] else [.cursorStuck direction cursor next])
    ++ [.pageFetched (walk.progress.addPage count).pages count walk.request next]

/--
Gives the next record of a walk. A record is pending, or the next page is asked for: its first
record is given, the others become pending, and the key of its last record becomes the cursor.
-/
def poll (source : Source σ ρ) (key : ρ → Snowflake) (walk : Walk ρ) (state : σ)
    : Polled σ ρ :=
  match walk.pending with
  | record :: rest => ⟨.record record, { walk with pending := rest }, state, []⟩
  | [] =>
    if walk.progress.done then ⟨.finished, walk, state, []⟩
    else
      let reply := source state walk.request
      match reply.answer with
      | .error error =>
        ⟨.failure error, { walk with progress := walk.progress.finish }, reply.state,
          reply.events ++ [.pageFailed walk.request error]⟩
      | .ok [] =>
        let progress := (walk.progress.addPage 0).finish
        ⟨.finished, { walk with progress }, reply.state,
          reply.events ++ [.exhausted progress.pages progress.records]⟩
      | .ok (first :: rest) =>
        let count := rest.length + 1
        let next := key ((first :: rest).getLast (List.cons_ne_nil first rest))
        let progress := (walk.progress.addPage count).moveTo next
        ⟨.record first, { walk with progress, pending := rest }, reply.state,
          reply.events ++ walk.pageEvents count next⟩

/-- How many records the page has that a poll receives; none if it receives no page. -/
def receives? (source : Source σ ρ) (walk : Walk ρ) (state : σ) : Option Nat :=
  if walk.pending.isEmpty && !walk.progress.done then
    (source state walk.request).answer.toOption.map List.length
  else none

/-- The poll in a program that checks its sums; none where it stops at the page that is received. -/
def poll? (source : Source σ ρ) (key : ρ → Snowflake) (walk : Walk ρ) (state : σ)
    : Option (Polled σ ρ) :=
  match walk.receives? source state with
  | none => some (walk.poll source key state)
  | some count => (walk.progress.addPage? count).map fun _ => walk.poll source key state

/-- A walk after several polls. -/
structure Taken (σ ρ : Type) where
  /-- The records and failures that the polls gave. -/
  items : List (Except Error ρ)
  /-- Whether the end was reached. -/
  ended : Bool
  /-- The walk. -/
  walk : Walk ρ
  /-- The source. -/
  state : σ
  /-- What was reported. -/
  events : List Log.Event

/-- Polls a walk up to `count` times, or until it is at its end. -/
def take (source : Source σ ρ) (key : ρ → Snowflake) : Nat → Walk ρ → σ → Taken σ ρ
  | 0, walk, state => ⟨[], false, walk, state, []⟩
  | count + 1, walk, state =>
    let polled := walk.poll source key state
    match polled.item with
    | .finished => ⟨[], true, polled.walk, polled.state, polled.events⟩
    | .record record =>
      let rest := take source key count polled.walk polled.state
      { rest with items := .ok record :: rest.items, events := polled.events ++ rest.events }
    | .failure error =>
      let rest := take source key count polled.walk polled.state
      { rest with items := .error error :: rest.items, events := polled.events ++ rest.events }

/-- Polls a walk until it is at its end, which at most `fetches` further requests must lead to. -/
def drain (source : Source σ ρ) (key : ρ → Snowflake) : Nat → Walk ρ → σ → Taken σ ρ
  | 0, walk, state => ⟨walk.pending.map .ok, false, { walk with pending := [] }, state, []⟩
  | fetches + 1, walk, state =>
    let given := walk.pending.map .ok
    let polled := { walk with pending := [] }.poll source key state
    match polled.item with
    | .finished => ⟨given, true, polled.walk, polled.state, polled.events⟩
    | .failure error =>
      ⟨given ++ [.error error], true, polled.walk, polled.state, polled.events⟩
    | .record record =>
      let rest := drain source key fetches polled.walk polled.state
      { rest with
        items := given ++ .ok record :: rest.items
        events := polled.events ++ rest.events }

end Walk

end DiscordRest.Paging
