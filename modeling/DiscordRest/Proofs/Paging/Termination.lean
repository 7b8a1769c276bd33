import DiscordRest.Proofs.Paging.Cursors

/-!
How long a walk can last. Against a source whose pages always lead on, the cursor has less room
left behind it with each page, so the walk comes to its end; a source that gives one record at a
time, the nearest one, takes all the requests that there is room for.
-/

namespace DiscordRest.Paging

variable {σ ρ : Type}

------------------------------------------------------------------------------------------
-- The room beyond a cursor
------------------------------------------------------------------------------------------

namespace Direction

/-- How many identifiers lie beyond a cursor. -/
def room : Direction → Snowflake → Nat
  | .after, cursor => greatestWord - cursor.value.toNat
  | .before, cursor => cursor.value.toNat

/-- A cursor moves on exactly when less room is left beyond it. -/
theorem advances_iff_room_lt {direction : Direction} {a b : Snowflake}
    : direction.advances a b = true ↔ direction.room b < direction.room a := by
  have boundA := a.value.toNat_lt
  have boundB := b.value.toNat_lt
  cases direction with
  | after =>
      have value : Direction.after.advances a b = true ↔ a.value.toNat < b.value.toNat :=
        decide_eq_true_iff.trans UInt64.lt_iff_toNat_lt
      simp only [value, room, greatestWord]
      omega
  | before => exact decide_eq_true_iff.trans UInt64.lt_iff_toNat_lt

/-- Cursors that lead on from a start are no more than there is room for behind it. -/
theorem length_le_room {direction : Direction} {start : Snowflake} {cursors : List Snowflake}
    (ahead : (start :: cursors).Pairwise fun a b => direction.advances a b = true)
    : cursors.length ≤ direction.room start := by
  induction cursors generalizing start with
  | nil => exact Nat.zero_le _
  | cons next rest ih =>
      rw [List.pairwise_cons] at ahead
      have closer := advances_iff_room_lt.mp (ahead.1 next List.mem_cons_self)
      have few := ih ahead.2
      rw [List.length_cons]
      omega

/-- The identifier next to a cursor, if there is one beyond it. -/
def neighbour? : Direction → Snowflake → Option Snowflake
  | .after, cursor => if cursor.value.toNat < greatestWord then some ⟨cursor.value + 1⟩ else none
  | .before, cursor => if 0 < cursor.value.toNat then some ⟨cursor.value - 1⟩ else none

theorem room_of_neighbour?_eq_some {direction : Direction} {a b : Snowflake}
    (next : direction.neighbour? a = some b)
    : direction.room b + 1 = direction.room a := by
  have bound := a.value.toNat_lt
  cases direction with
  | after =>
      simp only [neighbour?, Option.ite_none_right_eq_some, Option.some.injEq] at next
      obtain ⟨below, rfl⟩ := next
      simp only [room, greatestWord, UInt64.toNat_add, UInt64.reduceToNat] at *
      omega
  | before =>
      simp only [neighbour?, Option.ite_none_right_eq_some, Option.some.injEq] at next
      obtain ⟨above, rfl⟩ := next
      simp only [room, UInt64.toNat_sub, UInt64.reduceToNat]
      omega

theorem room_of_neighbour?_eq_none {direction : Direction} {cursor : Snowflake}
    (none : direction.neighbour? cursor = none)
    : direction.room cursor = 0 := by
  cases direction with
  | after =>
      simp only [neighbour?, ite_eq_right_iff, reduceCtorEq, imp_false] at none
      simp only [room]
      omega
  | before =>
      simp only [neighbour?, ite_eq_right_iff, reduceCtorEq, imp_false] at none
      simp only [room]
      omega

end Direction

------------------------------------------------------------------------------------------
-- Pages that lead on
------------------------------------------------------------------------------------------

/-- The last key of every page that an exchange brings lies beyond the cursor of its request. -/
def Exchange.Advances (key : ρ → Snowflake) (exchange : Exchange ρ) : Prop :=
  ∀ page : Page ρ,
    exchange.answer = page.answer
    → exchange.request.direction.advances exchange.request.cursor (page.lastKey key) = true

theorem Exchange.Advances.warnings_eq_nil {key : ρ → Snowflake} {exchange : Exchange ρ}
    (advances : exchange.Advances key)
    : exchange.warnings key = [] := by
  rcases Walk.answer_cases exchange.answer with ⟨error, failed⟩ | empty | ⟨page, given⟩
  · simp only [warnings, failed]
  · simp only [warnings, empty, List.getLast?_nil]
  · exact (warnings_eq_nil_iff given).mpr (advances page given)

/-- Lists without hits, put behind others one by one, add no hits to these. -/
theorem filter_flatten_zipWith {hit : ρ → Bool} {lists more : List (List ρ)}
    (same : lists.length = more.length) (none : ∀ list ∈ more, list.filter hit = [])
    : (List.zipWith (· ++ ·) lists more).flatten.filter hit = lists.flatten.filter hit := by
  induction lists generalizing more with
  | nil => rfl
  | cons first rest ih =>
      cases more with
      | nil => cases same
      | cons second others =>
          have later := ih (Nat.succ.inj same)
            fun list member => none list (List.mem_cons_of_mem _ member)
          simp only [List.zipWith_cons_cons, List.flatten_cons, List.filter_append, later,
            none second List.mem_cons_self, List.append_nil]

namespace Walk

variable {source : Source σ ρ} {paginator : Paginator} {key : ρ → Snowflake} {origin : σ}
variable {walk : Walk ρ}

/-- Where all pages lead on, the cursors of a run go strictly in its direction. -/
theorem pairwise_cursors (source : Source σ ρ) (key : ρ → Snowflake) (origin : σ)
    (opened : open? paginator = .ok walk) (polls : Nat)
    (advances
      : ∀ exchange ∈ (walk.run source.recorded key polls (.fresh origin)).state.exchanges,
          exchange.Advances key)
    : ((walk.run source.recorded key polls (.fresh origin)).state.requests.map
        PageRequest.cursor).Pairwise fun a b => paginator.direction.advances a b = true := by
  rw [Recorded.requests, List.map_map, List.pairwise_map, List.pairwise_iff_getElem]
  intro i j boundFirst boundLast lt
  refine advances_of_quiet source key origin opened polls lt
    (List.getElem?_eq_getElem boundFirst) (List.getElem?_eq_getElem boundLast) ?_
  intro between exchange _ _ found
  exact (advances exchange (List.mem_of_getElem? found)).warnings_eq_nil

/-- Where all pages lead on, all signals in the log are the source's own. -/
theorem filter_isStuck_events (source : Source σ ρ) (key : ρ → Snowflake) (origin : σ)
    (opened : open? paginator = .ok walk) (polls : Nat)
    (advances
      : ∀ exchange ∈ (walk.run source.recorded key polls (.fresh origin)).state.exchanges,
          exchange.Advances key)
    : let run := walk.run source.recorded key polls (.fresh origin)
      run.events.filter Log.Event.isStuck
        = (source.reports origin run.state.requests).flatten.filter Log.Event.isStuck := by
  intro run
  have logged := (run_logged source key origin opened polls).events
  rw [logged, logOf]
  refine filter_flatten_zipWith ?_ ?_
  · rw [Source.length_reports, Progress.length_reports, List.length_map]
  · intro events member
    have signals := Progress.map_filter_isStuck_reports key (.startingAt paginator.start)
      run.state.exchanges
    have listed := List.mem_map_of_mem (f := List.filter Log.Event.isStuck) member
    rw [signals] at listed
    obtain ⟨exchange, made, same⟩ := List.mem_map.mp listed
    rw [← same]
    exact (advances exchange made).warnings_eq_nil

/-- A run whose cursors go strictly in its direction makes few requests. -/
theorem length_exchanges_le_room (source : Source σ ρ) (key : ρ → Snowflake) (origin : σ)
    (opened : open? paginator = .ok walk) (polls : Nat)
    (ordered
      : ((walk.run source.recorded key polls (.fresh origin)).state.requests.map
          PageRequest.cursor).Pairwise fun a b => paginator.direction.advances a b = true)
    : (walk.run source.recorded key polls (.fresh origin)).state.exchanges.length
      ≤ paginator.direction.room paginator.start + 1 := by
  obtain ⟨pages, requests, _⟩ := run_route source key origin opened polls
  generalize walk.run source.recorded key polls (.fresh origin) = run at *
  have counted : run.state.requests.length = run.state.exchanges.length := List.length_map _
  rw [← counted]
  cases made : run.state.requests with
  | nil => exact Nat.zero_le _
  | cons first rest =>
      rw [made] at requests ordered
      -- The first of them is at the start.
      obtain ⟨rfl, _⟩ := List.cons_prefix_cons.mp requests
      have few := Direction.length_le_room ordered
      rw [List.length_map] at few
      exact Nat.succ_le_succ few

/-- A run that makes only so many requests, however long it is, comes to its end. -/
theorem exists_finished_of_length_le (source : Source σ ρ) (key : ρ → Snowflake) (origin : σ)
    (opened : open? paginator = .ok walk) {bound : Nat}
    (few
      : ∀ polls,
          (walk.run source.recorded key polls (.fresh origin)).state.exchanges.length ≤ bound)
    : ∃ polls, Item.finished ∈ (walk.run source.recorded key polls (.fresh origin)).items := by
  -- The pages that so many requests can bring hold only so many records to give.
  let held := ((source.pages paginator key origin bound).flatMap Page.records).length
  have length := length_items_run source.recorded key (held + 1) walk (.fresh origin)
  refine ⟨held + 1 + 1, ?_⟩
  rw [run_succ]
  rcases run_course source key origin opened (held + 1) with
    ⟨pages, given, items, midway⟩ | ⟨pages, ending, later, items, past⟩
  · have fewPages := few (held + 1)
    rw [midway.length_exchanges] at fewPages
    have first := source.pages_prefix_of_le paginator key origin fewPages
    rw [Source.pages_length_of_gives midway.gives] at first
    have notMore := (first.flatMap Page.records).length_le
    have all := midway.length_given_le
    rw [items, List.length_map] at length
    omega
  · dsimp only
    rw [poll_of_done source.recorded past.pending past.done]
    exact List.mem_append_right _ (List.mem_singleton_self _)

end Walk

------------------------------------------------------------------------------------------
-- One record at a time
------------------------------------------------------------------------------------------

namespace Source

/-- What was exchanged with a source was its answer in some state. -/
theorem exists_answer_of_mem_serve (source : Source σ ρ) {recorded : Recorded σ ρ}
    {requests : List PageRequest} {exchange : Exchange ρ}
    (member : exchange ∈ (source.serve recorded requests).exchanges)
    : exchange ∈ recorded.exchanges
      ∨ ∃ state, exchange.answer = (source state exchange.request).answer := by
  induction requests generalizing recorded with
  | nil => exact Or.inl member
  | cons request rest ih =>
      have served : exchange ∈ (source.recorded recorded request).state.exchanges ∨ _ := ih member
      rcases served with sofar | later
      · rcases List.mem_append.mp sofar with earlier | last
        · exact Or.inl earlier
        · rw [List.mem_singleton.mp last]
          exact Or.inr ⟨recorded.state, rfl⟩
      · exact Or.inr later

/-- A source with one record on each page, the identifier next to the cursor. -/
def oneByOne : Source Unit Snowflake := fun _ request =>
  ⟨(), .ok (request.direction.neighbour? request.cursor).toList, []⟩

theorem neighbour?_of_oneByOne {state : Unit} {request : PageRequest} {page : Page Snowflake}
    (answer : (oneByOne state request).answer = page.answer)
    : request.direction.neighbour? request.cursor = some (page.lastKey id) := by
  obtain ⟨records, nonempty⟩ := page
  have listed : (request.direction.neighbour? request.cursor).toList = records :=
    Except.ok.inj answer
  cases next : request.direction.neighbour? request.cursor with
  | none =>
      rw [next] at listed
      exact absurd listed.symm nonempty
  | some record =>
      rw [next, Option.toList_some] at listed
      subst listed
      rfl

/-- The pages of a source with one record on each take up the room behind the start. -/
theorem Gives.length_add_room {paginator : Paginator} {pages : List (Page Snowflake)}
    (gives : oneByOne.Gives paginator id () pages)
    : pages.length + paginator.direction.room (paginator.cursorAfter id pages)
      = paginator.direction.room paginator.start := by
  induction pages using List.reverseRecOn with
  | nil => exact Nat.zero_add _
  | append_singleton before page ih =>
      obtain ⟨earlier, last⟩ := (oneByOne.gives_append_singleton_iff ..).mp gives
      have closer := Direction.room_of_neighbour?_eq_some (neighbour?_of_oneByOne last)
      have sofar := ih earlier
      rw [List.length_append, List.length_singleton, Paginator.cursorAfter_append_singleton]
      simp only [Paginator.request] at closer
      omega

end Source

namespace Walk

variable {paginator : Paginator}

theorem advances_of_oneByOne {walk : Walk Snowflake} (opened : open? paginator = .ok walk)
    (polls : Nat)
    : ∀ exchange ∈ (walk.run Source.oneByOne.recorded id polls (.fresh ())).state.exchanges,
        exchange.Advances id := by
  intro exchange member page answer
  have served := (run_logged Source.oneByOne id () opened polls).served
  rw [served] at member
  rcases Source.oneByOne.exists_answer_of_mem_serve member with before | ⟨state, same⟩
  · cases before
  · rw [Direction.advances_iff_room_lt, ← Direction.room_of_neighbour?_eq_some
      (Source.neighbour?_of_oneByOne (same.symm.trans answer))]
    exact Nat.lt_succ_self _

/-- The bound on the requests is met, behind every start and in both directions. -/
theorem exists_length_exchanges_eq_room {walk : Walk Snowflake}
    (opened : open? paginator = .ok walk)
    : ∃ polls,
        (walk.run Source.oneByOne.recorded id polls (.fresh ())).state.exchanges.length
        = paginator.direction.room paginator.start + 1 := by
  have few := fun polls => length_exchanges_le_room Source.oneByOne id () opened polls
    (pairwise_cursors Source.oneByOne id () opened polls (advances_of_oneByOne opened polls))
  obtain ⟨polls, finished⟩ := exists_finished_of_length_le Source.oneByOne id () opened few
  refine ⟨polls, ?_⟩
  rcases run_course Source.oneByOne id () opened polls with
    ⟨pages, given, items, _⟩ | ⟨pages, ending, later, _, past⟩
  · rw [items] at finished
    obtain ⟨_, _, same⟩ := List.mem_map.mp finished
    cases same
  · have used := past.gives.length_add_room
    have last := past.ending
    cases ending with
    | failed error => cases last
    | exhausted =>
        have noMore := Direction.room_of_neighbour?_eq_none
          (Option.toList_eq_nil_iff.mp (Except.ok.inj last))
        simp only [Paginator.request] at noMore
        rw [past.length_exchanges]
        omega

------------------------------------------------------------------------------------------
-- The end of a walk
------------------------------------------------------------------------------------------

/--
Against a source whose pages always lead on, the cursors of a run go strictly in its direction, so
none comes back and none is signalled; and the run comes to its end after at most one request more
than there are identifiers beyond its start.
-/
theorem run_ends_against_advancing (source : Source σ ρ) (paginator : Paginator)
    (key : ρ → Snowflake) (origin : σ) {walk : Walk ρ} (opened : open? paginator = .ok walk)
    (advancing
      : ∀ polls,
          ∀ exchange ∈ (walk.run source.recorded key polls (.fresh origin)).state.exchanges,
            exchange.Advances key)
    : (∀ polls,
        let run := walk.run source.recorded key polls (.fresh origin)
        let cursors := run.state.requests.map PageRequest.cursor
        cursors.Pairwise (fun a b => paginator.direction.advances a b = true)
        ∧ cursors.Nodup
        ∧ run.events.filter Log.Event.isStuck
          = (source.reports origin run.state.requests).flatten.filter Log.Event.isStuck
        ∧ run.state.exchanges.length ≤ paginator.direction.room paginator.start + 1)
      ∧ ∃ polls, Item.finished ∈ (walk.run source.recorded key polls (.fresh origin)).items := by
  have ordered := fun polls => pairwise_cursors source key origin opened polls (advancing polls)
  have few := fun polls => length_exchanges_le_room source key origin opened polls (ordered polls)
  refine ⟨?_, exists_finished_of_length_le source key origin opened few⟩
  intro polls run cursors
  refine ⟨ordered polls, ?_, ?_, few polls⟩
  · refine (ordered polls).imp ?_
    rintro a b ahead rfl
    exact Direction.not_advances_self _ a ahead
  · exact filter_isStuck_events source key origin opened polls (advancing polls)

/-- Behind the third identifier from the end of the range there is room for three requests. -/
theorem run_ends_against_advancing_of_oneByOne
    : let paginator := (Paginator.after 7).startAt ⟨18446744073709551613⟩
      let walk : Walk Snowflake := ⟨paginator, .startingAt paginator.start, []⟩
      let run := fun polls => walk.run Source.oneByOne.recorded id polls (.fresh ())
      open? paginator = .ok walk
      ∧ (∀ polls, ∀ exchange ∈ (run polls).state.exchanges, exchange.Advances id)
      ∧ (run 3).state.requests.map PageRequest.cursor
        = [⟨18446744073709551613⟩, ⟨18446744073709551614⟩, ⟨18446744073709551615⟩]
      ∧ ((run 3).state.requests.map PageRequest.cursor).Nodup
      ∧ (run 3).state.exchanges.length ≤ paginator.direction.room paginator.start + 1
      ∧ paginator.direction.room paginator.start + 1 = 3
      ∧ ∃ polls, Item.finished ∈ (run polls).items := by
  intro paginator walk run
  have opened : open? paginator = .ok walk := rfl
  have advancing := advances_of_oneByOne opened
  obtain ⟨always, finished⟩ :=
    run_ends_against_advancing Source.oneByOne paginator id () opened advancing
  obtain ⟨_, distinct, _, few⟩ := always 3
  exact ⟨opened, advancing, by decide +kernel, distinct, few, by decide +kernel, finished⟩

end Walk

end DiscordRest.Paging
