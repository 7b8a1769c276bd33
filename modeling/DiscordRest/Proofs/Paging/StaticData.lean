import DiscordRest.Proofs.Paging.Delivery
import DiscordRest.Proofs.Paging.ServedPage

/-!
Walks through data that stays as it is. What lies behind the start is cut into pages of the asked
size, whatever gaps the data has; the walk gives all of it, and the number of requests and their
cursors follow from its length alone.
-/

namespace DiscordRest.Paging

------------------------------------------------------------------------------------------
-- What lies behind a cursor
------------------------------------------------------------------------------------------

namespace Direction

/-- The identifiers on the side of a cursor to which a walk goes, in the order of the walk. -/
def behind : Direction → List Snowflake → Snowflake → List Snowflake
  | .after, ids, cursor => ids.filter fun id => cursor < id
  | .before, ids, cursor => (ids.filter fun id => id < cursor).reverse

theorem behind_eq_filter_arrange (direction : Direction) (ids : List Snowflake)
    (cursor : Snowflake)
    : direction.behind ids cursor
      = (direction.arrange ids).filter (direction.advances cursor) := by
  cases direction with
  | after => rfl
  | before => exact List.filter_reverse.symm

theorem pairwise_behind (direction : Direction) {ids : List Snowflake}
    (ascending : ids.Pairwise (· < ·)) (cursor : Snowflake)
    : (direction.behind ids cursor).Pairwise fun a b => direction.advances a b = true := by
  rw [behind_eq_filter_arrange]
  exact (pairwise_arrange direction ascending).sublist List.filter_sublist

/-- A cursor further on leaves behind it what lay behind the first one and lies behind it too. -/
theorem behind_of_advances {direction : Direction} {a b : Snowflake}
    (ahead : direction.advances a b = true) (ids : List Snowflake)
    : direction.behind ids b = (direction.behind ids a).filter (direction.advances b) := by
  rw [behind_eq_filter_arrange, behind_eq_filter_arrange, List.filter_filter]
  refine List.filter_congr ?_
  intro id _
  rw [Bool.eq_iff_iff, Bool.and_eq_true]
  exact ⟨fun behind => ⟨behind, advances_trans ahead behind⟩, And.left⟩

/--
Behind the last of the first identifiers behind a start lie the others. Those up to the last one do
not lie behind it, and the others do.
-/
theorem behind_getLast?_take (direction : Direction) {ids : List Snowflake}
    (ascending : ids.Pairwise (· < ·)) (start : Snowflake) (count : Nat)
    : direction.behind ids ((((direction.behind ids start).take count).getLast?).getD start)
      = (direction.behind ids start).drop count := by
  have ordered := direction.pairwise_behind ascending start
  have split := List.take_append_drop count (direction.behind ids start)
  rcases List.eq_nil_or_concat ((direction.behind ids start).take count) with
    none | ⟨earlier, last, taken⟩
  · rw [none, List.nil_append] at split
    rw [none, List.getLast?_nil, Option.getD_none, split]
  · rw [List.concat_eq_append] at taken
    have member : last ∈ direction.behind ids start :=
      List.mem_of_mem_take (taken ▸ List.mem_append_right _ (List.mem_singleton_self last))
    rw [behind_eq_filter_arrange] at member
    rw [taken, List.getLast?_concat, Option.getD_some,
      behind_of_advances (List.mem_filter.mp member).2]
    rw [← split, taken] at ordered
    obtain ⟨upTo, _, further⟩ := List.pairwise_append.mp ordered
    have dropped : (earlier ++ [last]).filter (direction.advances last) = [] := by
      refine List.filter_eq_nil_iff.mpr ?_
      intro id among
      rcases List.mem_append.mp among with before | same
      · exact not_advances_of_advances
          ((List.pairwise_append.mp upTo).2.2 id before last (List.mem_singleton_self last))
      · rw [List.mem_singleton.mp same]
        exact not_advances_self direction last
    have kept : ((direction.behind ids start).drop count).filter (direction.advances last)
        = (direction.behind ids start).drop count := by
      refine List.filter_eq_self.mpr ?_
      intro id later
      exact further last (List.mem_append_right _ (List.mem_singleton_self last)) id later
    conv_lhs => rw [← split, taken, List.filter_append, dropped, kept, List.nil_append]

end Direction

/-- A page is what comes first behind its cursor. -/
theorem servePage_eq_take_behind (ids : List Snowflake) (request : PageRequest)
    : servePage ids request
      = (request.direction.behind ids request.cursor).take request.limit.toNat := by
  rw [servePage_eq, Direction.behind_eq_filter_arrange]

------------------------------------------------------------------------------------------
-- Cutting into pages
------------------------------------------------------------------------------------------

section

variable {α : Type}

/-- The page with a number, counted from zero, of records that are cut into pages of a size. -/
def cutPage (records : List α) (size number : Nat) : List α :=
  (records.drop (number * size)).take size

/-- The first pages hold the first records. -/
theorem flatMap_cutPage (records : List α) (size count : Nat)
    : (List.range count).flatMap (cutPage records size) = records.take (count * size) := by
  induction count with
  | zero => simp
  | succ count ih =>
      rw [List.range_succ, List.flatMap_append, ih, Nat.succ_mul, List.take_add,
        List.flatMap_singleton, cutPage]

theorem length_cutPage (records : List α) (size number : Nat)
    : (cutPage records size number).length = min size (records.length - number * size) := by
  rw [cutPage, List.length_take, List.length_drop]

/-- A page is empty exactly when those before it hold all records. -/
theorem cutPage_eq_nil_iff {records : List α} {size number : Nat} (positive : 0 < size)
    : cutPage records size number = [] ↔ records.length ≤ number * size := by
  rw [← List.length_eq_zero_iff, length_cutPage]
  omega

/-- Pages that hold all records, and not one more page than that, are as many as it takes. -/
theorem pageCount_eq_of_le {length size count : Nat} (all : length ≤ count * size)
    (needed : count * size < length + size)
    : (length + size - 1) / size = count := by
  apply Nat.div_eq_of_lt_le
  · omega
  · rw [Nat.add_mul, Nat.one_mul]
    omega

/-- So many pages hold all records: the full ones, and one more if something is left over. -/
theorem pageCount_eq (records : List α) {size : Nat} (positive : 0 < size)
    : (records.length + size - 1) / size
      = records.length / size + if records.length % size = 0 then 0 else 1 := by
  have division := Nat.div_add_mod records.length size
  have small := Nat.mod_lt records.length positive
  rw [Nat.mul_comm] at division
  generalize records.length / size = full at *
  generalize records.length % size = left at *
  split
  · rw [Nat.add_zero]
    exact pageCount_eq_of_le (by omega) (by omega)
  · have one_more : (full + 1) * size = full * size + size := Nat.succ_mul full size
    exact pageCount_eq_of_le (by omega) (by omega)

/--
Cut up to the first empty page, records give full pages, then one with what is left over if that
is not nothing, and then the empty one.
-/
theorem map_length_cutPage (records : List α) {size : Nat} (positive : 0 < size)
    : (List.range ((records.length + size - 1) / size + 1)).map
          (fun number => (cutPage records size number).length)
      = List.replicate (records.length / size) size
        ++ (if records.length % size = 0 then [] else [records.length % size]) ++ [0] := by
  have division := Nat.div_add_mod records.length size
  have small := Nat.mod_lt records.length positive
  rw [pageCount_eq records positive]
  generalize records.length / size = full at *
  generalize records.length % size = left at *
  have fullPages : (List.range full).map (fun number => (cutPage records size number).length)
      = List.replicate full size := by
    refine List.eq_replicate_iff.mpr ⟨by simp, ?_⟩
    intro length member
    obtain ⟨number, among, rfl⟩ := List.mem_map.mp member
    have below := Nat.mul_le_mul_left size (List.mem_range.mp among)
    rw [length_cutPage, Nat.mul_comm number]
    rw [Nat.mul_succ] at below
    omega
  split
  · rw [Nat.add_zero, List.range_succ, List.map_append, fullPages, List.map_singleton,
      length_cutPage, List.append_nil, Nat.mul_comm full]
    congr 2
    omega
  · rw [List.range_succ, List.map_append, List.range_succ, List.map_append, fullPages,
      List.map_singleton, List.map_singleton, length_cutPage, length_cutPage, Nat.succ_mul,
      Nat.mul_comm full]
    congr 2
    · congr 2
      omega
    · omega

end

------------------------------------------------------------------------------------------
-- Cursors
------------------------------------------------------------------------------------------

namespace Paginator

variable {ρ : Type}

/-- The cursor behind some pages is the key of the last of all their records. -/
theorem cursorAfter_eq (paginator : Paginator) (key : ρ → Snowflake) (pages : List (Page ρ))
    : paginator.cursorAfter key pages
      = ((pages.flatMap Page.records).getLast?.map key).getD paginator.start := by
  rcases List.eq_nil_or_concat pages with rfl | ⟨before, page, rfl⟩
  · rfl
  · rw [List.concat_eq_append, cursorAfter_append_singleton, List.flatMap_append,
      List.flatMap_singleton, List.getLast?_append_of_ne_nil _ page.nonempty,
      List.getLast?_eq_some_getLast page.nonempty]
    rfl

/-- Each cursor of the way through some pages lies behind the pages before it. -/
theorem getElem?_cursors (paginator : Paginator) (key : ρ → Snowflake) (pages : List (Page ρ))
    {number : Nat} (le : number ≤ pages.length)
    : (paginator.cursors key pages)[number]?
      = some (paginator.cursorAfter key (pages.take number)) := by
  cases number with
  | zero => rfl
  | succ number =>
      have found := List.getElem?_eq_getElem le
      rw [List.take_add_one, found, Option.toList_some, cursorAfter_append_singleton, cursors,
        List.getElem?_cons_succ, List.getElem?_map, found, Option.map_some]

end Paginator

/-- The last of the first records, or what stands before them. -/
theorem getElem?_cons_min {α : Type} (before : α) (records : List α) (count : Nat)
    : (before :: records)[min count records.length]?
      = some ((records.take count).getLast?.getD before) := by
  induction records generalizing before count with
  | nil => simp
  | cons first rest ih =>
      cases count with
      | zero => simp
      | succ count =>
          rw [List.length_cons, Nat.succ_min_succ, List.getElem?_cons_succ, ih first count,
            List.take_succ_cons, List.getLast?_cons, Option.getD_some]

------------------------------------------------------------------------------------------
-- A data set
------------------------------------------------------------------------------------------

/-- What a walk finds in a data set. -/
def Paginator.found (paginator : Paginator) (ids : List Snowflake) : List Snowflake :=
  paginator.direction.behind ids paginator.start

theorem Paginator.length_found_le (paginator : Paginator) (ids : List Snowflake)
    : (paginator.found ids).length ≤ ids.length := by
  obtain ⟨direction, _, start⟩ := paginator
  cases direction with
  | after => exact List.length_filter_le _ ids
  | before =>
      rw [found, Direction.behind, List.length_reverse]
      exact List.length_filter_le _ ids

namespace Memory

variable {ids : List Snowflake} {failing : Option Nat}

/-- The records of identifiers end with that of the last identifier. -/
theorem getLast?_map_ofId {read : Entry → Snowflake} (reads : read ∘ Entry.ofId = id)
    (ids : List Snowflake)
    : (ids.map Entry.ofId).getLast?.map read = ids.getLast? := by
  rw [List.getLast?_map, Option.map_map, reads, Option.map_id, id]

theorem fetch_dataSet {memory : Memory} (stock : memory.stock = .dataSet ids failing)
    (request : PageRequest)
    : fetch memory request
      = ⟨⟨.dataSet ids failing, request :: memory.requests⟩,
          if failing = some (memory.requests.length + 1)
            then .error (.status 500 "Internal Server Error")
            else .ok ((servePage ids request).map .ofId),
          []⟩ := by
  simp only [fetch, stock, List.length_cons]

/-- A data set stays as it is, and its source counts the requests. -/
theorem state_serve_dataSet {recorded : Recorded Memory Entry}
    (stock : recorded.state.stock = .dataSet ids failing) (requests : List PageRequest)
    : (Source.serve fetch recorded requests).state.stock = .dataSet ids failing
      ∧ (Source.serve fetch recorded requests).state.requests.length
        = recorded.state.requests.length + requests.length := by
  induction requests generalizing recorded with
  | nil => exact ⟨stock, rfl⟩
  | cons request rest ih =>
      have next : (Source.recorded fetch recorded request).state.state
          = ⟨.dataSet ids failing, request :: recorded.state.requests⟩ := by
        simp only [Source.recorded, fetch_dataSet stock]
      obtain ⟨same, counted⟩ := ih (congrArg Memory.stock next)
      refine ⟨same, counted.trans ?_⟩
      rw [next, List.length_cons, List.length_cons]
      omega

/-- Behind some pages a data set answers with what comes next, or the call fails. -/
theorem answerAfter_dataSet (ids : List Snowflake) (failing : Option Nat)
    (paginator : Paginator) (key : Entry → Snowflake) (pages : List (Page Entry))
    : Source.answerAfter fetch paginator key (.ofStock (.dataSet ids failing)) pages
      = if failing = some (pages.length + 1) then .error (.status 500 "Internal Server Error")
        else .ok ((servePage ids
          (paginator.request (paginator.cursorAfter key pages))).map .ofId) := by
  have start : (Recorded.fresh (ofStock (.dataSet ids failing)) : Recorded Memory Entry).state.stock
      = .dataSet ids failing := rfl
  obtain ⟨stock, counted⟩ :=
    state_serve_dataSet start (paginator.requests key pages).dropLast
  rw [List.length_dropLast, Paginator.length_requests, Nat.add_sub_cancel] at counted
  rw [Source.answerAfter, fetch_dataSet stock, counted]
  simp only [Recorded.fresh, ofStock, List.length_nil, Nat.zero_add]

end Memory

section

variable {ids : List Snowflake} {failing : Option Nat} {paginator : Paginator}
variable {pages : List (Page Entry)}

/-- Some pages are the first ones that a data set is cut into for a walk. -/
def Paginator.Cuts (paginator : Paginator) (ids : List Snowflake) (pages : List (Page Entry))
    : Prop :=
  pages.map Page.records
    = (List.range pages.length).map fun number =>
        (cutPage (paginator.found ids) paginator.pageSize.toNat number).map Entry.ofId

namespace Paginator.Cuts

/-- The first ones of the pages hold the first records. -/
theorem flatMap_take (cuts : paginator.Cuts ids pages) {count : Nat} (le : count ≤ pages.length)
    : (pages.take count).flatMap Page.records
      = ((paginator.found ids).take (count * paginator.pageSize.toNat)).map Entry.ofId := by
  rw [List.flatMap_def, List.map_take, cuts, ← List.map_take, List.take_range,
    Nat.min_eq_left le, ← List.flatMap_def, ← flatMap_cutPage, List.map_flatMap]

theorem flatMap_records (cuts : paginator.Cuts ids pages)
    : pages.flatMap Page.records
      = ((paginator.found ids).take (pages.length * paginator.pageSize.toNat)).map Entry.ofId := by
  have all := cuts.flatMap_take (Nat.le_refl _)
  rwa [List.take_length] at all

theorem length_records_le (cuts : paginator.Cuts ids pages)
    : (pages.flatMap Page.records).length ≤ (paginator.found ids).length := by
  rw [cuts.flatMap_records, List.length_map, List.length_take]
  exact Nat.min_le_right _ _

/-- Behind the first ones of the pages the cursor stands at the last record on them. -/
theorem cursorAfter_take (cuts : paginator.Cuts ids pages) {count : Nat}
    (le : count ≤ pages.length)
    : paginator.cursorAfter Entry.key (pages.take count)
      = ((paginator.found ids).take (count * paginator.pageSize.toNat)).getLast?.getD
          paginator.start := by
  rw [Paginator.cursorAfter_eq, cuts.flatMap_take le, Memory.getLast?_map_ofId rfl]

/-- Behind the pages the data set answers with the next one, or the call fails. -/
theorem answerAfter_eq (cuts : paginator.Cuts ids pages) (ascending : ids.Pairwise (· < ·))
    (failing : Option Nat)
    : Source.answerAfter Memory.fetch paginator Entry.key (.ofStock (.dataSet ids failing)) pages
      = if failing = some (pages.length + 1) then .error (.status 500 "Internal Server Error")
        else .ok ((cutPage (paginator.found ids) paginator.pageSize.toNat pages.length).map
          .ofId) := by
  have cursor := cuts.cursorAfter_take (Nat.le_refl _)
  rw [List.take_length] at cursor
  rw [Memory.answerAfter_dataSet, servePage_eq_take_behind, Paginator.request, cursor, found,
    Direction.behind_getLast?_take _ ascending, cutPage]

/-- The pages that a data set gives are those that it is cut into, by induction from their end. -/
theorem of_gives (ascending : ids.Pairwise (· < ·))
    (gives : Source.Gives Memory.fetch paginator Entry.key (.ofStock (.dataSet ids failing)) pages)
    : paginator.Cuts ids pages := by
  induction pages using List.reverseRecOn with
  | nil => rfl
  | append_singleton before page ih =>
      obtain ⟨earlier, last⟩ := (Source.gives_append_singleton_iff ..).mp gives
      have cuts := ih earlier
      rw [cuts.answerAfter_eq ascending] at last
      split at last
      · cases last
      · rw [Paginator.Cuts, List.map_append, cuts, List.length_append, List.length_singleton,
          List.range_succ, List.map_append, List.map_singleton, List.map_singleton,
          Except.ok.inj last]

theorem getElem_records (cuts : paginator.Cuts ids pages) {number : Nat}
    (bound : number < pages.length)
    : pages[number].records
      = (cutPage (paginator.found ids) paginator.pageSize.toNat number).map Entry.ofId := by
  have same := congrArg (·[number]?) cuts
  simp only [List.getElem?_map, List.getElem?_eq_getElem bound, List.getElem?_range bound,
    Option.map_some] at same
  exact Option.some.inj same

/-- Pages that hold all records are as many as it takes, for none of them is empty. -/
theorem length_eq (cuts : paginator.Cuts ids pages) (positive : 0 < paginator.pageSize.toNat)
    (all : (paginator.found ids).length ≤ pages.length * paginator.pageSize.toNat)
    : pages.length
      = ((paginator.found ids).length + paginator.pageSize.toNat - 1)
          / paginator.pageSize.toNat := by
  refine (pageCount_eq_of_le all ?_).symm
  cases counted : pages.length with
  | zero => omega
  | succ number =>
      have bound : number < pages.length := by omega
      have some_left := pages[number].nonempty
      rw [cuts.getElem_records bound, ne_eq, List.map_eq_nil_iff, cutPage_eq_nil_iff positive]
        at some_left
      rw [Nat.succ_mul]
      omega

end Paginator.Cuts

end

------------------------------------------------------------------------------------------
-- A whole walk
------------------------------------------------------------------------------------------

namespace Walk

/-- What a walk through a data set gives up to its end, and what it asked for. -/
structure SweepsData (ids : List Snowflake) (paginator : Paginator)
    (taken : Taken (Recorded Memory Entry) Entry)
    : Prop where
  /-- All that lies behind the start, in the order of the walk, and no failure. -/
  items : taken.items = (paginator.found ids).map fun id => .ok (.ofId id)
  /-- The end was seen. -/
  ended : taken.ended = true
  /-- There was a request for each page that it takes, and one more. -/
  calls
    : taken.state.exchanges.length
      = ((paginator.found ids).length + paginator.pageSize.toNat - 1) / paginator.pageSize.toNat
        + 1
  /-- The pages were full, up to one with what was left over, and the last one was empty. -/
  sizes
    : taken.state.answers.map (Except.map List.length)
      = (List.replicate ((paginator.found ids).length / paginator.pageSize.toNat)
            paginator.pageSize.toNat
          ++ (if (paginator.found ids).length % paginator.pageSize.toNat = 0 then []
            else [(paginator.found ids).length % paginator.pageSize.toNat])
          ++ [0]).map .ok
  /-- Each request was at the last record of the full pages before it, or at the start. -/
  requests
    : ∀ number < taken.state.exchanges.length,
        taken.state.requests[number]?
        = (paginator.start :: paginator.found ids)[
            min (number * paginator.pageSize.toNat) (paginator.found ids).length]?.map
              paginator.request

variable {ids : List Snowflake} {paginator : Paginator} {pages : List (Page Entry)}
variable {ending : Ending} {walk : Walk Entry}

theorem pageSize_pos_of_open? (opened : open? paginator = .ok walk)
    : 0 < paginator.pageSize.toNat := by
  have some_room := (open?_eq_ok_iff.mp opened).1
  rw [← UInt32.toNat_inj.ne] at some_room
  exact Nat.pos_of_ne_zero some_room

/-- To have its exchanges remembered changes nothing of what is taken. -/
theorem take_fresh {σ ρ : Type} (source : Source σ ρ) (key : ρ → Snowflake) (polls : Nat)
    (walk : Walk ρ) (origin : σ)
    : let taken := walk.take source.recorded key polls (.fresh origin)
      (walk.take source key polls origin).items = taken.items
      ∧ (walk.take source key polls origin).ended = taken.ended :=
  have same := take_recorded source key polls walk (.fresh origin)
  ⟨congrArg Taken.items same, congrArg Taken.ended same⟩

/-- A walk through a data set is over only behind all that it finds there. -/
theorem Over.of_dataSet {state : Recorded Memory Entry} (ascending : ids.Pairwise (· < ·))
    (positive : 0 < paginator.pageSize.toNat)
    (past
      : walk.Over Memory.fetch paginator Entry.key (.ofStock (.dataSet ids none)) pages ending
          state)
    : ending = .exhausted
      ∧ (paginator.found ids).length ≤ pages.length * paginator.pageSize.toNat := by
  have last := past.ending
  rw [(Paginator.Cuts.of_gives ascending past.gives).answerAfter_eq ascending,
    if_neg (Option.some_ne_none _).symm] at last
  cases ending with
  | failed error => cases last
  | exhausted =>
      exact ⟨rfl, (cutPage_eq_nil_iff positive).mp (List.map_eq_nil_iff.mp (Except.ok.inj last))⟩

/-- The answers to a walk that is over are its pages and an empty one. -/
theorem Over.map_length_answers {state : Recorded Memory Entry}
    (ascending : ids.Pairwise (· < ·)) (positive : 0 < paginator.pageSize.toNat)
    (past
      : walk.Over Memory.fetch paginator Entry.key (.ofStock (.dataSet ids none)) pages ending
          state)
    : state.answers.map (Except.map List.length)
      = ((List.range (pages.length + 1)).map fun number =>
          (cutPage (paginator.found ids) paginator.pageSize.toNat number).length).map .ok := by
  obtain ⟨rfl, all⟩ := past.of_dataSet ascending positive
  have cuts := Paginator.Cuts.of_gives ascending past.gives
  have lengths : pages.map (fun page => page.records.length)
      = (List.range pages.length).map fun number =>
          (cutPage (paginator.found ids) paginator.pageSize.toNat number).length := by
    have same := congrArg (List.map List.length) cuts
    simpa only [List.map_map, Function.comp_def, List.length_map] using same
  rw [past.served, Source.answers_serve_requests, past.gives, past.ending, List.map_append,
    List.map_map, List.range_succ, List.map_append, ← lengths, List.map_append, List.map_map]
  simp only [List.map_singleton, (cutPage_eq_nil_iff positive).mpr all]
  rfl

/-- What was taken from a walk that is over is all that it finds. -/
theorem Over.sweepsData {taken : Taken (Recorded Memory Entry) Entry}
    (ascending : ids.Pairwise (· < ·)) (positive : 0 < paginator.pageSize.toNat)
    (past
      : taken.walk.Over Memory.fetch paginator Entry.key (.ofStock (.dataSet ids none)) pages
          ending taken.state)
    (items : taken.items = (pages.flatMap Page.records).map .ok ++ ending.failures)
    (ended : taken.ended = true)
    : SweepsData ids paginator taken := by
  have lengths := past.map_length_answers ascending positive
  obtain ⟨rfl, all⟩ := past.of_dataSet ascending positive
  have cuts := Paginator.Cuts.of_gives ascending past.gives
  have count := cuts.length_eq positive all
  exact {
    items := by
      rw [items, cuts.flatMap_records, List.take_of_length_le all, Ending.failures,
        List.append_nil, List.map_map]
      rfl
    ended
    calls := by rw [past.length_exchanges, count]
    sizes := by rw [lengths, count, map_length_cutPage _ positive]
    requests := by
      intro number made
      rw [past.length_exchanges] at made
      have le : number ≤ pages.length := Nat.le_of_lt_succ made
      rw [past.served, Source.requests_serve, Recorded.requests, Recorded.fresh, List.map_nil,
        List.nil_append, Paginator.requests, List.getElem?_map,
        Paginator.getElem?_cursors _ _ _ le, cuts.cursorAfter_take le, getElem?_cons_min]
  }

/-- What was taken from a walk whose end was seen is all that it finds. -/
theorem sweepsData_of_ended (ascending : ids.Pairwise (· < ·))
    (opened : open? paginator = .ok walk) {count : Nat}
    (ended
      : (walk.take Memory.fetch.recorded Entry.key count
          (.fresh (.ofStock (.dataSet ids none)))).ended = true)
    : SweepsData ids paginator
        (walk.take Memory.fetch.recorded Entry.key count
          (.fresh (.ofStock (.dataSet ids none)))) := by
  have positive := pageSize_pos_of_open? opened
  rcases take_course Memory.fetch Entry.key (.ofStock (.dataSet ids none)) opened count with
    ⟨_, _, _, going, _⟩ | ⟨pages, ending, items, _, _, past⟩
  · rw [going] at ended
    contradiction
  · exact past.sweepsData ascending positive items ended

/-- So many polls see the end of a walk: one for each identifier that it finds, and one more. -/
theorem over_of_length_lt (ascending : ids.Pairwise (· < ·)) (opened : open? paginator = .ok walk)
    {polls : Nat} (enough : (paginator.found ids).length < polls)
    : let taken := walk.take Memory.fetch.recorded Entry.key polls
        (.fresh (.ofStock (.dataSet ids none)))
      taken.ended = true
      ∧ ∃ pages ending,
          taken.walk.Over Memory.fetch paginator Entry.key (.ofStock (.dataSet ids none)) pages
            ending taken.state := by
  intro taken
  rcases take_course Memory.fetch Entry.key (.ofStock (.dataSet ids none)) opened polls with
    ⟨pages, given, _, _, polled, midway⟩ | ⟨pages, ending, items, ended, _, past⟩
  · have few := (Paginator.Cuts.of_gives ascending midway.gives).length_records_le
    have all := midway.length_given_le
    omega
  · refine ⟨?_, pages, ending, past⟩
    have few := (Paginator.Cuts.of_gives ascending past.gives).length_records_le
    obtain ⟨rfl, _⟩ := past.of_dataSet ascending (pageSize_pos_of_open? opened)
    rw [show taken.ended = _ from ended, decide_eq_true_iff, items, Ending.failures,
      List.append_nil, List.length_map]
    omega

/--
Through data that stays as it is a walk gives all that lies behind its start, whatever the size of
the pages, and no failure; the length of that alone fixes how many requests there are, at which
cursors, and how long the pages are. It is so whether the walk is polled for its items or drained.
-/
theorem sweeps_static_data (ascending : ids.Pairwise (· < ·)) (paginator : Paginator)
    (positive : paginator.pageSize ≠ 0)
    : ∃ walk : Walk Entry,
        open? paginator = .ok walk
        ∧ (∀ polls,
            (paginator.found ids).length < polls
            → SweepsData ids paginator
                (walk.take Memory.fetch.recorded Entry.key polls
                  (.fresh (.ofStock (.dataSet ids none))))
              ∧ (walk.take Memory.fetch Entry.key polls (.ofStock (.dataSet ids none))).items
                = (paginator.found ids).map fun id => .ok (.ofId id))
        ∧ ∀ fetches,
            ((paginator.found ids).length + paginator.pageSize.toNat - 1)
                / paginator.pageSize.toNat
              < fetches
            → SweepsData ids paginator
                (walk.drain Memory.fetch.recorded Entry.key fetches
                  (.fresh (.ofStock (.dataSet ids none)))) := by
  obtain ⟨walk, opened⟩ : ∃ walk : Walk Entry, open? paginator = .ok walk :=
    ⟨_, open?_eq_ok_iff.mpr ⟨positive, rfl⟩⟩
  refine ⟨walk, opened, ?_, ?_⟩
  · intro polls enough
    have sweeps :=
      sweepsData_of_ended ascending opened (over_of_length_lt ascending opened enough).1
    exact ⟨sweeps, (take_fresh _ _ _ _ _).1.trans sweeps.items⟩
  · intro fetches enough
    obtain ⟨_, pages, ending, past⟩ :=
      over_of_length_lt ascending opened (Nat.lt_succ_self (paginator.found ids).length)
    have room := pageSize_pos_of_open? opened
    have all := (past.of_dataSet ascending room).2
    have count := (Paginator.Cuts.of_gives ascending past.gives).length_eq room all
    have ended := ended_drain opened (Source.answers_eq_iff.mpr ⟨past.gives, past.ending⟩)
      (show pages.length < fetches by omega)
    rw [drain_eq_take] at ended ⊢
    exact sweepsData_of_ended ascending opened ended

/-- Four of six identifiers lie before the start; pages of three cut them into three and one. -/
theorem sweeps_static_data_of_six
    : let ids : List Snowflake := [⟨2⟩, ⟨3⟩, ⟨5⟩, ⟨8⟩, ⟨13⟩, ⟨21⟩]
      let paginator := (Paginator.before 3).startAt ⟨10⟩
      ids.Pairwise (· < ·)
      ∧ paginator.pageSize ≠ 0
      ∧ paginator.found ids = [⟨8⟩, ⟨5⟩, ⟨3⟩, ⟨2⟩]
      ∧ ∃ walk : Walk Entry,
          open? paginator = .ok walk
          ∧ SweepsData ids paginator
              (walk.take Memory.fetch.recorded Entry.key 5
                (.fresh (.ofStock (.dataSet ids none)))) := by
  intro ids paginator
  have ascending : ids.Pairwise (· < ·) := by decide
  have positive : paginator.pageSize ≠ 0 := by decide
  have found : paginator.found ids = [⟨8⟩, ⟨5⟩, ⟨3⟩, ⟨2⟩] := by decide
  obtain ⟨walk, opened, sweeps, _⟩ := sweeps_static_data ascending paginator positive
  exact ⟨ascending, positive, found, walk, opened, (sweeps 5 (by rw [found]; decide)).1⟩

end Walk

end DiscordRest.Paging
