import Mathlib.Data.List.Nodup
import DiscordRest.Proofs.Paging.StaticData

/-!
Walks through a history whose pages come with the newest record first, whichever side of the cursor
they lie on. The last record of a page is the next cursor. Back from a start it is the farthest one,
so the pages lie one behind the other; forward from a start it is the nearest one, so each page
lies only one record further on than the page before, and repeats all others.
-/

namespace DiscordRest.Paging

------------------------------------------------------------------------------------------
-- Pages of a history
------------------------------------------------------------------------------------------

/-- Records in the order of a walk, put with the newest first. -/
def Direction.newestFirst {α : Type} : Direction → List α → List α
  | .after, records => records.reverse
  | .before, records => records

/-- The page of a history: what lies next behind the cursor, with the newest record first. -/
def historyPage (ids : List Snowflake) (request : PageRequest) : List Snowflake :=
  request.direction.newestFirst (servePage ids request)

/-- The pages of a history descend on either side of the cursor. -/
theorem pairwise_historyPage {ids : List Snowflake} (ascending : ids.Pairwise (· < ·))
    (request : PageRequest)
    : (historyPage ids request).Pairwise fun a b => b < a := by
  have ordered := pairwise_servePage ascending request
  unfold historyPage
  obtain ⟨direction, cursor, limit⟩ := request
  cases direction with
  | after =>
      refine List.pairwise_reverse.mpr (ordered.imp ?_)
      exact fun ahead => of_decide_eq_true ahead
  | before => exact ordered.imp fun ahead => of_decide_eq_true ahead

namespace Paginator

variable {paginator : Paginator} {ids : List Snowflake}

/-- How many records further on each page of a history lies than the page before. -/
def stride (paginator : Paginator) : Nat :=
  match paginator.direction with
  | .after => 1
  | .before => paginator.pageSize.toNat

/-- The cursor of the page with a number, counted from zero. -/
def historyCursor (paginator : Paginator) (ids : List Snowflake) (number : Nat) : Snowflake :=
  ((paginator.found ids).take (number * paginator.stride)).getLast?.getD paginator.start

/-- The page with a number. -/
def historyPageAt (paginator : Paginator) (ids : List Snowflake) (number : Nat)
    : List Snowflake :=
  paginator.direction.newestFirst
    (((paginator.found ids).drop (number * paginator.stride)).take paginator.pageSize.toNat)

/-- How many pages of a history have records. -/
def historyLength (paginator : Paginator) (ids : List Snowflake) : Nat :=
  ((paginator.found ids).length + paginator.stride - 1) / paginator.stride

/-- The requests of a walk through a history, the one for an empty page at the end included. -/
def historyRequests (paginator : Paginator) (ids : List Snowflake) : List PageRequest :=
  (List.range (paginator.historyLength ids + 1)).map fun number =>
    paginator.request (paginator.historyCursor ids number)

/-- What a walk through a history gives. -/
def historyItems (paginator : Paginator) (ids : List Snowflake) : List Snowflake :=
  (List.range (paginator.historyLength ids)).flatMap (paginator.historyPageAt ids)

/-- At each cursor of the walk a history answers with the page of its number. -/
theorem historyPage_request (ascending : ids.Pairwise (· < ·)) (number : Nat)
    : historyPage ids (paginator.request (paginator.historyCursor ids number))
      = paginator.historyPageAt ids number := by
  have left := paginator.direction.behind_getLast?_take ascending paginator.start
    (number * paginator.stride)
  rw [historyPage, servePage_eq_take_behind, request, historyPageAt, historyCursor, found, left]

theorem stride_pos (positive : paginator.pageSize ≠ 0) : 0 < paginator.stride := by
  have room : paginator.pageSize.toNat ≠ 0 := UInt32.toNat_inj.ne.mpr positive
  unfold stride
  cases paginator.direction <;> simp only <;> omega

theorem stride_le (positive : paginator.pageSize ≠ 0)
    : paginator.stride ≤ paginator.pageSize.toNat := by
  have room : paginator.pageSize.toNat ≠ 0 := UInt32.toNat_inj.ne.mpr positive
  unfold stride
  cases paginator.direction <;> simp only <;> omega

/-- A page has records just below the number of pages. -/
theorem historyPageAt_eq_nil_iff (positive : paginator.pageSize ≠ 0) {number : Nat}
    : paginator.historyPageAt ids number = [] ↔ paginator.historyLength ids ≤ number := by
  have moves := stride_pos positive
  have room := stride_le positive
  have empty : paginator.historyPageAt ids number = []
      ↔ (paginator.found ids).length ≤ number * paginator.stride := by
    have reversed : ∀ records : List Snowflake,
        paginator.direction.newestFirst records = [] ↔ records = [] := by
      cases paginator.direction <;> simp [Direction.newestFirst]
    rw [historyPageAt, reversed, List.take_eq_nil_iff, List.drop_eq_nil_iff]
    omega
  have counted : paginator.historyLength ids < number + 1
      ↔ (paginator.found ids).length + paginator.stride - 1 < (number + 1) * paginator.stride :=
    Nat.div_lt_iff_lt_mul moves
  rw [Nat.succ_mul] at counted
  rw [empty]
  omega

/-- The last record of a page is the cursor of the next one. -/
theorem getLast?_historyPageAt (positive : paginator.pageSize ≠ 0) {number : Nat}
    (some_left : number < paginator.historyLength ids)
    : (paginator.historyPageAt ids number).getLast?
      = some (paginator.historyCursor ids (number + 1)) := by
  have moves := stride_pos positive
  have room := stride_le positive
  have nonempty := (historyPageAt_eq_nil_iff positive).not.mpr (Nat.not_le.mpr some_left)
  have further : paginator.historyCursor ids (number + 1)
      = (((paginator.found ids).take (number * paginator.stride)
          ++ ((paginator.found ids).drop (number * paginator.stride)).take
            paginator.stride).getLast?).getD paginator.start := by
    rw [historyCursor, Nat.succ_mul, List.take_add]
  rw [further]
  rw [historyPageAt] at nonempty ⊢
  generalize (paginator.found ids).drop (number * paginator.stride) = left at nonempty ⊢
  obtain ⟨first, rest, rfl⟩ : ∃ first rest, left = first :: rest := by
    refine List.exists_cons_of_ne_nil fun none_left => nonempty ?_
    rw [none_left, List.take_nil]
    cases paginator.direction <;> rfl
  have taken : (first :: rest).take paginator.stride ≠ [] := by
    rw [ne_eq, List.take_eq_nil_iff]
    simp only [List.cons_ne_nil, or_false]
    omega
  rw [List.getLast?_append_of_ne_nil _ taken, List.getLast?_eq_some_getLast taken, Option.getD_some,
    ← List.getLast?_eq_some_getLast taken]
  unfold stride
  cases paginator.direction with
  | before => rfl
  | after =>
      obtain ⟨size, same⟩ := Nat.exists_eq_succ_of_ne_zero (Nat.ne_of_gt (moves.trans_le room))
      rw [Direction.newestFirst, List.getLast?_reverse, same]
      rfl

------------------------------------------------------------------------------------------
-- What the pages hold
------------------------------------------------------------------------------------------

/-- Back from a start, the pages are what lies before it, cut into pieces. -/
theorem historyItems_of_before (positive : paginator.pageSize ≠ 0)
    (backwards : paginator.direction = .before)
    : paginator.historyItems ids = paginator.found ids := by
  have pageAt : paginator.historyPageAt ids
      = cutPage (paginator.found ids) paginator.pageSize.toNat := by
    funext number
    rw [historyPageAt, stride, backwards]
    rfl
  have last : paginator.historyPageAt ids (paginator.historyLength ids) = [] :=
    (historyPageAt_eq_nil_iff positive).mpr (Nat.le_refl _)
  have room : 0 < paginator.pageSize.toNat := (stride_pos positive).trans_le (stride_le positive)
  rw [pageAt, cutPage_eq_nil_iff room] at last
  rw [historyItems, pageAt, flatMap_cutPage, List.take_of_length_le last]

/-- Of records that differ, one is among the first ones if its place is. -/
theorem count_take_of_nodup {records : List Snowflake} (single : records.Nodup) {place : Nat}
    (bound : place < records.length) (count : Nat)
    : (records.take count).count records[place] = if place < count then 1 else 0 := by
  have once : records.count records[place] = 1 :=
    List.count_eq_one_of_mem single (List.getElem_mem bound)
  have both : (records.take count).count records[place] + (records.drop count).count records[place]
      = 1 := by
    rw [← List.count_append, List.take_append_drop, once]
  split
  · rename_i before
    have member : records[place] ∈ records.take count :=
      List.mem_take_iff_getElem.mpr ⟨place, by omega, rfl⟩
    have some_there := List.count_pos_iff.mpr member
    omega
  · rename_i behind
    have member : records[place] ∈ records.drop count := by
      refine List.mem_drop_iff_getElem.mpr ⟨place - count, by omega, ?_⟩
      congr 1
      omega
    have some_there := List.count_pos_iff.mpr member
    omega

/-- What is on the pages that start at each of some records comes from these. -/
theorem mem_of_mem_windows {found : List Snowflake} {size count : Nat} {id : Snowflake}
    (member : id ∈ (List.range count).flatMap fun number =>
      ((found.drop number).take size).reverse)
    : id ∈ found := by
  obtain ⟨number, _, inside⟩ := List.mem_flatMap.mp member
  exact List.mem_of_mem_drop (List.mem_of_mem_take (List.mem_reverse.mp inside))

/--
Where a page starts at each of some records, each is on as many pages as fit before it and at it, by
induction on the records: the first page adds one for those on it.
-/
theorem count_windows {found : List Snowflake} (single : found.Nodup) {size : Nat}
    (positive : 0 < size) {place : Nat} (bound : place < found.length)
    : ((List.range found.length).flatMap fun number =>
          ((found.drop number).take size).reverse).count found[place]
      = min size (place + 1) := by
  induction found generalizing place with
  | nil => contradiction
  | cons first rest ih =>
      obtain ⟨fresh, later⟩ := List.nodup_cons.mp single
      have onFirst := count_take_of_nodup single bound size
      have pages : (List.range (first :: rest).length).flatMap (fun number =>
            (((first :: rest).drop number).take size).reverse)
          = ((first :: rest).take size).reverse
            ++ (List.range rest.length).flatMap fun number =>
              ((rest.drop number).take size).reverse := by
        rw [List.length_cons, List.range_succ_eq_map, List.flatMap_cons, List.flatMap_map]
        rfl
      rw [pages, List.count_append, List.count_reverse, onFirst]
      cases place with
      | zero =>
          have gone : first ∉ (List.range rest.length).flatMap fun number =>
              ((rest.drop number).take size).reverse :=
            fun member => fresh (mem_of_mem_windows member)
          rw [List.getElem_cons_zero, List.count_eq_zero.mpr gone, if_pos positive]
          omega
      | succ place =>
          rw [List.getElem_cons_succ, ih later (Nat.lt_of_succ_lt_succ bound)]
          split <;> omega

theorem nodup_found (paginator : Paginator) (ascending : ids.Pairwise (· < ·))
    : (paginator.found ids).Nodup := by
  refine (paginator.direction.pairwise_behind ascending paginator.start).imp ?_
  rintro a _ ahead rfl
  exact Direction.not_advances_self _ a ahead

/-- Forward from a start, a record is given again on each page that still reaches it. -/
theorem count_historyItems_of_after (positive : paginator.pageSize ≠ 0)
    (ascending : ids.Pairwise (· < ·)) (forwards : paginator.direction = .after) {place : Nat}
    (bound : place < (paginator.found ids).length)
    : (paginator.historyItems ids).count (paginator.found ids)[place]
      = min paginator.pageSize.toNat (place + 1) := by
  have room : 0 < paginator.pageSize.toNat := (stride_pos positive).trans_le (stride_le positive)
  have items : paginator.historyItems ids
      = (List.range (paginator.found ids).length).flatMap fun number =>
          (((paginator.found ids).drop number).take paginator.pageSize.toNat).reverse := by
    have one : paginator.stride = 1 := by rw [stride, forwards]
    have pageAt : paginator.historyPageAt ids = fun number =>
        (((paginator.found ids).drop number).take paginator.pageSize.toNat).reverse := by
      funext number
      rw [historyPageAt, one, forwards, Nat.mul_one]
      rfl
    rw [historyItems, historyLength, pageAt, one, Nat.div_one, Nat.add_sub_cancel]
  rw [items]
  exact count_windows (paginator.nodup_found ascending) room bound

theorem mem_of_mem_historyItems {id : Snowflake} (member : id ∈ paginator.historyItems ids)
    : id ∈ paginator.found ids := by
  obtain ⟨number, _, inside⟩ := List.mem_flatMap.mp member
  have kept : ∀ records : List Snowflake,
      id ∈ paginator.direction.newestFirst records → id ∈ records := by
    cases paginator.direction <;> simp [Direction.newestFirst]
  exact List.mem_of_mem_drop (List.mem_of_mem_take (kept _ inside))

/--
A walk through a history gives each record behind its start once, exactly where it goes back, has
one record on a page, or finds no more than one.
-/
theorem history_complete_iff (positive : paginator.pageSize ≠ 0)
    (ascending : ids.Pairwise (· < ·))
    : (∀ id, (paginator.historyItems ids).count id = if id ∈ paginator.found ids then 1 else 0)
      ↔ paginator.direction = .before
        ∨ paginator.pageSize = 1
        ∨ (paginator.found ids).length ≤ 1 := by
  have single := paginator.nodup_found ascending
  cases direction : paginator.direction with
  | before =>
      refine iff_of_true ?_ (Or.inl rfl)
      intro id
      rw [historyItems_of_before positive direction]
      split
      · rename_i member
        exact List.count_eq_one_of_mem single member
      · rename_i absent
        exact List.count_eq_zero.mpr absent
  | after =>
      have counts : ∀ (place : Nat) (bound : place < (paginator.found ids).length),
          (paginator.historyItems ids).count (paginator.found ids)[place]
          = min paginator.pageSize.toNat (place + 1) :=
        fun _ bound => count_historyItems_of_after positive ascending direction bound
      have one : paginator.pageSize = 1 ↔ paginator.pageSize.toNat = 1 := UInt32.toNat_inj.symm
      have room : paginator.pageSize.toNat ≠ 0 := UInt32.toNat_inj.ne.mpr positive
      rw [one]
      constructor
      · intro complete
        by_contra more
        simp only [reduceCtorEq, false_or, not_or] at more
        have second := complete (paginator.found ids)[1]
        rw [counts 1 (by omega), if_pos (List.getElem_mem _)] at second
        omega
      · intro few id
        simp only [reduceCtorEq, false_or] at few
        split
        · rename_i member
          obtain ⟨place, bound, rfl⟩ := List.getElem_of_mem member
          rw [counts place bound]
          omega
        · rename_i absent
          exact List.count_eq_zero.mpr fun given => absent (mem_of_mem_historyItems given)

------------------------------------------------------------------------------------------
-- Walks
------------------------------------------------------------------------------------------

section

variable {ρ : Type} {key : ρ → Snowflake}

theorem exists_pages {lists : List (List ρ)} (nonempty : ∀ records ∈ lists, records ≠ [])
    : ∃ pages : List (Page ρ), pages.map Page.records = lists := by
  induction lists with
  | nil => exact ⟨[], rfl⟩
  | cons records rest ih =>
      obtain ⟨pages, same⟩ :=
        ih fun other among => nonempty other (List.mem_cons_of_mem records among)
      exact ⟨⟨records, nonempty records List.mem_cons_self⟩ :: pages, by simp [same]⟩

/-- The pages of a history are asked for one after another, each at the last record of the other. -/
theorem requests_of_history (positive : paginator.pageSize ≠ 0) {pages : List (Page ρ)}
    (keys : pages.map (fun page => page.records.map key)
      = (List.range (paginator.historyLength ids)).map (paginator.historyPageAt ids))
    : paginator.requests key pages = paginator.historyRequests ids := by
  have start : paginator.historyCursor ids 0 = paginator.start := by
    rw [historyCursor, Nat.zero_mul, List.take_zero]
    rfl
  have cursors : pages.map (Page.lastKey key)
      = (List.range (paginator.historyLength ids)).map fun number =>
          paginator.historyCursor ids (number + 1) := by
    refine List.map_injective_iff.mpr (fun _ _ => Option.some.inj) ?_
    have lasts := congrArg (List.map List.getLast?) keys
    rw [List.map_map, List.map_map] at lasts
    rw [List.map_map, List.map_map]
    refine Eq.trans ?_ (lasts.trans ?_)
    · refine List.map_congr_left fun page _ => ?_
      simp only [Function.comp_apply, List.getLast?_map,
        List.getLast?_eq_some_getLast page.nonempty, Option.map_some, Page.lastKey]
    · refine List.map_congr_left fun number among => ?_
      exact getLast?_historyPageAt positive (List.mem_range.mp among)
  rw [requests, Paginator.cursors, cursors, historyRequests, List.range_succ_eq_map, List.map_cons,
    List.map_cons, List.map_map, List.map_map, start]
  rfl

end

end Paginator

namespace Walk

variable {σ ρ : Type} {source : Source σ ρ} {paginator : Paginator} {key : ρ → Snowflake}
variable {origin : σ} {walk : Walk ρ} {ids : List Snowflake}

/--
A walk through a history asks for its pages one by one, gives what they hold, and comes to its end
behind them.
-/
theorem take_history (ascending : ids.Pairwise (· < ·)) (opened : open? paginator = .ok walk)
    {lists : List (List ρ)}
    (keys : lists.map (List.map key) = (paginator.historyRequests ids).map (historyPage ids))
    (answers : (source.serve (.fresh origin) (paginator.historyRequests ids)).answers
      = lists.map .ok)
    {polls : Nat} (enough : (paginator.historyItems ids).length + 1 < polls)
    : let taken := walk.take source key polls origin
      taken.items = lists.flatten.map .ok
      ∧ taken.ended = true
      ∧ taken.state = (source.serve (.fresh origin) (paginator.historyRequests ids)).state
      ∧ lists.flatten.map key = paginator.historyItems ids := by
  have positive := (open?_eq_ok_iff.mp opened).1
  have pageKeys : lists.map (List.map key)
      = (List.range (paginator.historyLength ids + 1)).map (paginator.historyPageAt ids) := by
    rw [keys, Paginator.historyRequests, List.map_map]
    exact List.map_congr_left fun number _ => Paginator.historyPage_request ascending number
  -- The last page is the first one without records.
  obtain ⟨filled, last, rfl⟩ : ∃ filled last, lists = filled ++ [last] := by
    rcases List.eq_nil_or_concat lists with rfl | ⟨filled, last, rfl⟩
    · have counted := congrArg List.length pageKeys
      simp at counted
    · exact ⟨filled, last, List.concat_eq_append⟩
  rw [List.range_succ, List.map_append, List.map_append] at pageKeys
  obtain ⟨filledKeys, lastKeys⟩ := List.append_inj' pageKeys rfl
  obtain rfl : last = [] := by
    have empty : paginator.historyPageAt ids (paginator.historyLength ids) = [] :=
      (Paginator.historyPageAt_eq_nil_iff positive).mpr (Nat.le_refl _)
    simpa [empty] using lastKeys
  obtain ⟨pages, rfl⟩ : ∃ pages : List (Page ρ), pages.map Page.records = filled := by
    refine Paginator.exists_pages ?_
    rintro records among rfl
    have member : [] ∈ filled.map (List.map key) := List.mem_map.mpr ⟨[], among, rfl⟩
    rw [filledKeys] at member
    obtain ⟨number, below, none_there⟩ := List.mem_map.mp member
    exact absurd (List.mem_range.mp below)
      (Nat.not_lt.mpr ((Paginator.historyPageAt_eq_nil_iff positive).mp none_there))
  rw [List.map_map] at filledKeys
  have requests : paginator.requests key pages = paginator.historyRequests ids :=
    Paginator.requests_of_history positive filledKeys
  have pageAnswers : (source.serve (.fresh origin) (paginator.requests key pages)).answers
      = pages.map Page.answer ++ [Ending.exhausted.answer] := by
    rw [requests, answers, List.map_append, List.map_map]
    rfl
  have given : (pages.flatMap Page.records).map key = paginator.historyItems ids := by
    rw [Paginator.historyItems, List.map_flatMap, List.flatMap_def, List.flatMap_def]
    exact congrArg List.flatten filledKeys
  have counted := congrArg List.length given
  rw [List.length_map] at counted
  have ended : (walk.take source.recorded key polls (.fresh origin)).ended = true :=
    ended_take opened pageAnswers (by omega)
  obtain ⟨items, past⟩ := over_of_ended opened pageAnswers ended
  have plain := take_recorded source key polls walk (.fresh origin)
  dsimp only [Recorded.fresh] at plain
  have whole : (pages.map Page.records ++ [[]]).flatten = pages.flatMap Page.records := by
    simp [List.flatMap_def]
  rw [whole, plain]
  refine ⟨?_, ended, ?_, given⟩
  · rw [Ending.failures, List.append_nil] at items
    exact items
  · rw [← requests]
    exact congrArg Recorded.state past.served

end Walk

end DiscordRest.Paging
