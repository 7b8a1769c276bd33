import DiscordRest.Proofs.Paging.StaticData

/-!
Taking up a walk that broke off. Wherever a walk through a data set stops, at a failure or because
nobody polls it further, it has given the first of the identifiers that it would find. A walk from
the last of them finds the others, so nothing is lost and nothing comes twice.
-/

namespace DiscordRest.Paging

variable {ρ : Type}

/-- The records among what a walk gave. -/
def recordsOf (items : List (Except Error ρ)) : List ρ :=
  items.filterMap Except.toOption

/-- A failure behind some records adds no record. -/
theorem recordsOf_map_ok_append (records : List ρ) (ending : Ending)
    : recordsOf (records.map Except.ok ++ ending.failures) = records := by
  have all : recordsOf (records.map Except.ok) = records := by
    rw [recordsOf, List.filterMap_map]
    exact List.filterMap_some
  rw [recordsOf, List.filterMap_append]
  cases ending with
  | exhausted => rw [Ending.failures, List.filterMap_nil, List.append_nil, ← recordsOf, all]
  | failed error =>
      rw [← recordsOf, all]
      exact List.append_nil records

/-- Where a walk is taken up again: at the last record that it gave, or at its start. -/
def resumeAt (start : Snowflake) (given : List Entry) : Snowflake :=
  (given.getLast?.map Entry.id).getD start

namespace Walk

variable {ids : List Snowflake} {failing : Option Nat} {paginator : Paginator}
variable {walk : Walk Entry}

/--
A walk through a data set, whose call with some number may fail, has given the first records that
it finds at every time.
-/
theorem exists_recordsOf_take (ascending : ids.Pairwise (· < ·))
    (opened : open? paginator = .ok walk) (failing : Option Nat) (polls : Nat)
    : ∃ count,
        recordsOf (walk.take Memory.fetch Entry.key polls (.ofStock (.dataSet ids failing))).items
        = ((paginator.found ids).take count).map Entry.ofId := by
  rw [(take_fresh Memory.fetch Entry.key polls walk _).1]
  rcases take_course Memory.fetch Entry.key (.ofStock (.dataSet ids failing)) opened polls with
    ⟨pages, given, items, _, _, midway⟩ | ⟨pages, ending, items, _, _, past⟩
  · have cuts := Paginator.Cuts.of_gives ascending midway.gives
    have first := midway.given_eq_take
    rw [cuts.flatMap_records, ← List.map_take, List.take_take] at first
    refine ⟨min given.length (pages.length * paginator.pageSize.toNat), ?_⟩
    have records := recordsOf_map_ok_append given .exhausted
    rw [Ending.failures, List.append_nil] at records
    rw [items, records, ← first]
  · have cuts := Paginator.Cuts.of_gives ascending past.gives
    refine ⟨pages.length * paginator.pageSize.toNat, ?_⟩
    rw [items, recordsOf_map_ok_append, cuts.flatMap_records]

/-- A walk through a data set, whose call with some number may fail, comes to its end. -/
theorem ended_take_dataSet (ascending : ids.Pairwise (· < ·))
    (opened : open? paginator = .ok walk) (failing : Option Nat) {polls : Nat}
    (enough : ids.length + 1 < polls)
    : (walk.take Memory.fetch Entry.key polls (.ofStock (.dataSet ids failing))).ended = true := by
  rw [(take_fresh Memory.fetch Entry.key polls walk _).2]
  have held := paginator.length_found_le ids
  rcases take_course Memory.fetch Entry.key (.ofStock (.dataSet ids failing)) opened polls with
    ⟨pages, given, _, _, polled, midway⟩ | ⟨pages, ending, items, ended, _, past⟩
  · have few := (Paginator.Cuts.of_gives ascending midway.gives).length_records_le
    have all := midway.length_given_le
    omega
  · have few := (Paginator.Cuts.of_gives ascending past.gives).length_records_le
    have failures : (ending.failures : List (Except Error Entry)).length ≤ 1 :=
      ending.length_failures_le
    rw [ended, decide_eq_true_iff, items, List.length_append, List.length_map]
    omega

end Walk

/--
A walk of a paginator through a data set, polled until its end is seen, gives just these records
and no failure.
-/
def Paginator.GivesAll (paginator : Paginator) (ids : List Snowflake) (records : List Entry)
    : Prop :=
  ∃ walk : Walk Entry,
    Walk.open? paginator = .ok walk
    ∧ ∀ polls,
        records.length < polls
        → (walk.take Memory.fetch Entry.key polls (.ofStock (.dataSet ids none))).items
            = records.map .ok
          ∧ (walk.take Memory.fetch Entry.key polls (.ofStock (.dataSet ids none))).ended = true

theorem Paginator.givesAll_found {ids : List Snowflake} (ascending : ids.Pairwise (· < ·))
    {paginator : Paginator} (positive : paginator.pageSize ≠ 0)
    : paginator.GivesAll ids ((paginator.found ids).map Entry.ofId) := by
  have opened : Walk.open? paginator
      = .ok (⟨paginator, .startingAt paginator.start, []⟩ : Walk Entry) :=
    Walk.open?_eq_ok_iff.mpr ⟨positive, rfl⟩
  refine ⟨_, opened, ?_⟩
  intro polls enough
  rw [List.length_map] at enough
  have ended := (Walk.over_of_length_lt ascending opened enough).1
  obtain ⟨sameItems, sameEnded⟩ := Walk.take_fresh Memory.fetch Entry.key polls _ _
  rw [sameItems, sameEnded, (Walk.sweepsData_of_ended ascending opened ended).items]
  exact ⟨List.map_map.symm, ended⟩

/--
Wherever a walk through a data set breaks off, because a call fails or because nobody polls it
further, what it has given and what a walk from its last record gives are together what one walk
gives that does not break off, whatever the sizes of the pages. If it is polled on, a walk whose
call fails comes to its end.
-/
theorem resumed_walk_loses_nothing {ids : List Snowflake} (ascending : ids.Pairwise (· < ·))
    (direction : Direction) (start : Snowflake) {first second third : UInt32} (hFirst : first ≠ 0)
    (hSecond : second ≠ 0) (hThird : third ≠ 0)
    : ∃ (walk : Walk Entry) (whole : List Entry),
        Walk.open? ⟨direction, first, start⟩ = .ok walk
        ∧ Paginator.GivesAll ⟨direction, third, start⟩ ids whole
        ∧ ∀ (failing : Option Nat) (polls : Nat),
            let taken := walk.take Memory.fetch Entry.key polls (.ofStock (.dataSet ids failing))
            let given := recordsOf taken.items
            (ids.length + 1 < polls → taken.ended = true)
            ∧ ∃ rest,
                Paginator.GivesAll ⟨direction, second, resumeAt start given⟩ ids rest
                ∧ given ++ rest = whole := by
  have opened : Walk.open? ⟨direction, first, start⟩
      = .ok (⟨⟨direction, first, start⟩, .startingAt start, []⟩ : Walk Entry) :=
    Walk.open?_eq_ok_iff.mpr ⟨hFirst, rfl⟩
  refine ⟨_, _, opened, Paginator.givesAll_found ascending hThird, ?_⟩
  intro failing polls taken given
  refine ⟨Walk.ended_take_dataSet ascending opened failing, ?_⟩
  -- What was given is the beginning of what lies behind the start; the page size plays no part.
  obtain ⟨count, begun⟩ := Walk.exists_recordsOf_take ascending opened failing polls
  have resumed : resumeAt start given
      = ((direction.behind ids start).take count).getLast?.getD start := by
    rw [resumeAt, show given = _ from begun, Memory.getLast?_map_ofId rfl, Paginator.found]
  have left : Paginator.found ⟨direction, second, resumeAt start given⟩ ids
      = (direction.behind ids start).drop count := by
    rw [Paginator.found, resumed, direction.behind_getLast?_take ascending]
  have others : Paginator.GivesAll ⟨direction, second, resumeAt start given⟩ ids _ :=
    Paginator.givesAll_found ascending hSecond
  rw [left] at others
  refine ⟨_, others, ?_⟩
  rw [show given = _ from begun, ← List.map_append]
  exact congrArg _ (List.take_append_drop count _)

/-- The second call fails behind a page of two; the rest of the data comes in pages of three. -/
theorem resumed_walk_loses_nothing_of_failing_call
    : let ids : List Snowflake := [⟨2⟩, ⟨3⟩, ⟨5⟩, ⟨8⟩, ⟨13⟩, ⟨21⟩]
      let walk : Walk Entry := ⟨⟨.after, 2, ⟨2⟩⟩, .startingAt ⟨2⟩, []⟩
      let taken := walk.take Memory.fetch Entry.key 8 (.ofStock (.dataSet ids (some 2)))
      ids.Pairwise (· < ·)
      ∧ (2 : UInt32) ≠ 0
      ∧ (3 : UInt32) ≠ 0
      ∧ (4 : UInt32) ≠ 0
      ∧ taken.items
        = [.ok (.ofId ⟨3⟩), .ok (.ofId ⟨5⟩), .error (.status 500 "Internal Server Error")]
      ∧ taken.ended = true
      ∧ ∃ rest whole,
          Paginator.GivesAll ⟨.after, 4, ⟨2⟩⟩ ids whole
          ∧ Paginator.GivesAll ⟨.after, 3, ⟨5⟩⟩ ids rest
          ∧ [.ofId ⟨3⟩, .ofId ⟨5⟩] ++ rest = whole := by
  intro ids walk taken
  have ascending : ids.Pairwise (· < ·) := by decide
  have hFirst : (2 : UInt32) ≠ 0 := by decide
  have hSecond : (3 : UInt32) ≠ 0 := by decide
  have hThird : (4 : UInt32) ≠ 0 := by decide
  obtain ⟨same, whole, opened, all, resumed⟩ :=
    resumed_walk_loses_nothing ascending .after ⟨2⟩ hFirst hSecond hThird
  obtain rfl : same = walk := (Walk.open?_eq_ok_iff.mp opened).2
  obtain ⟨ended, rest, later, together⟩ := resumed (some 2) 8
  exact ⟨ascending, hFirst, hSecond, hThird, rfl, ended (by decide), rest, whole, all, later,
    together⟩

end DiscordRest.Paging
