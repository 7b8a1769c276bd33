import Mathlib.Data.Fin.VecNotation
import Mathlib.Data.List.TakeWhile
import Mathlib.Logic.Function.Basic
import DiscordRest.Proofs.Paging.Exchange
import DiscordRest.Proofs.Paging.Simulation
import DiscordRest.Proofs.Paging.StaticData

/-!
Several walks at once. They are polled in any order and dropped at any time, and their sources may
share a state. As long as answers depend on the request alone, each walk gives and asks for what
it would alone, and all requests together are those of the single walks, each in its own order.
-/

namespace DiscordRest.Paging

variable {ι σ : Type} {ρ : ι → Type}

------------------------------------------------------------------------------------------
-- Walks that take turns
------------------------------------------------------------------------------------------

/-- What is done next with several walks. -/
inductive Turn (ι : Type) where
  /-- A walk is polled. -/
  | poll (index : ι)
  /-- A walk is given up. -/
  | drop (index : ι)
  deriving DecidableEq

/--
What several walks have in common: the state of their sources, and all requests in order, each
with the walk that made it.
-/
structure Common (ι σ : Type) where
  state : σ
  calls : List (ι × PageRequest)

/-- The requests of one of several walks. -/
def Common.callsOf [DecidableEq ι] (common : Common ι σ) (index : ι) : List PageRequest :=
  (common.calls.filter fun call => call.1 = index).map Prod.snd

/-- The source of one of several walks. -/
def Source.ofWalk {ρ : Type} (source : Source σ ρ) (index : ι)
    : Source (Common ι σ) ρ := fun common request =>
  let reply := source common.state request
  ⟨⟨reply.state, common.calls ++ [(index, request)]⟩, reply.answer, reply.events⟩

/-- Several walks, those that were given up left out, with all that each of them gave. -/
structure Family (σ : Type) (ρ : ι → Type) where
  walks : (index : ι) → Option (Walk (ρ index))
  items : (index : ι) → List (Item (ρ index))
  common : Common ι σ

namespace Family

/-- Walks of which none was polled yet. -/
def fresh (walks : (index : ι) → Walk (ρ index)) (origin : σ) : Family σ ρ :=
  ⟨fun index => some (walks index), fun _ => [], ⟨origin, []⟩⟩

variable [DecidableEq ι]

/-- Takes a turn; one that polls a walk that was given up does nothing. -/
def turn (sources : (index : ι) → Source σ (ρ index)) (keys : (index : ι) → ρ index → Snowflake)
    (family : Family σ ρ)
    : Turn ι → Family σ ρ
  | .drop index => { family with walks := Function.update family.walks index none }
  | .poll index =>
    match family.walks index with
    | none => family
    | some walk =>
      let polled := walk.poll ((sources index).ofWalk index) (keys index) family.common
      ⟨Function.update family.walks index (some polled.walk),
        Function.update family.items index (family.items index ++ [polled.item]),
        polled.state⟩

/-- Takes all turns of a schedule. -/
def run (sources : (index : ι) → Source σ (ρ index)) (keys : (index : ι) → ρ index → Snowflake)
    (family : Family σ ρ) (schedule : List (Turn ι))
    : Family σ ρ :=
  schedule.foldl (fun family next => family.turn sources keys next) family

end Family

/-- How often a schedule polls a walk before it gives it up. -/
def pollsOf [DecidableEq ι] (index : ι) (schedule : List (Turn ι)) : Nat :=
  (schedule.takeWhile (· ≠ .drop index)).count (.poll index)

section

variable [DecidableEq ι] {index : ι} {schedule : List (Turn ι)}

/-- Behind the turn that gives a walk up, no turn counts for it. -/
theorem pollsOf_append_of_dropped (dropped : .drop index ∈ schedule) (next : Turn ι)
    : pollsOf index (schedule ++ [next]) = pollsOf index schedule := by
  have stops : ¬(schedule.takeWhile (· ≠ .drop index)).length = schedule.length := by
    intro same
    have all := List.takeWhile_eq_self_iff.mp ((List.takeWhile_prefix _).eq_of_length same)
    simpa using all _ dropped
  rw [pollsOf, List.takeWhile_append, if_neg stops]
  rfl

/-- Until a walk is given up, every turn that polls it counts. -/
theorem pollsOf_append_of_open (kept : .drop index ∉ schedule) (next : Turn ι)
    : pollsOf index (schedule ++ [next])
      = pollsOf index schedule + if next = .poll index then 1 else 0 := by
  have goes : ∀ earlier ∈ schedule, decide (earlier ≠ .drop index) = true := by
    intro earlier member
    exact decide_eq_true fun same => kept (same ▸ member)
  simp only [pollsOf, List.takeWhile_append_of_pos goes, List.count_append,
    List.takeWhile_eq_self_iff.mpr goes]
  congr 1
  cases next with
  | poll other => by_cases same : other = index <;> simp [same]
  | drop other => by_cases same : other = index <;> simp [same]

end

------------------------------------------------------------------------------------------
-- Sources that answer requests alone
------------------------------------------------------------------------------------------

/--
A source whose answers depend on the request alone: in every valid state it gives the same answer,
and it stays in valid states.
-/
structure Source.AnswersBy {ρ : Type} (source : Source σ ρ) (valid : σ → Prop)
    (answer : PageRequest → Except Error (List ρ))
    : Prop where
  answers : ∀ state request, valid state → (source state request).answer = answer request
  keeps : ∀ state request, valid state → valid (source state request).state

section

variable [DecidableEq ι] {ρ : Type} {source : Source σ ρ} {valid : σ → Prop}
variable {answer : PageRequest → Except Error (List ρ)}

theorem callsOf_ofWalk (source : Source σ ρ) (index other : ι) (common : Common ι σ)
    (request : PageRequest)
    : (source.ofWalk index common request).state.callsOf other
      = common.callsOf other ++ if index = other then [request] else [] := by
  by_cases same : index = other <;> simp [Source.ofWalk, Common.callsOf, same]

/-- The source of one of several walks answers as it would for this walk alone. -/
theorem Source.AnswersBy.agree (steady : source.AnswersBy valid answer) (index : ι)
    : Source.Agree
        (fun (common : Common ι σ) (alone : Recorded σ ρ) =>
          valid common.state ∧ valid alone.state ∧ common.callsOf index = alone.requests)
        (source.ofWalk index) source.recorded := by
  rintro common alone request ⟨validCommon, validAlone, calls⟩
  refine ⟨?_, ?_, ?_, ?_⟩
  · exact (steady.answers _ request validCommon).trans (steady.answers _ request validAlone).symm
  · exact steady.keeps _ request validCommon
  · exact steady.keeps _ request validAlone
  · rw [callsOf_ofWalk, if_pos rfl, calls]
    simp [recorded, Recorded.requests]

end

------------------------------------------------------------------------------------------
-- Each walk as if alone
------------------------------------------------------------------------------------------

namespace Family

variable [DecidableEq ι] {sources : (index : ι) → Source σ (ρ index)}
variable {keys : (index : ι) → ρ index → Snowflake} {valid : σ → Prop}
variable {answers : (index : ι) → PageRequest → Except Error (List (ρ index))}
variable {family : Family σ ρ} {index : ι}

/-- One of several walks is where some run of it alone has come, unless it was given up. -/
structure Follows (index : ι) (dropped : Prop) (alone : Walk.Run (Recorded σ (ρ index)) (ρ index))
    (family : Family σ ρ)
    : Prop where
  /-- The walk stands where it does alone. -/
  walk : ¬dropped → family.walks index = some alone.walk
  /-- A walk that was given up is left out. -/
  gone : dropped → family.walks index = none
  /-- It gave what it does alone. -/
  items : family.items index = alone.items
  /-- It asked for what it does alone. -/
  calls : family.common.callsOf index = alone.state.requests

theorem Follows.other {dropped : Prop} {alone : Walk.Run (Recorded σ (ρ index)) (ρ index)}
    (follows : family.Follows index dropped alone) {next : Turn ι} (notPoll : next ≠ .poll index)
    (notDrop : next ≠ .drop index)
    : (family.turn sources keys next).Follows index dropped alone := by
  cases next with
  | drop other =>
      have differ : index ≠ other := fun same => notDrop (same ▸ rfl)
      exact {
        walk := fun kept => by simp [turn, Function.update_of_ne differ, follows.walk kept]
        gone := fun dropped => by simp [turn, Function.update_of_ne differ, follows.gone dropped]
        items := follows.items
        calls := follows.calls
      }
  | poll other =>
      have differ : index ≠ other := fun same => notPoll (same ▸ rfl)
      cases going : family.walks other with
      | none => simpa only [turn, going] using follows
      | some walk =>
          simp only [turn, going]
          exact {
            walk := fun kept => by simp [Function.update_of_ne differ, follows.walk kept]
            gone := fun dropped => by simp [Function.update_of_ne differ, follows.gone dropped]
            items := by simp [Function.update_of_ne differ, follows.items]
            calls := by
              rw [← follows.calls]
              rcases Walk.state_poll ((sources other).ofWalk other) (keys other) walk
                family.common with same | asked
              · rw [same]
              · rw [asked, callsOf_ofWalk, if_neg differ.symm, List.append_nil]
          }

/-- A poll of a walk is the next poll of the walk alone. -/
theorem Follows.poll (steady : (sources index).AnswersBy valid (answers index)) {polls : Nat}
    {origin : σ} (begun : valid origin) (walk : Walk (ρ index))
    (follows : family.Follows index False
      (walk.run (sources index).recorded (keys index) polls (.fresh origin)))
    (validNow : valid family.common.state)
    : (family.turn sources keys (.poll index)).Follows index False
        (walk.run (sources index).recorded (keys index) (polls + 1) (.fresh origin)) := by
  have validAlone : valid (walk.run (sources index).recorded (keys index) polls
      (.fresh origin)).state.state := by
    have keeps : ∀ (alone : Recorded σ (ρ index)) request,
        valid alone.state → valid ((sources index).recorded alone request).state.state :=
      fun alone request => steady.keeps alone.state request
    exact Walk.run_keeps _ keeps _ _ _ begun
  obtain ⟨item, next, _, _, calls⟩ := Walk.poll_of_agree (steady.agree index)
    ⟨validNow, validAlone, follows.calls⟩ (keys index) _
  simp only [turn, follows.walk not_false, Walk.run_succ]
  exact {
    walk := fun _ => (Function.update_self ..).trans (congrArg some next)
    gone := False.elim
    items := by
      dsimp only
      rw [Function.update_self, follows.items, item]
    calls
  }

theorem Follows.drop {dropped : Prop} {alone : Walk.Run (Recorded σ (ρ index)) (ρ index)}
    (follows : family.Follows index dropped alone)
    : (family.turn sources keys (.drop index)).Follows index True alone where
  walk kept := absurd trivial kept
  gone _ := by simp [turn]
  items := follows.items
  calls := follows.calls

theorem Follows.poll_dropped {alone : Walk.Run (Recorded σ (ρ index)) (ρ index)}
    (follows : family.Follows index True alone)
    : (family.turn sources keys (.poll index)).Follows index True alone := by
  simpa only [turn, follows.gone trivial] using follows

theorem valid_turn (steady : ∀ index, (sources index).AnswersBy valid (answers index))
    (validNow : valid family.common.state) (next : Turn ι)
    : valid (family.turn sources keys next).common.state := by
  cases next with
  | drop index => exact validNow
  | poll index =>
      cases going : family.walks index with
      | none => simpa only [turn, going] using validNow
      | some walk =>
          simp only [turn, going]
          rcases Walk.state_poll ((sources index).ofWalk index) (keys index) walk
            family.common with same | asked
          · rw [same]
            exact validNow
          · rw [asked]
            exact (steady index).keeps _ _ validNow

/--
Each of several walks is at every time where it would be alone after as many polls. By induction
on the schedule from its end.
-/
theorem follows_run (keys : (index : ι) → ρ index → Snowflake)
    (steady : ∀ index, (sources index).AnswersBy valid (answers index))
    (walks : (index : ι) → Walk (ρ index)) {origin : σ} (begun : valid origin)
    (schedule : List (Turn ι))
    : let family := (fresh walks origin).run sources keys schedule
      valid family.common.state
      ∧ ∀ index,
          family.Follows index (.drop index ∈ schedule)
            ((walks index).run (sources index).recorded (keys index) (pollsOf index schedule)
              (.fresh origin)) := by
  induction schedule using List.reverseRecOn with
  | nil =>
      refine ⟨begun, ?_⟩
      intro index
      exact {
        walk := fun _ => rfl
        gone := fun dropped => absurd dropped List.not_mem_nil
        items := rfl
        calls := rfl
      }
  | append_singleton schedule next ih =>
      obtain ⟨validNow, follows⟩ := ih
      simp only [run, List.foldl_append, List.foldl_cons, List.foldl_nil] at validNow follows ⊢
      refine ⟨valid_turn steady validNow next, ?_⟩
      intro index
      have sofar := follows index
      by_cases dropped : .drop index ∈ schedule
      · rw [pollsOf_append_of_dropped dropped]
        simp only [dropped, List.mem_append, true_or] at sofar ⊢
        by_cases poll : next = .poll index
        · exact poll ▸ sofar.poll_dropped
        · by_cases drop : next = .drop index
          · exact drop ▸ sofar.drop
          · exact sofar.other poll drop
      · rw [pollsOf_append_of_open dropped]
        simp only [dropped, List.mem_append, List.mem_singleton, false_or] at sofar ⊢
        by_cases poll : next = .poll index
        · subst poll
          simpa using sofar.poll (steady index) begun (walks index) validNow
        · rw [if_neg poll, Nat.add_zero]
          by_cases drop : next = .drop index
          · subst drop
            simpa using sofar.drop
          · have kept : ¬Turn.drop index = next := fun same => drop same.symm
            simpa only [kept] using sofar.other poll drop

end Family

------------------------------------------------------------------------------------------
-- All requests together
------------------------------------------------------------------------------------------

/-- A list that takes its items from several lists, from each of them all items in their order. -/
inductive Interleaves {α : Type} [DecidableEq ι] : (ι → List α) → List α → Prop where
  /-- Nothing is left to take. -/
  | nil : Interleaves (fun _ => []) []
  /-- The first item is the first one of some list. -/
  | cons {parts : ι → List α} {rest : List α} (index : ι) (first : α)
      : Interleaves parts rest
        → Interleaves (Function.update parts index (first :: parts index)) (first :: rest)

/-- All requests of several walks take their order from those of each walk. -/
theorem Common.interleaves [DecidableEq ι] (common : Common ι σ)
    : Interleaves common.callsOf (common.calls.map Prod.snd) := by
  obtain ⟨state, calls⟩ := common
  induction calls with
  | nil => exact .nil
  | cons call rest ih =>
      obtain ⟨index, request⟩ := call
      have parts : Common.callsOf ⟨state, (index, request) :: rest⟩
          = Function.update (Common.callsOf ⟨state, rest⟩) index
            (request :: Common.callsOf ⟨state, rest⟩ index) := by
        funext other
        by_cases same : other = index
        · subst same
          simp [Common.callsOf]
        · rw [Function.update_of_ne same]
          simp [Common.callsOf, Ne.symm same]
      rw [parts]
      exact ih.cons index request

/--
Several walks over sources whose answers depend on the request alone do not meddle with each
other, in whatever order they are polled and given up: each of them has given, and asked for, what
it does in as many polls alone, and stands where it does then; and all requests are those of the
single walks, each in its order.
-/
theorem walks_do_not_interact [DecidableEq ι] {sources : (index : ι) → Source σ (ρ index)}
    (keys : (index : ι) → ρ index → Snowflake) {valid : σ → Prop}
    {answers : (index : ι) → PageRequest → Except Error (List (ρ index))}
    (steady : ∀ index, (sources index).AnswersBy valid (answers index)) {origin : σ}
    (begun : valid origin) (walks : (index : ι) → Walk (ρ index)) (schedule : List (Turn ι))
    : let family := (Family.fresh walks origin).run sources keys schedule
      let alone := fun index =>
        (walks index).run (sources index).recorded (keys index) (pollsOf index schedule)
          (.fresh origin)
      (∀ index,
          family.items index
              = ((walks index).run (sources index) (keys index) (pollsOf index schedule)
                origin).items
            ∧ family.common.callsOf index = (alone index).state.requests
            ∧ family.walks index
              = if .drop index ∈ schedule then none else some (alone index).walk)
        ∧ Interleaves (fun index => (alone index).state.requests)
            (family.common.calls.map Prod.snd) := by
  intro family alone
  have follows := (Family.follows_run keys steady walks begun schedule).2
  refine ⟨?_, ?_⟩
  · intro index
    have unrecorded := Walk.run_recorded (sources index) (keys index) (pollsOf index schedule)
      (walks index) (.fresh origin)
    refine ⟨?_, (follows index).calls, ?_⟩
    · exact (follows index).items.trans (congrArg Walk.Run.items unrecorded).symm
    · by_cases dropped : .drop index ∈ schedule
      · rw [if_pos dropped]
        exact (follows index).gone dropped
      · rw [if_neg dropped]
        exact (follows index).walk dropped
  · have calls : family.common.callsOf = fun index => (alone index).state.requests :=
      funext fun index => (follows index).calls
    exact calls ▸ family.common.interleaves

/-- A data set answers by the request, whatever it was asked before. -/
theorem Memory.answersBy_dataSet (ids : List Snowflake)
    : Source.AnswersBy fetch (fun memory => memory.stock = .dataSet ids none) fun request =>
        .ok ((servePage ids request).map .ofId) where
  answers memory request stock := by
    rw [fetch_dataSet stock]
    rfl
  keeps memory request stock := by rw [fetch_dataSet stock]

/--
Two walks of one paginator and one backwards through the same data: the second is given up in the
middle of a page, and the last one reaches its end.
-/
theorem walks_do_not_interact_of_three
    : let ids : List Snowflake := [⟨2⟩, ⟨3⟩, ⟨5⟩, ⟨8⟩, ⟨13⟩]
      let paginator := (Paginator.after 2).startAt ⟨2⟩
      let walks : Fin 3 → Walk Entry :=
        ![⟨paginator, .startingAt ⟨2⟩, []⟩, ⟨paginator, .startingAt ⟨2⟩, []⟩,
          ⟨(Paginator.before 3).startAt ⟨4⟩, .startingAt ⟨4⟩, []⟩]
      let sources : Fin 3 → Source Memory Entry := fun _ => Memory.fetch
      let memory := Memory.ofStock (.dataSet ids none)
      let schedule : List (Turn (Fin 3)) :=
        [.poll 0, .poll 1, .poll 2, .poll 0, .drop 1, .poll 2, .poll 1, .poll 0, .poll 2]
      let family := (Family.fresh walks memory).run sources (fun _ => Entry.key) schedule
      Walk.open? paginator = .ok (walks 0)
      ∧ (∀ index, (sources index).AnswersBy (fun memory => memory.stock = .dataSet ids none)
          fun request => .ok ((servePage ids request).map .ofId))
      ∧ memory.stock = .dataSet ids none
      ∧ family.items 0 = [.record (.ofId ⟨3⟩), .record (.ofId ⟨5⟩), .record (.ofId ⟨8⟩)]
      ∧ (∀ index,
          family.items index
            = ((walks index).run Memory.fetch Entry.key (pollsOf index schedule) memory).items)
      ∧ family.walks 1 = none
      ∧ family.common.calls.map Prod.fst = [0, 1, 2, 0, 2] := by
  intro ids paginator walks sources memory schedule family
  have steady : ∀ index, (sources index).AnswersBy (fun memory => memory.stock = .dataSet ids none)
      fun request => .ok ((servePage ids request).map .ofId) :=
    fun _ => Memory.answersBy_dataSet ids
  have begun : memory.stock = .dataSet ids none := rfl
  have apart := walks_do_not_interact (fun _ => Entry.key) steady begun walks schedule
  have items : family.items 0 = [.record (.ofId ⟨3⟩), .record (.ofId ⟨5⟩), .record (.ofId ⟨8⟩)] := by
    rfl
  have gone : family.walks 1 = none := by
    rfl
  have order : family.common.calls.map Prod.fst = [0, 1, 2, 0, 2] := by
    decide +kernel
  exact ⟨rfl, steady, begun, items, fun index => (apart.1 index).1, gone, order⟩

end DiscordRest.Paging
