import Mathlib.Order.Bounds.Defs
import DiscordRest.Paging.Memory
import DiscordRest.Proofs.Paging.Course

/-!
When a walk asks for a page. As long as its polls give records it has asked for the fewest pages
that hold them, so a page is asked for by the poll behind the last record of the page before. At
its end it asks for nothing more.
-/

namespace DiscordRest.Paging.Walk

variable {σ ρ : Type} {source : Source σ ρ} {paginator : Paginator} {key : ρ → Snowflake}
variable {origin : σ} {pages : List (Page ρ)} {given : List ρ} {walk : Walk ρ}
variable {state : Recorded σ ρ}

/-- Fewer pages than a walk has asked for hold fewer records than it has given. -/
theorem Midway.length_pages_lt
    (midway : walk.Midway source paginator key origin pages given state) {count : Nat}
    (fewer : count < pages.length)
    : ((source.pages paginator key origin count).flatMap Page.records).length
      < given.length := by
  rcases List.eq_nil_or_concat pages with rfl | ⟨before, last, rfl⟩
  · exact absurd fewer (Nat.not_lt_zero count)
  · rw [List.concat_eq_append] at *
    -- Fewer pages are among those before the last, which was only asked for when these ran out.
    have bound := source.length_pages_le paginator key origin count
    have first := source.pages_prefix_of_le paginator key origin (Nat.le_of_lt fewer)
    rw [Source.pages_length_of_gives midway.gives] at first
    rw [List.length_append, List.length_singleton] at fewer
    have earlier : source.pages paginator key origin count <+: before :=
      List.prefix_of_prefix_length_le first (List.prefix_append before [last]) (by omega)
    exact Nat.lt_of_le_of_lt (earlier.flatMap Page.records).length_le
      (midway.needed before last rfl)

/-- A walk has asked for the fewest pages that hold the records it has given. -/
theorem Midway.isLeast_length_exchanges
    (midway : walk.Midway source paginator key origin pages given state)
    : IsLeast
        {count
          | given.length
            ≤ ((source.pages paginator key origin count).flatMap Page.records).length}
        state.exchanges.length := by
  rw [midway.length_exchanges]
  constructor
  · show given.length ≤ _
    rw [Source.pages_length_of_gives midway.gives]
    exact midway.length_given_le
  · intro count enough
    by_contra fewer
    have short := midway.length_pages_lt (Nat.lt_of_not_le fewer)
    exact Nat.not_le_of_lt short enough

/-- The next poll asks for something exactly when all records of the pages were given. -/
theorem Midway.length_exchanges_poll
    (midway : walk.Midway source paginator key origin pages given state)
    : (walk.poll source.recorded key state).state.exchanges.length
      = state.exchanges.length
        + if given.length = (pages.flatMap Page.records).length then 1 else 0 := by
  rw [midway.length_exchanges]
  rcases midway.poll with ⟨record, left, _, next⟩ | ⟨page, used, _, next⟩ | ⟨ending, used, _, past⟩
  · rw [next.length_exchanges, if_neg (Nat.ne_of_lt left), Nat.add_zero]
  · rw [next.length_exchanges, if_pos used, List.length_append, List.length_singleton]
  · rw [past.length_exchanges, if_pos used]

/--
While all polls give records, the requests are the fewest whose pages hold these records, and the
next poll makes a request exactly when it follows the last of them; once a poll gave no record,
all later polls give the end, whatever source is asked, and leave it alone.
-/
theorem run_fetches_lazily (source : Source σ ρ) (paginator : Paginator) (key : ρ → Snowflake)
    (origin : σ) (opened : open? paginator = .ok walk) (polls : Nat)
    : let run := walk.run source.recorded key polls (.fresh origin)
      let next := walk.run source.recorded key (polls + 1) (.fresh origin)
      let held := fun count =>
        ((source.pages paginator key origin count).flatMap Page.records).length
      ((∀ item ∈ run.items, item.isRecord = true)
        → IsLeast {count | polls ≤ held count} run.state.exchanges.length
          ∧ next.state.exchanges.length
            = run.state.exchanges.length
              + if polls = held run.state.exchanges.length then 1 else 0)
      ∧ ((∃ item ∈ run.items, item.isRecord = false)
        → ∀ {σ' : Type} (other : Source σ' ρ) (otherKey : ρ → Snowflake) (state : σ')
            (more : Nat),
            run.walk.run other otherKey more state
              = ⟨List.replicate more .finished, run.walk, state, []⟩) := by
  intro run next held
  have length : run.items.length = polls := length_items_run ..
  rcases run_course source key origin opened polls with
    ⟨pages, given, items, midway⟩ | ⟨pages, ending, later, items, past⟩
  · have same : given.length = polls := by
      rw [← length, ← List.length_map Item.record, ← items]
    refine ⟨fun _ => ⟨?_, ?_⟩, ?_⟩
    · exact same ▸ midway.isLeast_length_exchanges
    · have held_eq : held run.state.exchanges.length = (pages.flatMap Page.records).length := by
        rw [show run.state.exchanges.length = pages.length from midway.length_exchanges]
        simp only [held, Source.pages_length_of_gives midway.gives]
      have last : next = _ := run_succ source.recorded key polls walk (.fresh origin)
      rw [held_eq, ← same, last]
      exact midway.length_exchanges_poll
    · rintro ⟨item, member, past⟩
      rw [items] at member
      obtain ⟨record, _, rfl⟩ := List.mem_map.mp member
      cases past
  · refine ⟨?_, fun _ => ?_⟩
    · -- The item of the ending is no record.
      intro records
      have last := records ending.item (by rw [items]; simp)
      cases ending <;> cases last
    · intro _ other otherKey state more
      exact run_of_done other past.pending past.done more

/-- A script of two pages and a failure: three polls need both pages, and the fourth one fails. -/
theorem run_fetches_lazily_of_script
    : let pages : List (Page Entry) :=
        [.ofCons (.ofId ⟨4⟩) [.ofId ⟨7⟩], .ofCons ⟨⟨9⟩, ⟨5⟩⟩ []]
      let script := Memory.ofStock
        (.script (pages.map Page.answer ++ [.error (.status 500 "down")]))
      let walk : Walk Entry := ⟨.after 2, .startingAt .zero, []⟩
      let run := fun polls =>
        walk.run Memory.fetch.recorded Entry.key polls (.fresh script)
      open? (.after 2) = .ok walk
      ∧ (∀ item ∈ (run 3).items, item.isRecord = true)
      ∧ IsLeast
          {count
            | 3
              ≤ ((Source.pages Memory.fetch (.after 2) Entry.key script count).flatMap
                Page.records).length}
          (run 3).state.exchanges.length
      ∧ (∃ item ∈ (run 4).items, item.isRecord = false)
      ∧ (run 4).walk.run Memory.fetch Entry.key 2 script
        = ⟨[.finished, .finished], (run 4).walk, script, []⟩ := by
  intro pages script walk run
  have opened : open? (.after 2) = .ok walk := rfl
  have records : ∀ item ∈ (run 3).items, item.isRecord = true :=
    List.all_eq_true.mp (by decide)
  have past : ∃ item ∈ (run 4).items, item.isRecord = false :=
    ⟨.failure (.status 500 "down"), .tail _ (.tail _ (.tail _ (.head _))), rfl⟩
  have lazily := run_fetches_lazily Memory.fetch (.after 2) Entry.key script opened
  exact ⟨opened, records, ((lazily 3).1 records).1, past, (lazily 4).2 past _ _ _ 2⟩

end DiscordRest.Paging.Walk
