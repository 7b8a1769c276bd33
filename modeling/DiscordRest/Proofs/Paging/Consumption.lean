import DiscordRest.Proofs.Paging.Course

/-!
Consuming a walk. Taking some items stops at the end, which a run of the same number of polls goes
past; draining a walk is taking all its items and then one more.
-/

namespace DiscordRest.Paging.Walk

variable {σ ρ : Type} {source : Source σ ρ} {key : ρ → Snowflake} {walk : Walk ρ} {state : σ}

------------------------------------------------------------------------------------------
-- Taking
------------------------------------------------------------------------------------------

/-- Nothing is taken behind the end. -/
theorem take_succ_of_finished {count : Nat}
    (item : (walk.poll source key state).item = .finished)
    : walk.take source key (count + 1) state
      = let polled := walk.poll source key state
        ⟨[], true, polled.walk, polled.state, polled.events⟩ := by
  simp only [take, item]

/-- A record or a failure is taken before what later polls give. -/
theorem take_succ_of_result {count : Nat} (result : Except Error ρ)
    (item : (walk.poll source key state).item = .ofResult result)
    : walk.take source key (count + 1) state
      = let polled := walk.poll source key state
        let rest := polled.walk.take source key count polled.state
        { rest with items := result :: rest.items, events := polled.events ++ rest.events } := by
  cases result with
  | ok record => simp only [take, item, Item.ofResult]
  | error error => simp only [take, item, Item.ofResult]

/--
What is taken is what a run gives before its end, and the end is seen if the run gives it. By
induction on the number of polls; the first end leaves a walk that no later poll changes.
-/
theorem take_of_items_run (source : Source σ ρ) (key : ρ → Snowflake) (count : Nat)
    (walk : Walk ρ) (state : σ) (results : List (Except Error ρ)) (later : Nat)
    (items : (walk.run source key count state).items
      = results.map Item.ofResult ++ List.replicate later .finished)
    : walk.take source key count state
      = let run := walk.run source key count state
        ⟨results, decide (0 < later), run.walk, run.state, run.events⟩ := by
  induction count generalizing results walk state with
  | zero =>
      simp only [run, List.nil_eq, List.append_eq_nil_iff, List.map_eq_nil_iff,
        List.replicate_eq_nil_iff] at items
      obtain ⟨rfl, rfl⟩ := items
      rfl
  | succ count ih =>
      cases results with
      | nil =>
          cases later with
          | zero => simp [run] at items
          | succ later =>
              simp only [run, List.map_nil, List.nil_append, List.replicate_succ,
                List.cons.injEq] at items
              -- Taking stops here; the run goes on, but nothing moves any more.
              obtain ⟨pending, done⟩ := poll_done_of_not_isRecord source
                (by rw [items.1]; rfl)
              rw [take_succ_of_finished items.1]
              simp [run, run_of_done source pending done]
      | cons result results =>
          simp only [run, List.map_cons, List.cons_append, List.cons.injEq] at items
          rw [take_succ_of_result result items.1]
          dsimp only
          rw [ih _ _ results items.2]
          rfl

/-- The pending records are taken first. -/
theorem take_pending_add (source : Source σ ρ) (key : ρ → Snowflake) (count : Nat)
    (walk : Walk ρ) (state : σ)
    : walk.take source key (walk.pending.length + count) state
      = let rest := { walk with pending := [] }.take source key count state
        { rest with items := walk.pending.map .ok ++ rest.items } := by
  obtain ⟨paginator, progress, pending⟩ := walk
  induction pending with
  | nil => simp
  | cons record pending ih =>
      rw [List.length_cons, show pending.length + 1 + count = pending.length + count + 1 by omega]
      simp only [take, poll, ih, List.map_cons, List.cons_append, List.nil_append]

theorem take_recorded (source : Source σ ρ) (key : ρ → Snowflake) (count : Nat)
    (walk : Walk ρ) (recorded : Recorded σ ρ)
    : walk.take source key count recorded.state
      = let taken := walk.take source.recorded key count recorded
        ⟨taken.items, taken.ended, taken.walk, taken.state.state, taken.events⟩ := by
  induction count generalizing walk recorded with
  | zero => rfl
  | succ count ih =>
      simp only [take, poll_recorded source key walk recorded]
      cases (walk.poll source.recorded key recorded).item with
      | finished => rfl
      | record record => simp only [ih]
      | failure error => simp only [ih]

------------------------------------------------------------------------------------------
-- Draining
------------------------------------------------------------------------------------------

/-- A walk that is at its end behind the pending records drains to these. -/
theorem drain_succ_of_finished {fetches : Nat}
    (item : ({ walk with pending := [] }.poll source key state).item = .finished)
    : walk.drain source key (fetches + 1) state
      = let polled := { walk with pending := [] }.poll source key state
        ⟨walk.pending.map .ok, true, polled.walk, polled.state, polled.events⟩ := by
  simp only [drain, item]

/-- A walk that fails behind the pending records drains to these and the failure. -/
theorem drain_succ_of_failure {fetches : Nat} {error : Error}
    (item : ({ walk with pending := [] }.poll source key state).item = .failure error)
    : walk.drain source key (fetches + 1) state
      = let polled := { walk with pending := [] }.poll source key state
        ⟨walk.pending.map .ok ++ [.error error], true, polled.walk, polled.state,
          polled.events⟩ := by
  simp only [drain, item]

/-- A walk that gives a further record behind the pending ones drains on from there. -/
theorem drain_succ_of_record {fetches : Nat} {record : ρ}
    (item : ({ walk with pending := [] }.poll source key state).item = .record record)
    : walk.drain source key (fetches + 1) state
      = let polled := { walk with pending := [] }.poll source key state
        let rest := polled.walk.drain source key fetches polled.state
        { rest with
          items := walk.pending.map .ok ++ .ok record :: rest.items
          events := polled.events ++ rest.events } := by
  simp only [drain, item]

/--
Draining a walk is taking all its items and, where its end is seen, one poll more. By induction on
the number of requests allowed for.
-/
theorem drain_eq_take (source : Source σ ρ) (key : ρ → Snowflake) (fetches : Nat)
    (walk : Walk ρ) (state : σ)
    : walk.drain source key fetches state
      = let drained := walk.drain source key fetches state
        walk.take source key (drained.items.length + drained.ended.toNat) state := by
  induction fetches generalizing walk state with
  | zero =>
      have taken := take_pending_add source key 0 walk state
      simp only [take, List.append_nil] at taken
      simp only [drain, List.length_map, Bool.toNat_false, taken]
  | succ fetches ih =>
      cases item : ({ walk with pending := [] }.poll source key state).item with
      | finished =>
          rw [drain_succ_of_finished item]
          dsimp only
          rw [List.length_map, take_pending_add, Bool.toNat_true, take_succ_of_finished item]
          simp
      | failure error =>
          -- Draining stops at the failure; taking needs one poll more to see the end.
          obtain ⟨pending, done⟩ := poll_done_of_not_isRecord source (congrArg Item.isRecord item)
          rw [drain_succ_of_failure item]
          dsimp only
          rw [List.length_append, List.length_map, Nat.add_assoc, take_pending_add,
            List.length_singleton, Bool.toNat_true]
          rw [take_succ_of_result (.error error) item]
          dsimp only
          rw [take_succ_of_finished (by rw [poll_of_done source pending done]),
            poll_of_done source pending done]
          simp
      | record record =>
          rw [drain_succ_of_record item]
          dsimp only
          rw [List.length_append, List.length_map, List.length_cons, Nat.add_assoc,
            take_pending_add, Nat.add_right_comm, take_succ_of_result (.ok record) item]
          dsimp only
          rw [← ih]

/-- A record that was not pending comes with an exchange, since it comes with a page. -/
theorem length_exchanges_poll {recorded : Recorded σ ρ} {record : ρ}
    (pending : walk.pending = [])
    (item : (walk.poll source.recorded key recorded).item = .record record)
    : (walk.poll source.recorded key recorded).state.exchanges.length
      = recorded.exchanges.length + 1 := by
  obtain ⟨page, _, next⟩ := exists_page_of_poll source.recorded pending item
  rw [next]
  simp [Source.recorded]

/--
A walk that is drained without seeing its end used up all requests allowed for, and met no
failure.
-/
theorem drain_of_not_ended (source : Source σ ρ) (key : ρ → Snowflake) (fetches : Nat)
    (walk : Walk ρ) (recorded : Recorded σ ρ)
    (going : (walk.drain source.recorded key fetches recorded).ended = false)
    : (walk.drain source.recorded key fetches recorded).state.exchanges.length
        = recorded.exchanges.length + fetches
      ∧ ∀ item ∈ (walk.drain source.recorded key fetches recorded).items,
          ∃ record, item = .ok record := by
  induction fetches generalizing walk recorded with
  | zero => exact ⟨rfl, by simp [drain]⟩
  | succ fetches ih =>
      cases item : ({ walk with pending := [] }.poll source.recorded key recorded).item with
      | finished => simp [drain_succ_of_finished item] at going
      | failure error => simp [drain_succ_of_failure item] at going
      | record record =>
          rw [drain_succ_of_record item] at going ⊢
          obtain ⟨counted, records⟩ := ih _ _ going
          rw [length_exchanges_poll rfl item] at counted
          refine ⟨by dsimp only; omega, ?_⟩
          intro result member
          rcases List.mem_append.mp member with first | later
          · obtain ⟨pending, _, rfl⟩ := List.mem_map.mp first
            exact ⟨pending, rfl⟩
          · rcases List.mem_cons.mp later with rfl | rest
            · exact ⟨record, rfl⟩
            · exact records result rest

------------------------------------------------------------------------------------------
-- The course of what is taken
------------------------------------------------------------------------------------------

/--
What is taken from an opened walk are records of pages, and nothing else before the end is seen;
else all records of its pages, and the failure if one ends them.
-/
theorem take_course {paginator : Paginator} (source : Source σ ρ) (key : ρ → Snowflake)
    (origin : σ) (opened : open? paginator = .ok walk) (count : Nat)
    : let taken := walk.take source.recorded key count (.fresh origin)
      (∃ pages given,
        taken.items = given.map .ok
        ∧ taken.ended = false
        ∧ given.length = count
        ∧ taken.walk.Midway source paginator key origin pages given taken.state)
      ∨ (∃ pages ending,
          taken.items = (pages.flatMap Page.records).map .ok ++ ending.failures
          ∧ taken.ended = decide (taken.items.length < count)
          ∧ (pages.flatMap Page.records).length < count
          ∧ taken.walk.Over source paginator key origin pages ending taken.state) := by
  have length := length_items_run source.recorded key count walk (.fresh origin)
  rcases run_course source key origin opened count with
    ⟨pages, given, items, midway⟩ | ⟨pages, ending, later, items, past⟩
  · have results : (walk.run source.recorded key count (.fresh origin)).items
        = (given.map Except.ok).map Item.ofResult ++ List.replicate 0 .finished := by
      rw [items, List.replicate_zero, List.append_nil, List.map_map]
      rfl
    rw [take_of_items_run _ _ _ _ _ _ _ results]
    rw [items, List.length_map] at length
    exact Or.inl ⟨pages, given, rfl, rfl, length, midway⟩
  · have results : (walk.run source.recorded key count (.fresh origin)).items
        = ((pages.flatMap Page.records).map Except.ok ++ ending.failures).map Item.ofResult
          ++ List.replicate (later + 1 - (ending.failures : List (Except Error ρ)).length)
            .finished := by
      rw [items, ending.item_cons_replicate, List.map_append, List.map_map,
        List.append_assoc]
      rfl
    rw [take_of_items_run _ _ _ _ _ _ _ results]
    -- The end is seen unless the failure took the last of the polls.
    have few : (ending.failures : List (Except Error ρ)).length ≤ 1 := ending.length_failures_le
    rw [results] at length
    simp only [List.length_append, List.length_map, List.length_replicate] at length
    refine Or.inr ⟨pages, ending, rfl, ?_, by omega, past⟩
    simp only [List.length_append, List.length_map]
    congr 1
    apply propext
    omega

end DiscordRest.Paging.Walk
