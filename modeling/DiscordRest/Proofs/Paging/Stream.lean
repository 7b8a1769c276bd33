import DiscordRest.Proofs.Paging.Delivery

/-!
The stream of a walk: all that it gives up to its end. Taking fewer items takes the first ones of
the stream and leaves the source earlier on the same way; behind the end nothing changes.
-/

namespace DiscordRest.Paging.Walk

variable {σ ρ : Type} {source : Source σ ρ} {key : ρ → Snowflake} {walk : Walk ρ} {state : σ}

------------------------------------------------------------------------------------------
-- Taking on
------------------------------------------------------------------------------------------

/-- What every request of a source keeps up, taking keeps up, by induction on the polls. -/
theorem take_keeps {kept : σ → Prop}
    (keeps : ∀ state request, kept state → kept (source state request).state)
    (key : ρ → Snowflake) (count : Nat) (walk : Walk ρ) {state : σ} (start : kept state)
    : kept (walk.take source key count state).state := by
  induction count generalizing walk state with
  | zero => exact start
  | succ count ih =>
      have next := poll_keeps source keeps key walk start
      simp only [take]
      split
      · exact next
      · exact ih _ next
      · exact ih _ next

theorem take_of_done (pending : walk.pending = []) (done : walk.progress.done = true)
    (count : Nat)
    : walk.take source key count state = ⟨[], decide (0 < count), walk, state, []⟩ := by
  cases count with
  | zero => rfl
  | succ count => simp [take, poll_of_done source pending done]

/-- Taking goes on where a shorter one stopped, unless that saw the end. -/
theorem take_add (source : Source σ ρ) (key : ρ → Snowflake) (count more : Nat) (walk : Walk ρ)
    (state : σ)
    : walk.take source key (count + more) state
      = let earlier := walk.take source key count state
        let later := earlier.walk.take source key more earlier.state
        ⟨earlier.items ++ later.items, earlier.ended || later.ended, later.walk, later.state,
          earlier.events ++ later.events⟩ := by
  induction count generalizing walk state with
  | zero => simp [take]
  | succ count ih =>
      rw [Nat.succ_add]
      cases item : (walk.poll source key state).item with
      | finished =>
          obtain ⟨pending, done⟩ :=
            poll_done_of_not_isRecord source (congrArg Item.isRecord item)
          rw [take_succ_of_finished item, take_succ_of_finished item]
          simp [take_of_done pending done]
      | record record =>
          rw [take_succ_of_result (.ok record) item, take_succ_of_result (.ok record) item]
          simp [ih]
      | failure error =>
          rw [take_succ_of_result (.error error) item, take_succ_of_result (.error error) item]
          simp [ih]

/-- Taking that is at the end changes nothing more. -/
theorem take_eq_of_le {count more : Nat} (le : count ≤ more)
    (pending : (walk.take source key count state).walk.pending = [])
    (done : (walk.take source key count state).walk.progress.done = true)
    : let earlier := walk.take source key count state
      let later := walk.take source key more state
      later.items = earlier.items ∧ later.state = earlier.state ∧ later.events = earlier.events := by
  obtain ⟨further, rfl⟩ := Nat.exists_eq_add_of_le le
  rw [take_add source key count further walk state]
  simp [take_of_done pending done]

/-- What is taken later of a source that keeps something up is related to what is taken now. -/
theorem take_state_of_le (related : σ → σ → Prop) (refl : ∀ state, related state state)
    (trans : ∀ {a b c}, related a b → related b c → related a c)
    (step : ∀ state request, related state (source state request).state)
    {count more : Nat} (le : count ≤ more)
    : related (walk.take source key count state).state (walk.take source key more state).state := by
  obtain ⟨further, rfl⟩ := Nat.exists_eq_add_of_le le
  rw [take_add source key count further walk state]
  exact take_keeps (fun now request before => trans before (step now request)) key further _
    (refl _)

------------------------------------------------------------------------------------------
-- Levels of events
------------------------------------------------------------------------------------------

/-- A walk reports details and warnings itself, and what its source reports, by the kinds of polls. -/
theorem level_of_mem_poll {event : Log.Event}
    (reported : event ∈ (walk.poll source key state).events)
    : event ∈ (source state walk.request).events
      ∨ event.level = .detail
      ∨ event.level = .warning := by
  cases pending : walk.pending with
  | cons record rest =>
      rw [poll_of_pending source pending] at reported
      cases reported
  | nil =>
      cases done : walk.progress.done with
      | true =>
          rw [poll_of_done source pending done] at reported
          cases reported
      | false =>
          rcases answer_cases (source state walk.request).answer with
            ⟨error, failed⟩ | empty | ⟨page, given⟩
          · rw [poll_of_failure source pending done failed] at reported
            refine (List.mem_append.mp reported).imp_right ?_
            intro own
            rw [List.mem_singleton.mp own]
            exact Or.inl rfl
          · rw [poll_of_empty source pending done empty] at reported
            refine (List.mem_append.mp reported).imp_right ?_
            intro own
            rw [List.mem_singleton.mp own]
            exact Or.inl rfl
          · rw [poll_of_page source page pending done given] at reported
            refine (List.mem_append.mp reported).imp_right ?_
            intro own
            rcases List.mem_append.mp own with stuck | fetched
            · split at stuck
              · cases stuck
              · rw [List.mem_singleton.mp stuck]
                exact Or.inr rfl
            · rw [List.mem_singleton.mp fetched]
              exact Or.inl rfl

/-- By way of a source that reports details alone nothing but details and warnings is reported. -/
theorem level_of_mem_take
    (quiet : ∀ state request, ∀ event ∈ (source state request).events, event.level = .detail)
    {count : Nat} {event : Log.Event}
    (reported : event ∈ (walk.take source key count state).events)
    : event.level = .detail ∨ event.level = .warning := by
  have polled : ∀ {walk : Walk ρ} {state : σ},
      event ∈ (walk.poll source key state).events
      → event.level = .detail ∨ event.level = .warning := by
    intro walk state reported
    rcases level_of_mem_poll reported with passed | own
    · exact Or.inl (quiet state walk.request event passed)
    · exact own
  induction count generalizing walk state with
  | zero => cases reported
  | succ count ih =>
      simp only [take] at reported
      split at reported
      · exact polled reported
      · exact (List.mem_append.mp reported).elim polled ih
      · exact (List.mem_append.mp reported).elim polled ih

------------------------------------------------------------------------------------------
-- Streams
------------------------------------------------------------------------------------------

/-- All that a walk gives: polls take the first items of it, and enough of them see the end. -/
structure Streams (source : Source σ ρ) (key : ρ → Snowflake) (walk : Walk ρ) (state : σ)
    (items : List (Except Error ρ))
    : Prop where
  taken : ∀ polls, (walk.take source key polls state).items = items.take polls
  ends : ∃ polls, (walk.take source key polls state).ended = true

theorem Streams.unique {items others : List (Except Error ρ)}
    (streams : walk.Streams source key state items)
    (otherStreams : walk.Streams source key state others)
    : items = others := by
  have same := (streams.taken (items.length + others.length)).symm.trans
    (otherStreams.taken (items.length + others.length))
  rwa [List.take_of_length_le (Nat.le_add_right _ _),
    List.take_of_length_le (Nat.le_add_left _ _)] at same

/-- What was taken when the end was seen is the stream, by induction on the polls. -/
theorem streams_of_ended {count : Nat}
    (ended : (walk.take source key count state).ended = true)
    : walk.Streams source key state (walk.take source key count state).items := by
  refine ⟨?_, count, ended⟩
  intro polls
  induction count generalizing polls walk state with
  | zero => cases ended
  | succ count ih =>
      cases polls with
      | zero => rfl
      | succ polls =>
          cases item : (walk.poll source key state).item with
          | finished =>
              rw [take_succ_of_finished item, take_succ_of_finished item]
              rfl
          | record record =>
              rw [take_succ_of_result (.ok record) item] at ended ⊢
              rw [take_succ_of_result (.ok record) item]
              exact congrArg _ (ih ended polls)
          | failure error =>
              rw [take_succ_of_result (.error error) item] at ended ⊢
              rw [take_succ_of_result (.error error) item]
              exact congrArg _ (ih ended polls)

/--
Where every page spends some of what the source has, draining sees the end before all requests
that this allows for are used up. By induction on these.
-/
theorem ended_drain_of_spends (left : σ → Nat)
    (spends : ∀ state request (page : Page ρ),
      (source state request).answer = page.answer
      → left (source state request).state < left state)
    {fetches : Nat} (enough : left state < fetches)
    : (walk.drain source key fetches state).ended = true := by
  induction fetches generalizing walk state with
  | zero => contradiction
  | succ fetches ih =>
      cases item : ({ walk with pending := [] }.poll source key state).item with
      | finished => rw [drain_succ_of_finished item]
      | failure error => rw [drain_succ_of_failure item]
      | record record =>
          obtain ⟨page, answer, next⟩ := exists_page_of_poll source rfl item
          rw [drain_succ_of_record item]
          refine ih ?_
          have spent := spends state _ page answer
          rw [next]
          omega

/-- The items of a walk that is drained to its end are its stream. -/
theorem streams_of_ended_drain {fetches : Nat}
    (ended : (walk.drain source key fetches state).ended = true)
    : let drained := walk.drain source key fetches state
      walk.Streams source key state drained.items
      ∧ drained = walk.take source key (drained.items.length + 1) state := by
  have taken := drain_eq_take source key fetches walk state
  dsimp only at taken ⊢
  rw [ended, Bool.toNat_true] at taken
  refine ⟨?_, taken⟩
  have seen := ended
  rw [taken] at seen
  have streams := streams_of_ended seen
  rwa [← taken] at streams

------------------------------------------------------------------------------------------
-- The course of a stream
------------------------------------------------------------------------------------------

/--
A stream is the records of some pages and the failure that ends them if there is one. While its
records last a walk is in the midst of pages, with each of its polls one record further; from then
on it is at its end.
-/
theorem Streams.course {paginator : Paginator} {origin : σ} {items : List (Except Error ρ)}
    (opened : open? paginator = .ok walk) (streams : walk.Streams source key origin items)
    : ∃ (records : List ρ) (ending : Ending),
        items = records.map .ok ++ ending.failures
        ∧ (∀ count,
            count ≤ records.length
            → ∃ pages given,
                given.length = count
                ∧ let taken := walk.take source.recorded key count (.fresh origin)
                  taken.walk.Midway source paginator key origin pages given taken.state)
        ∧ ∀ count,
            records.length < count
            → let taken := walk.take source key count origin
              taken.walk.pending = [] ∧ taken.walk.progress.done = true := by
  obtain ⟨polls, ended⟩ := streams.ends
  have unrecorded := fun count => take_recorded source key count walk (.fresh origin)
  have all := (streams_of_ended ended).unique streams
  rw [show walk.take source key polls origin = _ from unrecorded polls] at ended all
  rcases take_course source key origin opened polls with
    ⟨_, _, _, going, _⟩ | ⟨pages, ending, gave, _, _, past⟩
  · rw [going] at ended
    contradiction
  · refine ⟨pages.flatMap Page.records, ending, all.symm.trans gave, ?_, ?_⟩
    · intro count few
      rcases take_course source key origin opened count with
        ⟨others, given, _, _, length, midway⟩ | ⟨others, otherEnding, _, _, more, behind⟩
      · exact ⟨others, given, length, midway⟩
      · -- Behind an end there are no further pages.
        have bound := past.gives.length_le_of_ending behind.gives behind.ending
        omega
    · intro count many
      rcases take_course source key origin opened count with
        ⟨others, given, _, _, length, midway⟩ | ⟨others, otherEnding, _, _, _, behind⟩
      · have bound := midway.gives.length_le_of_ending past.gives past.ending
        have some_given := midway.length_given_le
        omega
      · rw [show walk.take source key count origin = _ from unrecorded count]
        exact ⟨behind.pending, behind.done⟩

end DiscordRest.Paging.Walk
