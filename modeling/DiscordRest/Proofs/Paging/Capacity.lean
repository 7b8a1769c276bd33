import DiscordRest.Proofs.Paging.Reports

/-!
The capacity of the counters of a walk. A program that checks its sums does the same as one that
does not, with exact counters, as long as they have room for all that was received; it stops at the
first page for which they have none.
-/

namespace DiscordRest.Paging

variable {σ ρ : Type}

------------------------------------------------------------------------------------------
-- What was received
------------------------------------------------------------------------------------------

/-- The pages among some answers, those without records included. -/
def received (answers : List (Except Error (List ρ))) : List (List ρ) :=
  answers.filterMap Except.toOption

/-- How many records some pages hold. -/
def recordCount (pages : List (List ρ)) : Nat :=
  pages.flatten.length

/-- Whether 32 bits hold the number of the pages that were received, and 64 bits that of records. -/
def Fits (answers : List (Except Error (List ρ))) : Prop :=
  (received answers).length < UInt32.size ∧ recordCount (received answers) < UInt64.size

instance (answers : List (Except Error (List ρ))) : Decidable (Fits answers) :=
  inferInstanceAs (Decidable (_ ∧ _))

section

variable (answers : List (Except Error (List ρ)))

theorem received_failure (error : Error)
    : received (answers ++ [.error error]) = received answers := by
  simp [received, Except.toOption]

theorem received_page (records : List ρ)
    : received (answers ++ [.ok records]) = received answers ++ [records] := by
  simp [received, Except.toOption]

theorem recordCount_append_singleton (pages : List (List ρ)) (records : List ρ)
    : recordCount (pages ++ [records]) = recordCount pages + records.length := by
  simp [recordCount]

end

/-- Where there is room for some answers, there was room for the first of them. -/
theorem Fits.of_isPrefix {answers more : List (Except Error (List ρ))} (fits : Fits more)
    (earlier : answers <+: more)
    : Fits answers := by
  obtain ⟨later, rfl⟩ := earlier
  obtain ⟨pages, records⟩ := fits
  rw [received, List.filterMap_append] at pages records
  rw [List.length_append] at pages
  rw [recordCount, List.flatten_append, List.length_append] at records
  exact ⟨Nat.lt_of_add_right_lt pages, Nat.lt_of_add_right_lt records⟩

------------------------------------------------------------------------------------------
-- Exact counters
------------------------------------------------------------------------------------------

namespace Progress

theorem toNat_pages_addPage (progress : Progress) (count : Nat)
    : (progress.addPage count).pages.toNat = (progress.pages.toNat + 1) % UInt32.size :=
  UInt32.toNat_add ..

theorem toNat_records_addPage (progress : Progress) (count : Nat)
    : (progress.addPage count).records.toNat
      = (progress.records.toNat + count) % UInt64.size := by
  rw [addPage, UInt64.toNat_add, UInt64.toNat_ofNat', Nat.add_mod_mod]

/-- The counters hold how many pages and records were received. -/
structure Exact (answers : List (Except Error (List ρ))) (progress : Progress) : Prop where
  pages : progress.pages.toNat = (received answers).length
  records : progress.records.toNat = recordCount (received answers)

variable {answers : List (Except Error (List ρ))} {progress : Progress}

theorem Exact.fits (exact : progress.Exact answers) : Fits answers :=
  ⟨exact.pages ▸ progress.pages.toNat_lt, exact.records ▸ progress.records.toNat_lt⟩

/-- A page that is counted with checks is one for which there is room. -/
theorem Exact.addPage?_eq (exact : progress.Exact answers) (records : List ρ)
    : progress.addPage? records.length
      = if Fits (answers ++ [.ok records]) then some (progress.addPage records.length)
        else none := by
  simp only [addPage?, Fits, received_page, recordCount_append_singleton, List.length_append,
    List.length_singleton, exact.pages, exact.records]

example : ((startingAt .zero).addPage? 18446744073709551615).bind
      (fun later => later.addPage? 18446744073709551615)
    = none := by decide

/-- A page for which there is room leaves the counters exact. -/
theorem Exact.addPage (exact : progress.Exact answers) {records : List ρ}
    (fits : Fits (answers ++ [.ok records]))
    : (progress.addPage records.length).Exact (answers ++ [.ok records]) := by
  obtain ⟨pages, all⟩ := fits
  rw [received_page] at pages all
  rw [List.length_append, List.length_singleton, ← exact.pages] at pages
  rw [recordCount_append_singleton, ← exact.records] at all
  constructor
  · rw [received_page, List.length_append, List.length_singleton, ← exact.pages,
      toNat_pages_addPage, Nat.mod_eq_of_lt pages]
  · rw [received_page, recordCount_append_singleton, ← exact.records, toNat_records_addPage,
      Nat.mod_eq_of_lt all]

/-- An answer without a page leaves the counters as they are. -/
theorem Exact.next_of_error (exact : progress.Exact answers) (key : ρ → Snowflake)
    (exchange : Exchange ρ) {error : Error} (failed : exchange.answer = .error error)
    : (progress.next key exchange).Exact (answers ++ [exchange.answer]) := by
  simp only [Progress.next, failed]
  exact ⟨by rw [received_failure, ← exact.pages]; rfl,
    by rw [received_failure, ← exact.records]; rfl⟩

/-- A page for which there is room is counted exactly, be it empty or not. -/
theorem Exact.next_of_ok (exact : progress.Exact answers) (key : ρ → Snowflake)
    (exchange : Exchange ρ) {records : List ρ} (given : exchange.answer = .ok records)
    (fits : Fits (answers ++ [exchange.answer]))
    : (progress.next key exchange).Exact (answers ++ [exchange.answer]) := by
  rw [given] at fits ⊢
  obtain ⟨pages, all⟩ := exact.addPage fits
  simp only [Progress.next, given]
  cases records with
  | nil => exact ⟨pages, all⟩
  | cons first rest =>
      rw [List.getLast?_cons]
      exact ⟨pages, all⟩

end Progress

------------------------------------------------------------------------------------------
-- Polls with checked sums
------------------------------------------------------------------------------------------

namespace Walk

variable {source : Source σ ρ} {key : ρ → Snowflake} {walk : Walk ρ} {state : Recorded σ ρ}

/--
What checked sums make of a poll: it does the same where there is room for all that was received by
then, with exact counters, and it stops elsewhere.
-/
structure Checked (source : Source σ ρ) (key : ρ → Snowflake) (walk : Walk ρ)
    (state : Recorded σ ρ) (polled : Polled (Recorded σ ρ) ρ)
    : Prop where
  same
    : walk.poll? source.recorded key state
      = if Fits polled.state.answers then some polled else none
  exact : Fits polled.state.answers → polled.walk.progress.Exact polled.state.answers

/-- A poll that receives no page and leaves the counters exact is the same with checked sums. -/
theorem checked_of_receives_none (nothing : walk.receives? source.recorded state = none)
    (exact : (walk.poll source.recorded key state).walk.progress.Exact
      (walk.poll source.recorded key state).state.answers)
    : Checked source key walk state (walk.poll source.recorded key state) where
  same := by
    rw [if_pos exact.fits, poll?, nothing]
  exact := fun _ => exact

/-- A poll that asks the source is checked, by the kinds of answers. -/
theorem checked_of_going (pending : walk.pending = []) (going : walk.progress.done = false)
    (exact : walk.progress.Exact state.answers)
    : Checked source key walk state (walk.poll source.recorded key state) := by
  obtain ⟨progress, served, _⟩ := poll_of_going source key walk state pending going
  have answers : (walk.poll source.recorded key state).state.answers
      = state.answers ++ [(source state.state walk.request).answer] := by
    rw [served]
    exact source.answers_recorded state walk.request
  have receives : walk.receives? source.recorded state
      = (source state.state walk.request).answer.toOption.map List.length := by
    rw [receives?, pending, going]
    rfl
  cases given : (source state.state walk.request).answer with
  | error error =>
      rw [given] at receives
      refine checked_of_receives_none receives ?_
      rw [answers, progress]
      exact exact.next_of_error key ⟨walk.request, _⟩ given
  | ok records =>
      rw [given] at receives answers
      constructor
      · rw [poll?, receives, answers]
        simp only [Except.toOption, Option.map_some, exact.addPage?_eq]
        split <;> rfl
      · rw [answers, progress, ← given]
        exact exact.next_of_ok key ⟨walk.request, _⟩ given

/-- From exact counters every poll is checked, by the kinds of polls. -/
theorem checked_poll (source : Source σ ρ) (key : ρ → Snowflake)
    (exact : walk.progress.Exact state.answers)
    : Checked source key walk state (walk.poll source.recorded key state) := by
  cases pending : walk.pending with
  | cons record rest =>
      refine checked_of_receives_none (by simp [receives?, pending]) ?_
      rw [poll_of_pending source.recorded pending]
      exact exact
  | nil =>
      cases done : walk.progress.done with
      | true =>
          refine checked_of_receives_none (by simp [receives?, done]) ?_
          rw [poll_of_done source.recorded pending done]
          exact exact
      | false => exact checked_of_going pending done exact

------------------------------------------------------------------------------------------
-- Runs with checked sums
------------------------------------------------------------------------------------------

/-- Polls a walk `count` times with checked sums; none if it stops at one of the polls. -/
def run? (source : Source σ ρ) (key : ρ → Snowflake) : Nat → Walk ρ → σ → Option (Run σ ρ)
  | 0, walk, state => some ⟨[], walk, state, []⟩
  | count + 1, walk, state => do
    let polled ← walk.poll? source key state
    let rest ← run? source key count polled.walk polled.state
    return { rest with
      items := polled.item :: rest.items
      events := polled.events ++ rest.events }

/-- A run only adds to the answers of its source. -/
theorem isPrefix_answers_run (source : Source σ ρ) (key : ρ → Snowflake) (count : Nat)
    (walk : Walk ρ) (state : Recorded σ ρ)
    : state.answers <+: (walk.run source.recorded key count state).state.answers := by
  have keeps : ∀ (later : Recorded σ ρ) request, state.answers <+: later.answers
      → state.answers <+: (source.recorded later request).state.answers := by
    intro later request earlier
    rw [source.answers_recorded]
    exact earlier.trans (List.prefix_append _ _)
  exact run_keeps source.recorded keeps key count walk (List.prefix_refl _)

/--
From exact counters a run with checked sums is the same run where there is room for all that it
receives, and stops elsewhere, by induction on its polls.
-/
theorem run?_eq (source : Source σ ρ) (key : ρ → Snowflake) (count : Nat)
    (exact : walk.progress.Exact state.answers)
    : let run := walk.run source.recorded key count state
      walk.run? source.recorded key count state
        = if Fits run.state.answers then some run else none := by
  induction count generalizing walk state with
  | zero => exact (if_pos exact.fits).symm
  | succ count ih =>
      have checked := checked_poll source key exact
      have later := isPrefix_answers_run source key count
        (walk.poll source.recorded key state).walk (walk.poll source.recorded key state).state
      intro run
      split
      · rename_i room
        have fits := room.of_isPrefix later
        rw [run?, checked.same, if_pos fits, Option.bind_eq_bind, Option.bind_some,
          ih (checked.exact fits)]
        exact congrArg (Option.bind · _) (if_pos room)
      · rename_i full
        rw [run?, checked.same]
        split
        · rename_i fits
          rw [Option.bind_eq_bind, Option.bind_some, ih (checked.exact fits)]
          exact congrArg (Option.bind · _) (if_neg full)
        · rfl

end Walk

end DiscordRest.Paging
