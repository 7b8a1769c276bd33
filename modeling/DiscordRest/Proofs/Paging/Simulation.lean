import DiscordRest.Proofs.Paging.Run

/-!
Sources that stand for each other. Where two sources answer alike, whatever their states are made
of, a walk gives the same by way of either.
-/

namespace DiscordRest.Paging

variable {σ τ ρ : Type}

/--
Two sources agree on related states: they give the same answers, which lead to related states.
-/
def Source.Agree (related : σ → τ → Prop) (source : Source σ ρ) (other : Source τ ρ) : Prop :=
  ∀ state otherState request,
    related state otherState
    → (source state request).answer = (other otherState request).answer
      ∧ related (source state request).state (other otherState request).state

namespace Walk

variable {related : σ → τ → Prop} {source : Source σ ρ} {other : Source τ ρ}
variable {state : σ} {otherState : τ}

/-- A poll gives the same by way of sources that agree, by the kinds of polls. -/
theorem poll_of_agree (agree : Source.Agree related source other)
    (start : related state otherState) (key : ρ → Snowflake) (walk : Walk ρ)
    : let polled := walk.poll source key state
      let otherPolled := walk.poll other key otherState
      polled.item = otherPolled.item
      ∧ polled.walk = otherPolled.walk
      ∧ related polled.state otherPolled.state := by
  cases pending : walk.pending with
  | cons record rest =>
      rw [poll_of_pending source pending, poll_of_pending other pending]
      exact ⟨rfl, rfl, start⟩
  | nil =>
      cases done : walk.progress.done with
      | true =>
          rw [poll_of_done source pending done, poll_of_done other pending done]
          exact ⟨rfl, rfl, start⟩
      | false =>
          obtain ⟨same, next⟩ := agree state otherState walk.request start
          rcases answer_cases (other otherState walk.request).answer with
            ⟨error, failed⟩ | empty | ⟨page, given⟩
          · rw [poll_of_failure source pending done (same.trans failed),
              poll_of_failure other pending done failed]
            exact ⟨rfl, rfl, next⟩
          · rw [poll_of_empty source pending done (same.trans empty),
              poll_of_empty other pending done empty]
            exact ⟨rfl, rfl, next⟩
          · rw [poll_of_page source page pending done (same.trans given),
              poll_of_page other page pending done given]
            exact ⟨rfl, rfl, next⟩

/-- A run gives the same by way of sources that agree, by induction on the number of polls. -/
theorem run_of_agree (agree : Source.Agree related source other)
    (start : related state otherState) (key : ρ → Snowflake) (count : Nat) (walk : Walk ρ)
    : let run := walk.run source key count state
      let otherRun := walk.run other key count otherState
      run.items = otherRun.items
      ∧ run.walk = otherRun.walk
      ∧ related run.state otherRun.state := by
  induction count generalizing walk state otherState with
  | zero => exact ⟨rfl, rfl, start⟩
  | succ count ih =>
      obtain ⟨item, same, next⟩ := poll_of_agree agree start key walk
      obtain ⟨items, walks, last⟩ := ih next (walk.poll source key state).walk
      rw [same] at items walks last
      simp only [run, item, same]
      exact ⟨congrArg _ items, walks, last⟩

end Walk

end DiscordRest.Paging
