import DiscordRest.Proofs.Paging.Consumption
import DiscordRest.Proofs.Paging.Simulation

/-!
Sources that echo each other. Where two sources answer alike and report the same, what is taken by
way of either is the same, with the same reports.
-/

namespace DiscordRest.Paging

variable {σ τ ρ : Type} {related : σ → τ → Prop}

/-- Two sources agree on related states, and report the same. -/
structure Source.Echo (related : σ → τ → Prop) (source : Source σ ρ) (other : Source τ ρ)
    : Prop where
  agree : Source.Agree related source other
  events
    : ∀ state otherState request,
        related state otherState
        → (source state request).events = (other otherState request).events

namespace Walk

/-- What was taken over two sources is the same but for their states, which are related. -/
structure Taken.Alike (related : σ → τ → Prop) (taken : Taken σ ρ) (other : Taken τ ρ)
    : Prop where
  items : taken.items = other.items
  events : taken.events = other.events
  state : related taken.state other.state

variable {source : Source σ ρ} {other : Source τ ρ} {state : σ} {otherState : τ}

/-- A poll reports the same by way of sources that echo each other, by the kinds of polls. -/
theorem events_poll_of_echo (echo : Source.Echo related source other)
    (start : related state otherState) (key : ρ → Snowflake) (walk : Walk ρ)
    : (walk.poll source key state).events = (walk.poll other key otherState).events := by
  cases pending : walk.pending with
  | cons record rest => rw [poll_of_pending source pending, poll_of_pending other pending]
  | nil =>
      cases done : walk.progress.done with
      | true => rw [poll_of_done source pending done, poll_of_done other pending done]
      | false =>
          have answers := (echo.agree state otherState walk.request start).1
          have reports := echo.events state otherState walk.request start
          rcases answer_cases (other otherState walk.request).answer with
            ⟨error, failed⟩ | empty | ⟨page, given⟩
          · rw [poll_of_failure source pending done (answers.trans failed),
              poll_of_failure other pending done failed, reports]
          · rw [poll_of_empty source pending done (answers.trans empty),
              poll_of_empty other pending done empty, reports]
          · rw [poll_of_page source page pending done (answers.trans given),
              poll_of_page other page pending done given, reports]

/-- The same is taken by way of sources that echo each other, by induction on the polls. -/
theorem take_of_echo (echo : Source.Echo related source other)
    (start : related state otherState) (key : ρ → Snowflake) (count : Nat) (walk : Walk ρ)
    : Taken.Alike related (walk.take source key count state)
        (walk.take other key count otherState) := by
  induction count generalizing walk state otherState with
  | zero => exact ⟨rfl, rfl, start⟩
  | succ count ih =>
      obtain ⟨item, walks, next⟩ := poll_of_agree echo.agree start key walk
      have events := events_poll_of_echo echo start key walk
      have later := ih next (walk.poll source key state).walk
      rw [walks] at later
      cases given : (walk.poll other key otherState).item with
      | finished =>
          rw [take_succ_of_finished (item.trans given), take_succ_of_finished given]
          exact ⟨rfl, events, next⟩
      | record record =>
          rw [take_succ_of_result (.ok record) (item.trans given),
            take_succ_of_result (.ok record) given]
          dsimp only
          rw [walks, later.items, later.events, events]
          exact ⟨rfl, rfl, later.state⟩
      | failure error =>
          rw [take_succ_of_result (.error error) (item.trans given),
            take_succ_of_result (.error error) given]
          dsimp only
          rw [walks, later.items, later.events, events]
          exact ⟨rfl, rfl, later.state⟩

/-- A walk drains to the same by way of sources that echo each other, by induction on the requests. -/
theorem drain_of_echo (echo : Source.Echo related source other)
    (start : related state otherState) (key : ρ → Snowflake) (fetches : Nat) (walk : Walk ρ)
    : Taken.Alike related (walk.drain source key fetches state)
        (walk.drain other key fetches otherState) := by
  induction fetches generalizing walk state otherState with
  | zero => exact ⟨rfl, rfl, start⟩
  | succ fetches ih =>
      obtain ⟨item, walks, next⟩ := poll_of_agree echo.agree start key { walk with pending := [] }
      have events := events_poll_of_echo echo start key { walk with pending := [] }
      have later := ih next ({ walk with pending := [] }.poll source key state).walk
      rw [walks] at later
      cases given : ({ walk with pending := [] }.poll other key otherState).item with
      | finished =>
          rw [drain_succ_of_finished (item.trans given), drain_succ_of_finished given]
          exact ⟨rfl, events, next⟩
      | failure error =>
          rw [drain_succ_of_failure (item.trans given), drain_succ_of_failure given]
          exact ⟨rfl, events, next⟩
      | record record =>
          rw [drain_succ_of_record (item.trans given), drain_succ_of_record given]
          dsimp only
          rw [walks, later.items, later.events, events]
          exact ⟨rfl, rfl, later.state⟩

end Walk

end DiscordRest.Paging
