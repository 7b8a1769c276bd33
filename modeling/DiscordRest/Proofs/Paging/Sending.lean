import DiscordRest.Proofs.Http.Single
import DiscordRest.Proofs.Paging.Stream

/-!
What walks send over a network without redirects. Every request of a walk asks for a page of its
paginator, the first one for the page at the walk's cursor; a walk that sends nothing fails.
-/

namespace DiscordRest.Paging

open Http

variable {ρ : Type} {source : Source Network ρ} {asks : PageRequest → Request → Prop}
variable {goes : Network → PageRequest → Prop} {key : ρ → Snowflake} {network : Network}

/-- Every call of a source over a network without redirects sends the request for its page. -/
def Source.Calls (source : Source Network ρ) (asks : PageRequest → Request → Prop)
    (goes : Network → PageRequest → Prop) : Prop :=
  ∀ network page,
    network.StaysPut
    → ∃ sent, SendsOne network (asks page) (goes network page) (source network page) sent

namespace Walk

/-- The next poll of a walk asks for no page: a record is pending, or the walk is at its end. -/
def Rests (walk : Walk ρ) : Prop :=
  walk.pending ≠ [] ∨ walk.progress.done = true

/--
What a poll of a walk sends. One that sends nothing though the walk does not rest is a failure.
-/
structure PollSends (asks : PageRequest → Request → Prop) (goes : Network → PageRequest → Prop)
    (walk : Walk ρ) (network : Network) (polled : Polled Network ρ) (sent : Option Request)
    : Prop where
  received : polled.state.received = network.received ++ sent.toList
  asked : ∀ request ∈ sent, asks walk.request request
  goes : ¬walk.Rests → (sent ≠ none ↔ goes network walk.request)
  stays : polled.state.StaysPut
  paginator : polled.walk.paginator = walk.paginator
  unsent
    : sent = none
      → walk.Rests ∧ polled.walk.request = walk.request
        ∨ ∃ error, polled.item = .failure error

/-- A poll sends what one call of the source sends, or nothing, by the kinds of polls. -/
theorem exists_pollSends (calls : source.Calls asks goes) (key : ρ → Snowflake) (walk : Walk ρ)
    (stays : network.StaysPut)
    : ∃ sent, PollSends asks goes walk network (walk.poll source key network) sent := by
  cases pending : walk.pending with
  | cons record rest =>
      have rests : walk.Rests := Or.inl (by simp [pending])
      rw [poll_of_pending source pending]
      exact ⟨none, by simp, by simp, absurd rests, stays, rfl, fun _ => Or.inl ⟨rests, rfl⟩⟩
  | nil =>
      cases done : walk.progress.done with
      | true =>
          have rests : walk.Rests := Or.inr done
          rw [poll_of_done source pending done]
          exact ⟨none, by simp, by simp, absurd rests, stays, rfl, fun _ => Or.inl ⟨rests, rfl⟩⟩
      | false =>
          obtain ⟨sent, received, asked, goes, failed, later⟩ := calls network walk.request stays
          have answered
              : ∀ page, (source network walk.request).answer = .ok page → sent ≠ none := by
            intro page given unsent
            obtain ⟨error, other⟩ := failed unsent
            cases given.symm.trans other
          refine ⟨sent, ?_⟩
          rcases answer_cases (source network walk.request).answer with
            ⟨error, given⟩ | given | ⟨page, given⟩
          · rw [poll_of_failure source pending done given]
            exact ⟨received, asked, fun _ => goes, later, rfl, fun _ => Or.inr ⟨error, rfl⟩⟩
          · rw [poll_of_empty source pending done given]
            exact ⟨received, asked, fun _ => goes, later, rfl, fun unsent =>
              absurd unsent (answered _ given)⟩
          · rw [poll_of_page source page pending done given]
            exact ⟨received, asked, fun _ => goes, later, rfl, fun unsent =>
              absurd unsent (answered _ given)⟩

/-- What a walk sends between two networks. -/
structure Sends (asks : PageRequest → Request → Prop) (walk : Walk ρ) (network after : Network)
    (sent : List Request)
    : Prop where
  received : after.received = network.received ++ sent
  paged : ∀ request ∈ sent, ∃ cursor, asks (walk.paginator.request cursor) request
  first : ∀ request, sent.head? = some request → asks walk.request request

namespace Sends

theorem nil (walk : Walk ρ) (network : Network) : Sends asks walk network network [] :=
  ⟨by simp, by simp, by simp⟩

/-- What is sent by one poll and by what follows it. -/
theorem ofPoll {walk : Walk ρ} {polled : Polled Network ρ} {sent : Option Request}
    {after : Network} {more : List Request} (poll : PollSends asks goes walk network polled sent)
    (rest : Sends asks polled.walk polled.state after more)
    (ends : ∀ error, polled.item = .failure error → more = [])
    : Sends asks walk network after (sent.toList ++ more) where
  received := by rw [rest.received, poll.received, List.append_assoc]
  paged := by
    intro request member
    rcases List.mem_append.mp member with now | later
    · exact ⟨walk.progress.cursor, poll.asked request (Option.mem_toList.mp now)⟩
    · rw [← poll.paginator]
      exact rest.paged request later
  first := by
    intro request isFirst
    cases sent with
    | some own => exact poll.asked request isFirst
    | none =>
        rcases poll.unsent rfl with ⟨-, same⟩ | ⟨error, failed⟩
        · rw [← same]
          exact rest.first request isFirst
        · rw [ends error failed] at isFirst
          cases isFirst

/-- Behind a failure the walk is at its end, and sends nothing more. -/
theorem eq_nil_of_failure {walk : Walk ρ} {left : Nat} {more : List Request}
    (rest : let polled := walk.poll source key network
      let taken := polled.walk.take source key left polled.state
      Sends asks polled.walk polled.state taken.state more)
    {error : Error} (failed : (walk.poll source key network).item = .failure error)
    : more = [] := by
  obtain ⟨pending, done⟩ := poll_done_of_not_isRecord source (congrArg Item.isRecord failed)
  have received := rest.received
  rw [take_of_done pending done] at received
  exact List.append_right_eq_self.mp received.symm

end Sends

/-- Behind one poll there are as many left as were to be taken, or none at the end. -/
theorem exists_state_take_succ (source : Source Network ρ) (key : ρ → Snowflake) (count : Nat)
    (walk : Walk ρ) (network : Network)
    : ∃ left ≤ count,
        let polled := walk.poll source key network
        (walk.take source key (count + 1) network).state
          = (polled.walk.take source key left polled.state).state := by
  cases item : (walk.poll source key network).item with
  | finished => exact ⟨0, Nat.zero_le count, by rw [take_succ_of_finished item]; rfl⟩
  | record record =>
      exact ⟨count, Nat.le_refl count, by rw [take_succ_of_result (.ok record) item]⟩
  | failure error =>
      exact ⟨count, Nat.le_refl count, by rw [take_succ_of_result (.error error) item]⟩

/-- All that a walk sends asks for pages of its paginator, by induction on the polls. -/
theorem exists_sends (calls : source.Calls asks goes) (key : ρ → Snowflake) (count : Nat)
    (walk : Walk ρ) (stays : network.StaysPut)
    : ∃ sent, Sends asks walk network (walk.take source key count network).state sent := by
  induction count using Nat.strongRecOn generalizing walk network with
  | ind count ih =>
      cases count with
      | zero => exact ⟨[], .nil walk network⟩
      | succ count =>
          obtain ⟨sent, poll⟩ := exists_pollSends calls key walk stays
          obtain ⟨left, few, state⟩ := exists_state_take_succ source key count walk network
          obtain ⟨more, rest⟩ := ih left (Nat.lt_succ_of_le few) _ poll.stays
          rw [state]
          exact ⟨_, .ofPoll poll rest fun _ failed => rest.eq_nil_of_failure failed⟩

/--
A walk that does not rest sends something exactly where the request for its page goes out, and
fails at once if it sends nothing.
-/
theorem exists_sends_of_moves (calls : source.Calls asks goes) (stays : network.StaysPut)
    (key : ρ → Snowflake) {walk : Walk ρ} (moves : ¬walk.Rests) (count : Nat)
    : let taken := walk.take source key (count + 1) network
      ∃ sent,
        Sends asks walk network taken.state sent
        ∧ (sent ≠ [] ↔ goes network walk.request)
        ∧ (sent = [] → ∃ error, taken.items = [.error error]) := by
  intro taken
  obtain ⟨sent, poll⟩ := exists_pollSends calls key walk stays
  obtain ⟨left, -, state⟩ := exists_state_take_succ source key count walk network
  obtain ⟨more, rest⟩ := exists_sends calls key left _ poll.stays
  have sends : Sends asks walk network taken.state (sent.toList ++ more) := by
    rw [show taken.state = _ from state]
    exact .ofPoll poll rest fun _ failed => rest.eq_nil_of_failure failed
  have fails : sent = none → ∃ error, (walk.poll source key network).item = .failure error :=
    fun unsent => (poll.unsent unsent).resolve_left fun rests => moves rests.1
  refine ⟨_, sends, ?_, ?_⟩
  · rw [← poll.goes moves]
    cases sent with
    | some request => simp
    | none =>
        obtain ⟨error, failed⟩ := fails rfl
        simp [rest.eq_nil_of_failure failed]
  · intro nothing
    have unsent : sent = none := Option.toList_eq_nil_iff.mp (List.append_eq_nil_iff.mp nothing).1
    obtain ⟨error, failed⟩ := fails unsent
    obtain ⟨pending, done⟩ := poll_done_of_not_isRecord source (congrArg Item.isRecord failed)
    refine ⟨error, ?_⟩
    rw [show taken = _ from take_succ_of_result (.error error) failed]
    dsimp only
    rw [take_of_done pending done]

end Walk

end DiscordRest.Paging
