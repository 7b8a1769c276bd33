import Mathlib.Data.List.Chain
import DiscordRest.Proofs.Http.Traffic

/-!
The requests that are received when one is sent and its redirects are followed. Each of them takes
one answer of the network, and all but the last one got a redirect to the next.
-/

namespace DiscordRest.Http

------------------------------------------------------------------------------------------
-- Hops
------------------------------------------------------------------------------------------

/-- A request that was received, and its answer; none if the connection was closed without one. -/
structure Hop where
  request : Request
  answer : Option Response

namespace Hop

/-- The answer of a hop is a redirect that is followed with a request. -/
def LeadsTo (hop : Hop) (next : Request) : Prop :=
  ∃ response target,
    hop.answer = some response
    ∧ response.target? hop.request.url = some target
    ∧ Request.isFetchable target = true
    ∧ next = hop.request.redirected response.status target

end Hop

namespace Network

variable {network : Network} {request : Request}

/-- What becomes of a request that gets through. -/
def hop (network : Network) (request : Request) : Hop :=
  ⟨request, network.next.map (fit request.method)⟩

theorem next_eq (network : Network)
    : network.next = network.answers[0]?.getD (some .exhausted) := by
  obtain ⟨_, answers, _⟩ := network
  cases answers <;> rfl

/-- A redirect is followed unless there were too many, or its target is not for the network. -/
theorem exchange_of_target? {response : Response} {target : Url}
    (reached : network.reaches request.url = true) (given : network.next = some response)
    (moved : (fit request.method response).target? request.url = some target) (limit : Nat)
    : network.exchange limit request
      = match limit with
        | 0 => (network.after request, .error (.tooManyRedirects request.url))
        | fewer + 1 =>
          if Request.isFetchable target then
            (network.after request).exchange fewer
              (request.redirected (fit request.method response).status target)
          else (network.after request, .error (.invalidRequest (some target))) := by
  rw [exchange, send_of_reaches reached, given]
  simp only [Option.map_some, moved]
  cases limit <;> rfl

------------------------------------------------------------------------------------------
-- Chains of hops
------------------------------------------------------------------------------------------

/-- How an exchange ends behind some hops. -/
inductive Ends (limit : Nat) (network : Network) (request : Request)
    : List Hop → Except Failure Response → Prop
  | unreached (failure : Failure) (closed : network.reaches request.url = false)
    : Ends limit network request [] (.error failure)
  | silent (before : List Hop) (hop : Hop) (failure : Failure) (none_came : hop.answer = none)
    : Ends limit network request (before ++ [hop]) (.error failure)
  | answered (before : List Hop) (hop : Hop) (response : Response)
    (answer : hop.answer = some response)
    (stays : response.target? hop.request.url = none)
    : Ends limit network request (before ++ [hop]) (.ok response)
  /-- There were too many redirects, or the last one leads to a place that is not reached. -/
  | lost (before : List Hop) (hop : Hop) (response : Response) (target : Url) (failure : Failure)
    (answer : hop.answer = some response)
    (moved : response.target? hop.request.url = some target)
    (reason : before.length = limit
      ∨ Request.isFetchable target = false
      ∨ network.reaches target = false)
    : Ends limit network request (before ++ [hop]) (.error failure)

/-- Behind a hop that leads on, an exchange ends as the rest of it does, by its kinds of ends. -/
theorem Ends.cons {limit : Nat} {next : Request} {hops : List Hop}
    {result : Except Failure Response} (leads : (network.hop request).LeadsTo next)
    (ends : Ends limit (network.after request) next hops result)
    : Ends (limit + 1) network request (network.hop request :: hops) result := by
  obtain ⟨response, target, answer, moved, _, rfl⟩ := leads
  cases ends with
  | unreached failure closed =>
      exact .lost [] _ response target failure answer moved (Or.inr (Or.inr closed))
  | silent before hop failure none_came =>
      exact .silent (_ :: before) hop failure none_came
  | answered before hop last answer stays =>
      exact .answered (_ :: before) hop last answer stays
  | lost before hop last target failure answer moved reason =>
      exact .lost (_ :: before) hop last target failure answer moved
        (reason.imp_left (congrArg Nat.succ))

/-- The last answer is what an exchange gives, or a redirect that it may not follow or cannot. -/
theorem Ends.last_cases {limit : Nat} {hops : List Hop} {result : Except Failure Response}
    (ends : Ends limit network request hops result) {last : Hop} {response : Response}
    (isLast : hops.getLast? = some last) (given : last.answer = some response)
    : (response.target? last.request.url = none ∧ result = .ok response)
      ∨ ∃ target,
          response.target? last.request.url = some target
          ∧ (hops.length = limit + 1
            ∨ Request.isFetchable target = false
            ∨ network.reaches target = false) := by
  cases ends with
  | unreached => contradiction
  | silent before hop failure none_came =>
      obtain rfl : hop = last := by simpa using isLast
      rw [none_came] at given
      contradiction
  | answered before hop found answer stays =>
      obtain rfl : hop = last := by simpa using isLast
      obtain rfl := Option.some.inj (answer.symm.trans given)
      exact Or.inl ⟨stays, rfl⟩
  | lost before hop found target failure answer moved reason =>
      obtain rfl : hop = last := by simpa using isLast
      obtain rfl := Option.some.inj (answer.symm.trans given)
      exact Or.inr ⟨target, moved, reason.imp_left (by simp)⟩

/-- An answer that sends nowhere is what an exchange gives if it came last. -/
theorem Ends.eq_ok {limit : Nat} {hops : List Hop} {result : Except Failure Response}
    (ends : Ends limit network request hops result) {last : Hop} {response : Response}
    (isLast : hops.getLast? = some last) (given : last.answer = some response)
    (stays : response.target? last.request.url = none)
    : result = .ok response := by
  rcases ends.last_cases isLast given with ⟨_, same⟩ | ⟨target, moved, _⟩
  · exact same
  · rw [moved] at stays
    contradiction

/-- An exchange stops at a redirect only if it may not follow it any more, or cannot. -/
theorem Ends.stops {limit : Nat} {hops : List Hop} {result : Except Failure Response}
    (ends : Ends limit network request hops result) {last : Hop} {response : Response}
    {target : Url} (isLast : hops.getLast? = some last) (given : last.answer = some response)
    (moved : response.target? last.request.url = some target)
    : hops.length = limit + 1
      ∨ Request.isFetchable target = false
      ∨ network.reaches target = false := by
  rcases ends.last_cases isLast given with ⟨stays, _⟩ | ⟨place, same, reason⟩
  · rw [stays] at moved
    contradiction
  · obtain rfl := Option.some.inj (same.symm.trans moved)
    exact reason

/-- Without an answer that sends nowhere at its end an exchange fails. -/
theorem Ends.exists_failure {limit : Nat} {hops : List Hop} {result : Except Failure Response}
    (ends : Ends limit network request hops result)
    (leads : ∀ last response,
      hops.getLast? = some last
      → last.answer = some response
      → ∃ target, response.target? last.request.url = some target)
    : ∃ failure, result = .error failure := by
  cases ends with
  | unreached failure => exact ⟨failure, rfl⟩
  | silent before hop failure => exact ⟨failure, rfl⟩
  | lost before hop response target failure => exact ⟨failure, rfl⟩
  | answered before hop response answer stays =>
      obtain ⟨target, moved⟩ := leads hop response List.getLast?_concat answer
      rw [moved] at stays
      contradiction

/-- The hops of a request of which at most `limit` redirects are followed. -/
structure Chain (limit : Nat) (network : Network) (request : Request) (hops : List Hop)
    (sent : Network × Except Failure Response)
    : Prop where
  few : hops.length ≤ limit + 1
  first
    : ∀ start,
        hops.head?.map Hop.request = some start
        ↔ start = request ∧ network.reaches request.url = true
  links : hops.IsChain fun hop next => hop.LeadsTo next.request
  /-- The hops take the answers of the network one by one. -/
  answers
    : ∀ (index : Nat) (hop : Hop),
        hops[index]? = some hop
        → hop.answer
          = (network.answers[index]?.getD (some .exhausted)).map (fit hop.request.method)
  state
    : sent.1
      = ⟨network.connected, network.answers.drop hops.length,
          network.received ++ hops.map Hop.request⟩
  ends : Ends limit network request hops sent.2

namespace Chain

variable {limit : Nat} {sent : Network × Except Failure Response} {hops : List Hop}

/-- A request that does not get through leaves the network alone. -/
theorem unreached (closed : network.reaches request.url = false) (failure : Failure)
    : Chain limit network request [] (network, .error failure) where
  few := by simp
  first := by simp [closed]
  links := .nil
  answers := by simp
  state := by simp
  ends := .unreached failure closed

/-- A request that is not sent on takes one answer. -/
theorem single {result : Except Failure Response}
    (reached : network.reaches request.url = true)
    (ends : Ends limit network request [network.hop request] result)
    : Chain limit network request [network.hop request] (network.after request, result) where
  few := by simp
  first := by simp [hop, reached, eq_comm]
  links := .singleton _
  answers := by
    intro index hop found
    obtain ⟨rfl, rfl⟩ : index = 0 ∧ network.hop request = hop := by
      simpa [List.getElem?_singleton] using found
    rw [← next_eq]
    rfl
  state := by simp [after, Network.hop]
  ends := ends

/-- Behind a hop that leads on, a chain goes on with one redirect less to follow. -/
theorem cons {next : Request} (reached : network.reaches request.url = true)
    (leads : (network.hop request).LeadsTo next)
    (chain : Chain limit (network.after request) next hops sent)
    : Chain (limit + 1) network request (network.hop request :: hops) sent where
  few := Nat.succ_le_succ chain.few
  first := by simp [hop, reached, eq_comm]
  links := by
    refine List.isChain_cons.mpr ⟨?_, chain.links⟩
    intro hop member
    obtain ⟨rfl, _⟩ := (chain.first hop.request).mp (by rw [member]; rfl)
    exact leads
  answers := by
    intro index hop found
    cases index with
    | zero =>
        obtain rfl := Option.some.inj found
        rw [← next_eq]
        rfl
    | succ index =>
        have later := chain.answers index hop found
        simpa [after] using later
  state := by
    rw [chain.state]
    simp [after, Network.hop]
  ends := chain.ends.cons leads

end Chain

/--
Every exchange is a chain of hops. By induction on how many redirects may be followed; a hop leads
on only where one more of them may be.
-/
theorem exists_chain (limit : Nat) (network : Network) (request : Request)
    : ∃ hops, Chain limit network request hops (network.exchange limit request) := by
  induction limit using Nat.strongRecOn generalizing network request with
  | ind limit ih =>
      cases reached : network.reaches request.url with
      | false =>
          rw [exchange_of_not_reaches reached]
          exact ⟨[], .unreached reached _⟩
      | true =>
          cases given : network.next with
          | none =>
              rw [exchange_of_silence reached given]
              exact ⟨_, .single reached (.silent [] _ _ (by rw [hop, given]; rfl))⟩
          | some response =>
              have answer : (network.hop request).answer = some (fit request.method response) := by
                rw [hop, given]
                rfl
              cases moved : (fit request.method response).target? request.url with
              | none =>
                  rw [exchange_of_answer reached given moved]
                  exact ⟨_, .single reached (.answered [] _ _ answer moved)⟩
              | some target =>
                  rw [exchange_of_target? reached given moved]
                  cases limit with
                  | zero =>
                      exact ⟨_, .single reached
                        (.lost [] _ _ target _ answer moved (Or.inl rfl))⟩
                  | succ fewer =>
                      dsimp only
                      split
                      · rename_i fetchable
                        obtain ⟨hops, chain⟩ := ih fewer (Nat.lt_succ_self fewer)
                          (network.after request) (request.redirected _ target)
                        exact ⟨_, chain.cons reached ⟨_, target, answer, moved, fetchable, rfl⟩⟩
                      · rename_i kept
                        exact ⟨_, .single reached (.lost [] _ _ target _ answer moved
                          (Or.inr (Or.inl (Bool.eq_false_iff.mpr kept))))⟩

end Network

end DiscordRest.Http
