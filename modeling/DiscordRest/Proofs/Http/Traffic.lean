import DiscordRest.Proofs.Http.Answer

/-!
What a router does to its network. Requests are only added to those that were received, and
answers are used up from the front; a success costs at least one answer, and where no answer is a
redirect it comes with exactly one request.
-/

namespace DiscordRest.Http

------------------------------------------------------------------------------------------
-- Networks that went on
------------------------------------------------------------------------------------------

namespace Network

/-- A network later on: some answers are used up, and some further requests were received. -/
structure Onward (before after : Network) : Prop where
  answers : after.answers <:+ before.answers
  received : before.received <+: after.received

namespace Onward

variable {before middle after : Network}

theorem refl (network : Network) : network.Onward network :=
  ⟨List.suffix_rfl, List.prefix_rfl⟩

theorem trans (first : before.Onward middle) (second : middle.Onward after)
    : before.Onward after :=
  ⟨second.answers.trans first.answers, first.received.trans second.received⟩

theorem staysPut (onward : before.Onward after) (stays : before.StaysPut) : after.StaysPut :=
  fun response member => stays response (onward.answers.subset member)

end Onward

variable {network : Network} {request : Request}

theorem onward_after (network : Network) (request : Request)
    : network.Onward (network.after request) :=
  ⟨List.tail_suffix network.answers, List.prefix_append network.received [request]⟩

theorem exchange_of_not_reaches (closed : network.reaches request.url = false) (limit : Nat)
    : network.exchange limit request = (network, .error (.noAnswer request.url)) := by
  have sent : network.send request = (network, none) := by
    rw [send, closed]
    rfl
  rw [exchange, sent]

/--
What becomes of a request: it does not get through, or it fails, or its answer is the last one, or
the answer sends it on with one redirect less to follow.
-/
theorem exchange_cases (limit : Nat) (network : Network) (request : Request)
    : let sent := network.exchange limit request
      (∃ failure, sent = (network, .error failure))
      ∨ (∃ failure, sent = (network.after request, .error failure))
      ∨ (∃ response,
          network.next = some response
          ∧ sent = (network.after request, .ok (fit request.method response)))
      ∨ ∃ fewer response target,
          limit = fewer + 1
          ∧ network.next = some response
          ∧ (fit request.method response).target? request.url = some target
          ∧ sent
            = (network.after request).exchange fewer
              (request.redirected (fit request.method response).status target) := by
  dsimp only
  cases reached : network.reaches request.url with
  | false => exact Or.inl ⟨_, exchange_of_not_reaches reached limit⟩
  | true =>
      right
      cases given : network.next with
      | none => exact Or.inl ⟨_, exchange_of_silence reached given limit⟩
      | some response =>
          cases moved : (fit request.method response).target? request.url with
          | none => exact Or.inr (Or.inl ⟨response, rfl, exchange_of_answer reached given moved limit⟩)
          | some target =>
              rw [exchange, send_of_reaches reached, given]
              simp only [Option.map_some, moved]
              cases limit with
              | zero => exact Or.inl ⟨_, rfl⟩
              | succ fewer =>
                  dsimp only
                  split
                  · exact Or.inr (Or.inr ⟨fewer, response, target, rfl, rfl, moved, rfl⟩)
                  · exact Or.inl ⟨_, rfl⟩

/-- Redirects are followed from one network to a later one, by induction on how many may be. -/
theorem onward_exchange (limit : Nat) (network : Network) (request : Request)
    : network.Onward (network.exchange limit request).1 := by
  induction limit using Nat.strongRecOn generalizing network request with
  | ind limit ih =>
      have first := onward_after network request
      rcases exchange_cases limit network request with
        ⟨failure, sent⟩ | ⟨failure, sent⟩ | ⟨response, _, sent⟩ | ⟨fewer, response, target, rfl, _, _, sent⟩
      · rw [sent]
        exact .refl network
      · rw [sent]
        exact first
      · rw [sent]
        exact first
      · rw [sent]
        exact first.trans (ih fewer (Nat.lt_succ_self fewer) _ _)

/-- Behind the last answer there is no success. -/
theorem answers_ne_nil_of_isSuccess {response : Response} (given : network.next = some response)
    (success : (fit request.method response).isSuccess = true)
    : network.answers ≠ [] := by
  intro used
  rw [next, used] at given
  obtain rfl : Response.exhausted = response := Option.some.inj given
  have failed : (fit request.method .exhausted).isSuccess = false := by
    unfold fit
    split <;> rfl
  rw [failed] at success
  contradiction

/-- A success uses up an answer, by induction on the redirects before it. -/
theorem length_answers_lt_of_isSuccess {limit : Nat} {after : Network} {response : Response}
    (sent : network.exchange limit request = (after, .ok response))
    (success : response.isSuccess = true)
    : after.answers.length < network.answers.length := by
  induction limit using Nat.strongRecOn generalizing network request with
  | ind limit ih =>
      rcases exchange_cases limit network request with
        ⟨failure, failed⟩ | ⟨failure, failed⟩ | ⟨found, given, last⟩
          | ⟨fewer, found, target, rfl, given, _, more⟩
      · cases sent.symm.trans failed
      · cases sent.symm.trans failed
      · obtain ⟨rfl, same⟩ := Prod.mk.inj (sent.symm.trans last)
        obtain rfl := Except.ok.inj same
        have some_left := answers_ne_nil_of_isSuccess given success
        rw [Network.after, List.length_tail]
        have positive := List.length_pos_iff.mpr some_left
        omega
      · have later := ih fewer (Nat.lt_succ_self fewer) (more.symm.trans sent)
        have first := (onward_after network request).answers.length_le
        omega

theorem received_of_staysPut (stays : network.StaysPut) {limit : Nat} {after : Network}
    {response : Response} (sent : network.exchange limit request = (after, .ok response))
    : after.received = network.received ++ [request] := by
  rcases exchange_cases limit network request with
    ⟨failure, failed⟩ | ⟨failure, failed⟩ | ⟨found, given, last⟩
      | ⟨fewer, found, target, rfl, given, moved, _⟩
  · cases sent.symm.trans failed
  · cases sent.symm.trans failed
  · rw [(Prod.mk.inj (sent.symm.trans last)).1]
    rfl
  · rw [stays.target?_next given] at moved
    contradiction

end Network

------------------------------------------------------------------------------------------
-- Requests of a router
------------------------------------------------------------------------------------------

namespace Router

variable {router : Router} {method path : String} {options : RequestOptions} {network : Network}

theorem level_of_mem_read {url : String} {response : Response} {event : Log.Event}
    (reported : event ∈ (read method url response).2)
    : event.level = .detail := by
  unfold read at reported
  split at reported
  · cases reported
  · split at reported
    · rw [List.mem_singleton.mp reported]
      rfl
    · rw [List.mem_singleton.mp reported]
      rfl

theorem isSuccess_of_read {url body : String} {response : Response}
    (given : (read method url response).1 = .ok body)
    : response.isSuccess = true := by
  unfold read at given
  split at given
  · contradiction
  · split at given
    · assumption
    · contradiction

/-- A request that is not made or not answered fails; the answer is read if there is one. -/
theorem request_cases (router : Router) (method path : String) (options : RequestOptions)
    (network : Network)
    : let reply := router.request method path options network
      (∃ failure, reply = .failure network failure)
      ∨ (∃ request failure,
          reply = .failure (network.exchange redirectLimit request).1 failure)
      ∨ ∃ request after response,
          network.exchange redirectLimit request = (after, .ok response)
          ∧ reply
            = let found := read method (router.fullUrl path) response
              ⟨after, found.1, found.2⟩ := by
  dsimp only
  unfold request
  dsimp only
  split
  · exact Or.inl ⟨_, rfl⟩
  · rename_i request _
    split
    · rename_i after failure sent
      exact Or.inr (Or.inl ⟨request, _, by rw [sent]⟩)
    · rename_i after response sent
      exact Or.inr (Or.inr ⟨request, after, response, sent, rfl⟩)

theorem onward_request (router : Router) (method path : String) (options : RequestOptions)
    (network : Network)
    : network.Onward (router.request method path options network).state := by
  rcases router.request_cases method path options network with
    ⟨failure, reply⟩ | ⟨request, failure, reply⟩ | ⟨request, after, response, sent, reply⟩
  · rw [reply]
    exact .refl network
  · rw [reply]
    exact network.onward_exchange redirectLimit request
  · rw [reply]
    have onward := network.onward_exchange redirectLimit request
    rwa [sent] at onward

theorem level_of_mem_request {event : Log.Event}
    (reported : event ∈ (router.request method path options network).events)
    : event.level = .detail := by
  rcases router.request_cases method path options network with
    ⟨failure, reply⟩ | ⟨request, failure, reply⟩ | ⟨request, after, response, sent, reply⟩
  · rw [reply] at reported
    cases reported
  · rw [reply] at reported
    cases reported
  · rw [reply] at reported
    exact level_of_mem_read reported

/-- A body that is given comes from an answer that is a success. -/
theorem exchange_of_request {body : String}
    (given : (router.request method path options network).answer = .ok body)
    : ∃ request response,
        network.exchange redirectLimit request
          = ((router.request method path options network).state, .ok response)
        ∧ response.isSuccess = true := by
  rcases router.request_cases method path options network with
    ⟨failure, reply⟩ | ⟨request, failure, reply⟩ | ⟨request, after, response, sent, reply⟩
  · rw [reply] at given
    cases given
  · rw [reply] at given
    cases given
  · rw [reply] at given ⊢
    exact ⟨request, response, sent, isSuccess_of_read given⟩

end Router

------------------------------------------------------------------------------------------
-- Services over a network
------------------------------------------------------------------------------------------

/-- What every service that sends its requests through a router does to the network. -/
structure Traffic {α : Type} (network : Network) (reply : Reply Network α) : Prop where
  onward : network.Onward reply.state
  quiet : ∀ event ∈ reply.events, event.level = .detail
  /-- A success uses up an answer. -/
  spends : ∀ found, reply.answer = .ok found → reply.state.answers.length < network.answers.length
  /-- Without redirects a success comes with one request. -/
  single
    : ∀ found,
        network.StaysPut
        → reply.answer = .ok found
        → ∃ request, reply.state.received = network.received ++ [request]

/-- What is read further is the answer alone. -/
theorem Traffic.read {α β : Type} {network : Network} {reply : Reply Network α}
    (traffic : Traffic network reply) (f : α → Except Error β)
    : Traffic network (reply.read f) := by
  have success : ∀ found,
      (reply.read f).answer = .ok found → ∃ body, reply.answer = .ok body := by
    obtain ⟨state, answer, events⟩ := reply
    intro found given
    cases answer with
    | error error => cases given
    | ok body => exact ⟨body, rfl⟩
  exact {
    onward := traffic.onward
    quiet := traffic.quiet
    spends := by
      intro found given
      obtain ⟨body, answer⟩ := success found given
      exact traffic.spends body answer
    single := by
      intro found stays given
      obtain ⟨body, answer⟩ := success found given
      exact traffic.single body stays answer
  }

theorem Router.traffic_request (router : Router) (method path : String)
    (options : RequestOptions) (network : Network)
    : Traffic network (router.request method path options network) where
  onward := router.onward_request method path options network
  quiet _ reported := level_of_mem_request reported
  spends _ given := by
    obtain ⟨request, response, sent, whole⟩ := exchange_of_request given
    exact Network.length_answers_lt_of_isSuccess sent whole
  single _ stays given := by
    obtain ⟨request, response, sent, _⟩ := exchange_of_request given
    exact ⟨request, Network.received_of_staysPut stays sent⟩

theorem Router.traffic_requestJson {α : Type} (router : Router) (codec : Json.Codec α)
    (method path : String) (options : RequestOptions) (network : Network)
    : Traffic network (router.requestJson codec method path options network) :=
  (router.traffic_request method path options network).read (decode codec)

end DiscordRest.Http
