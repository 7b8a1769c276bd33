import DiscordRest.Proofs.Http.Chain

/-!
A call of a router is one attempt: it sends one request, goes on only where a redirect sends it, and
what it gives is decided by its last answer alone. A body that was cut off hides the status of this
answer; otherwise no failure loses it.
-/

namespace DiscordRest.Http

------------------------------------------------------------------------------------------
-- What an answer decides
------------------------------------------------------------------------------------------

namespace Response

/-- The text of a body that arrived. -/
def content (response : Response) : String :=
  String.ofList (Text.decodeLenient response.body)

/-- What a call gives that ends with an answer. -/
structure Decides (response : Response) (answer : Except Error String) : Prop where
  ok
    : ∀ body,
        answer = .ok body
        ↔ (200 ≤ response.status ∧ response.status < 300)
          ∧ response.complete = true
          ∧ body = response.content
  status
    : ∀ code body,
        answer = .error (.status code body)
        ↔ ¬(200 ≤ response.status ∧ response.status < 300)
          ∧ response.complete = true
          ∧ code = response.status
          ∧ body = response.content
  cutOff : response.complete = false → answer = .error (.http .truncated)

end Response

/-- A body that was cut off is looked at first, the status next. -/
theorem Router.read_eq (method url : String) (response : Response)
    : (read method url response).1
      = if response.complete = true then
          if response.isSuccess = true then .ok response.content
          else .error (.status response.status response.content)
        else .error (.http .truncated) := by
  rw [read, Response.text]
  cases response.complete with
  | false => rfl
  | true => cases response.isSuccess <;> rfl

/-- What is read of an answer is what it decides, by whether it is complete and a success. -/
theorem Router.decides_read (method url : String) (response : Response)
    : response.Decides (read method url response).1 := by
  have success : response.isSuccess = true ↔ 200 ≤ response.status ∧ response.status < 300 := by
    simp [Response.isSuccess]
  rw [read_eq]
  by_cases complete : response.complete = true
  · rw [if_pos complete]
    by_cases good : response.isSuccess = true
    · rw [if_pos good]
      constructor
      · simp only [← success, good, complete, true_and, Except.ok.injEq]
        exact fun body => eq_comm
      · simp [← success, good]
      · simp [complete]
    · rw [if_neg good]
      constructor
      · simp [← success, good]
      · intro code body
        rw [Except.error.injEq, Error.status.injEq, ← success]
        simp [good, complete, eq_comm]
      · simp [complete]
  · rw [if_neg complete]
    constructor <;> simp [complete]

/-- A network fits an answer to a method without changing its status. -/
theorem Network.status_fit (method : String) (response : Response)
    : (fit method response).status = response.status := by
  unfold fit
  split <;> rfl

theorem Network.headers_fit (method : String) (response : Response)
    : (fit method response).headers = response.headers := by
  unfold fit
  split <;> rfl

------------------------------------------------------------------------------------------
-- Attempts
------------------------------------------------------------------------------------------

namespace Router

/-- What a call of a router does to the network, hop by hop, and what it gives. -/
structure Attempt (router : Router) (method path : String) (options : RequestOptions)
    (network : Network) (hops : List Hop)
    : Prop where
  /-- No call sends more than eleven requests. -/
  few : hops.length ≤ 11
  /-- There is a first request where it can be made and the host can be reached. -/
  first
    : ∀ request,
        hops.head?.map Hop.request = some request
        ↔ Request.make router.settings method (router.fullUrl path) options = .ok request
          ∧ network.reaches request.url = true
  /-- A further request comes only from a redirect that is followed. -/
  links : hops.IsChain fun hop next => hop.LeadsTo next.request
  single : (∀ hop ∈ hops, ∀ next, ¬hop.LeadsTo next) → hops.length ≤ 1
  /-- A redirect is followed unless there were too many, or its target is not reached. -/
  stops
    : ∀ last response target,
        hops.getLast? = some last
        → last.answer = some response
        → response.target? last.request.url = some target
        → hops.length = 11 ∨ Request.isFetchable target = false ∨ network.reaches target = false
  /-- The hops take the answers of the network one by one. -/
  answers
    : ∀ (index : Nat) (hop : Hop),
        hops[index]? = some hop
        → hop.answer
          = (network.answers[index]?.getD (some .exhausted)).map (Network.fit hop.request.method)
  /-- Each request takes one answer, and nothing else changes. -/
  state
    : (router.request method path options network).state
      = ⟨network.connected, network.answers.drop hops.length,
          network.received ++ hops.map Hop.request⟩
  /-- An answer that sends nowhere decides what the call gives. -/
  answered
    : ∀ last response,
        hops.getLast? = some last
        → last.answer = some response
        → response.target? last.request.url = none
        → response.Decides (router.request method path options network).answer
  /-- Without such an answer the call fails. -/
  unanswered
    : (∀ last response,
        hops.getLast? = some last
        → last.answer = some response
        → ∃ target, response.target? last.request.url = some target)
      → ∃ failure, (router.request method path options network).answer = .error (.http failure)

/-- Hops of which none leads on are a single one at most. -/
theorem length_le_one_of_links {hops : List Hop}
    (links : hops.IsChain fun hop next => hop.LeadsTo next.request)
    (stay : ∀ hop ∈ hops, ∀ next, ¬hop.LeadsTo next)
    : hops.length ≤ 1 := by
  match hops with
  | [] => exact Nat.zero_le 1
  | [_] => exact Nat.le_refl 1
  | hop :: next :: _ =>
      have leads := (List.isChain_cons_cons.mp links).1
      exact absurd leads (stay hop List.mem_cons_self next.request)

variable {method path : String} {options : RequestOptions} {network : Network}

/-- A request that cannot be made is not sent. -/
theorem request_of_unmade {router : Router} {failure : Failure}
    (unmade : Request.make router.settings method (router.fullUrl path) options = .error failure)
    (network : Network)
    : router.request method path options network = .failure network (.http failure) := by
  rw [request, unmade]

/-- A request that cannot be made is no attempt at all. -/
theorem attempt_of_unmade {router : Router} {failure : Failure}
    (unmade : Request.make router.settings method (router.fullUrl path) options = .error failure)
    : router.Attempt method path options network [] := by
  have reply := request_of_unmade unmade network
  exact {
    few := by simp
    first := by simp [unmade]
    links := .nil
    single := by simp
    stops := by simp
    answers := by simp
    state := by simp [reply, Reply.failure]
    answered := by simp
    unanswered := fun _ => ⟨failure, by rw [reply]; rfl⟩
  }

/-- What a router tells of an exchange. -/
def tell (method url : String) : Except Failure Response → Except Error String × List Log.Event
  | .error failure => (.error (.http failure), [])
  | .ok response => read method url response

/-- A router tells of the exchange of the request that it makes. -/
theorem request_of_made {router : Router} {sent : Request}
    (made : Request.make router.settings method (router.fullUrl path) options = .ok sent)
    (network : Network)
    : router.request method path options network
      = let exchanged := network.exchange redirectLimit sent
        let told := tell method (router.fullUrl path) exchanged.2
        ⟨exchanged.1, told.1, told.2⟩ := by
  rw [request, made]
  dsimp only
  generalize network.exchange redirectLimit sent = exchanged
  obtain ⟨after, _ | response⟩ := exchanged <;> rfl

/-- The chain of the request that is made is the attempt, by the ways in which the chain ends. -/
theorem attempt_of_chain {router : Router} {sent : Request} {hops : List Hop}
    (made : Request.make router.settings method (router.fullUrl path) options = .ok sent)
    (chain : network.Chain redirectLimit sent hops (network.exchange redirectLimit sent))
    : router.Attempt method path options network hops := by
  have reply := request_of_made made network
  dsimp only at reply
  exact {
    few := chain.few
    first := by
      intro start
      rw [chain.first, made, Except.ok.injEq]
      constructor
      · rintro ⟨rfl, reached⟩
        exact ⟨rfl, reached⟩
      · rintro ⟨rfl, reached⟩
        exact ⟨rfl, reached⟩
    links := chain.links
    single := length_le_one_of_links chain.links
    stops := fun _ _ _ isLast given moved => chain.ends.stops isLast given moved
    answers := chain.answers
    state := by rw [reply, chain.state]
    answered := by
      intro last response isLast given stays
      rw [reply, chain.ends.eq_ok isLast given stays]
      exact decides_read method _ response
    unanswered := by
      intro leads
      obtain ⟨failure, failed⟩ := chain.ends.exists_failure leads
      rw [reply, failed]
      exact ⟨failure, rfl⟩
  }

/-- Every call is an attempt with some hops. -/
theorem exists_attempt (router : Router) (method path : String) (options : RequestOptions)
    (network : Network)
    : ∃ hops, router.Attempt method path options network hops := by
  cases made : Request.make router.settings method (router.fullUrl path) options with
  | error failure => exact ⟨[], attempt_of_unmade made⟩
  | ok sent =>
      obtain ⟨hops, chain⟩ := network.exists_chain redirectLimit sent
      exact ⟨hops, attempt_of_chain made chain⟩

/-- The first request that is received is the one that the router makes. -/
theorem make_of_received {router : Router} {first : Request} {sent : List Request}
    (received
      : (router.request method path options network).state.received
        = network.received ++ first :: sent)
    : Request.make router.settings method (router.fullUrl path) options = .ok first
      ∧ network.reaches first.url = true := by
  obtain ⟨hops, attempt⟩ := router.exists_attempt method path options network
  rw [attempt.state] at received
  have all : hops.map Hop.request = first :: sent := List.append_cancel_left received
  refine (attempt.first first).mp ?_
  rw [← List.head?_map, all]
  rfl

/-- Reading what an attempt gives sends nothing more. -/
theorem Attempt.received_requestJson {α : Type} {router : Router} {hops : List Hop}
    (attempt : router.Attempt method path options network hops) (codec : Json.Codec α)
    : (router.requestJson codec method path options network).state.received
      = network.received ++ hops.map Hop.request := by
  rw [requestJson, Reply.read, attempt.state]

theorem requestJson_of_error {α : Type} {router : Router} {error : Error}
    (failed : (router.request method path options network).answer = .error error)
    (codec : Json.Codec α)
    : (router.requestJson codec method path options network).answer = .error error := by
  rw [requestJson, Reply.read, failed]
  rfl

/--
A call of a router is one attempt, which decides what it gives. What is read of its body as JSON is
the same failure, or what the body means, where an empty one stands for null.
-/
theorem request_is_one_attempt {α : Type} (router : Router) (codec : Json.Codec α)
    (method path : String) (options : RequestOptions) (network : Network)
    : let reply := router.request method path options network
      let read := router.requestJson codec method path options network
      (∃ hops, router.Attempt method path options network hops)
      ∧ read.state = reply.state
      ∧ (∀ error, reply.answer = .error error → read.answer = .error error)
      ∧ ∀ body,
          reply.answer = .ok body
          → read.answer
            = (codec.ofText (if body.isEmpty then "null" else body)).mapError .invalidJson := by
  refine ⟨router.exists_attempt method path options network, rfl, ?_, ?_⟩
  · exact fun error failed => requestJson_of_error failed codec
  · intro body given
    rw [requestJson, Reply.read, given]
    rfl

/-- A router for a host that is asked for nothing but its paths, with some headers. -/
def mockRouter (headers : TextMap) : Router :=
  ⟨{ (default : RouterSettings) with baseUrl := "http://mock.test", headers },
    ⟨"http".toList, [], [], some (.name "mock.test".toList), none, .segments [[]], none, none⟩⟩

/-- A network with one answer. -/
def singleAnswer (response : Response) : Network :=
  ⟨true, [some response], []⟩

-- An answer that sends to a file is not sent on, and one that sends to a mailbox is.
example :
    let answer (location : String) : Response := ⟨302, [⟨"location", location⟩], [], true⟩
    (answer "file:///etc/hosts").target? (mockRouter .empty).base = none
      ∧ ((answer "mailto:a@b.c").target? (mockRouter .empty).base).isSome := by
  decide +kernel

/-- A single answer that is not sent on makes a single hop. -/
theorem Attempt.eq_singleton {router : Router} {response : Response} {hops : List Hop}
    (attempt : router.Attempt method path options (singleAnswer response) hops)
    (received : (router.request method path options (singleAnswer response)).state.received.length
      = 1)
    : ∃ hop,
        hops = [hop]
        ∧ hop.answer = some (Network.fit hop.request.method response) := by
  rw [attempt.state] at received
  obtain ⟨hop, rfl⟩ : ∃ hop, hops = [hop] := by
    simpa [singleAnswer, List.length_eq_one_iff] using received
  exact ⟨hop, rfl, attempt.answers 0 hop rfl⟩

/-- A redirect to what is no URL. -/
def brokenRedirect : Response :=
  ⟨302, [⟨"location", "http://["⟩], Text.utf8Bytes "moved".toList, true⟩

/--
Not every redirect that ends a call fails without a status: one that says where to go, but not with
a URL, is an answer as any other.
-/
theorem not_forall_redirect_fails
    : ¬∀ (router : Router) (method path : String) (options : RequestOptions) (network : Network)
        (hops : List Hop) (last : Hop) (response : Response),
        router.Attempt method path options network hops
        → hops.getLast? = some last
        → last.answer = some response
        → response.isRedirect = true
        → ∃ failure, (router.request method path options network).answer = .error (.http failure) := by
  intro fails
  let network := singleAnswer brokenRedirect
  obtain ⟨hops, attempt⟩ := (mockRouter .empty).exists_attempt "GET" "users" default network
  obtain ⟨hop, rfl, answer⟩ := attempt.eq_singleton (by decide +kernel)
  obtain ⟨failure, failed⟩ := fails _ _ _ _ network _ hop _ attempt rfl answer
    ((Response.isRedirect_fit _ brokenRedirect).trans (by decide))
  have given : ((mockRouter .empty).request "GET" "users" default network).answer
      = .error (.status 302 "moved") := by
    decide +kernel
  cases given.symm.trans failed

------------------------------------------------------------------------------------------
-- Statuses of failures
------------------------------------------------------------------------------------------

/-- An answer that does not say where to go sends nowhere. -/
theorem target?_eq_none_of_noLocation {response : Response}
    (noLocation : response.headers.get? "location" = none) (url : Url)
    : response.target? url = none := by
  refine Response.target?_eq_none ?_ url
  simp [Response.isRedirect, noLocation]

/--
A call that ends with an answer other than a success fails; its failure has the status of this
answer where the body arrived as a whole, and only there.
-/
theorem status_survives_iff_complete {router : Router} {hops : List Hop}
    (attempt : router.Attempt method path options network hops) {last : Hop}
    {response : Response} (isLast : hops.getLast? = some last)
    (answer : last.answer = some response)
    (failed : ¬(200 ≤ response.status ∧ response.status < 300))
    (noLocation : response.headers.get? "location" = none) {α : Type} (codec : Json.Codec α)
    : ∃ error,
        (router.request method path options network).answer = .error error
        ∧ (router.requestJson codec method path options network).answer = .error error
        ∧ (error.status? = some response.status ↔ response.complete = true) := by
  have decides := attempt.answered last response isLast answer
    (target?_eq_none_of_noLocation noLocation _)
  cases complete : response.complete with
  | true =>
      have given := (decides.status response.status response.content).mpr
        ⟨failed, complete, rfl, rfl⟩
      exact ⟨_, given, requestJson_of_error given codec, iff_of_true rfl rfl⟩
  | false =>
      have given := decides.cutOff complete
      exact ⟨_, given, requestJson_of_error given codec, by simp [Error.status?]⟩

/-- A failure of the service, whose body may have been cut off. -/
def serviceFailure (complete : Bool) : Response :=
  ⟨503, [], Text.utf8Bytes "later".toList, complete⟩

/-- The only hop of a call that a service answers with a failure. -/
theorem exists_hop_of_serviceFailure (complete : Bool)
    : ∃ hop,
        (mockRouter .empty).Attempt "GET" "users" default (singleAnswer (serviceFailure complete))
          [hop]
        ∧ hop.answer = some (Network.fit hop.request.method (serviceFailure complete)) := by
  obtain ⟨hops, attempt⟩ := (mockRouter .empty).exists_attempt "GET" "users" default
    (singleAnswer (serviceFailure complete))
  obtain ⟨hop, rfl, answer⟩ := attempt.eq_singleton (by cases complete <;> decide +kernel)
  exact ⟨hop, attempt, answer⟩

/-- A failure of the service that arrives as a whole. -/
theorem status_survives_iff_complete_of_serviceFailure
    : ∃ hop response,
        (mockRouter .empty).Attempt "GET" "users" default (singleAnswer (serviceFailure true)) [hop]
        ∧ [hop].getLast? = some hop
        ∧ hop.answer = some response
        ∧ ¬(200 ≤ response.status ∧ response.status < 300)
        ∧ response.headers.get? "location" = none
        ∧ ∃ error,
            ((mockRouter .empty).request "GET" "users" default
              (singleAnswer (serviceFailure true))).answer = .error error
            ∧ ((mockRouter .empty).requestJson Json.Codec.string "GET" "users" default
              (singleAnswer (serviceFailure true))).answer = .error error
            ∧ (error.status? = some response.status ↔ response.complete = true) := by
  obtain ⟨hop, attempt, answer⟩ := exists_hop_of_serviceFailure true
  have failed : ¬(200 ≤ (Network.fit hop.request.method (serviceFailure true)).status
      ∧ (Network.fit hop.request.method (serviceFailure true)).status < 300) := by
    rw [Network.status_fit]
    decide
  have noLocation : (Network.fit hop.request.method (serviceFailure true)).headers.get? "location"
      = none := by
    rw [Network.headers_fit]
    rfl
  exact ⟨hop, _, attempt, rfl, answer, failed, noLocation,
    status_survives_iff_complete attempt rfl answer failed noLocation _⟩

/-- The status of a failure may be lost: its body need only be cut off. -/
theorem not_forall_status_survives
    : ¬∀ (router : Router) (method path : String) (options : RequestOptions) (network : Network)
        (hops : List Hop) (last : Hop) (response : Response),
        router.Attempt method path options network hops
        → hops.getLast? = some last
        → last.answer = some response
        → ¬(200 ≤ response.status ∧ response.status < 300)
        → response.headers.get? "location" = none
        → ∃ error,
            (router.request method path options network).answer = .error error
            ∧ error.status? = some response.status := by
  intro survives
  obtain ⟨hop, attempt, answer⟩ := exists_hop_of_serviceFailure false
  obtain ⟨error, failed, status⟩ := survives _ _ _ _ _ _ hop _ attempt rfl answer
    (by rw [Network.status_fit]; decide) (by rw [Network.headers_fit]; rfl)
  have given : ((mockRouter .empty).request "GET" "users" default
      (singleAnswer (serviceFailure false))).answer = .error (.http .truncated) := by
    decide +kernel
  obtain rfl := Except.error.inj (given.symm.trans failed)
  cases status

end Router

end DiscordRest.Http
