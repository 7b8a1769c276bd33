import DiscordRest.Proofs.Http.Endpoint
import DiscordRest.Proofs.Http.Lines

/-!
Calls over a network without redirects. A call sends the one request that its router makes, or none,
and then it fails. The request for an operation is for the base of the router, and goes out where
this is plain, the headers are valid and the URL can be sent.
-/

namespace DiscordRest.Http

variable {network : Network}

/-- Over a network without redirects no answer leads on to a further request. -/
theorem Router.Attempt.not_leadsTo {router : Router} {method path : String}
    {options : RequestOptions} {hops : List Hop}
    (attempt : router.Attempt method path options network hops) (stays : network.StaysPut)
    : ∀ hop ∈ hops, ∀ next, ¬hop.LeadsTo next := by
  rintro hop member next ⟨response, target, answer, moved, -⟩
  obtain ⟨index, found⟩ := List.mem_iff_getElem?.mp member
  rw [attempt.answers index hop found] at answer
  obtain ⟨given, taken, rfl⟩ := Option.map_eq_some_iff.mp answer
  have remains : given.isRedirect = false := by
    cases scripted : network.answers[index]? with
    | none =>
        rw [scripted] at taken
        obtain rfl : Response.exhausted = given := Option.some.inj taken
        decide
    | some first =>
        rw [scripted] at taken
        obtain rfl : first = some given := taken
        exact stays given (List.mem_of_getElem? scripted)
  rw [Response.target?_eq_none ((Response.isRedirect_fit _ given).trans remains)] at moved
  contradiction

/--
What a call sends that sends no more than one request: that request, if it goes out at all, or
nothing, and then it fails.
-/
structure SendsOne {α : Type} (network : Network) (asks : Request → Prop) (goes : Prop)
    (reply : Reply Network α) (sent : Option Request)
    : Prop where
  received : reply.state.received = network.received ++ sent.toList
  asked : ∀ request ∈ sent, asks request
  goes : sent ≠ none ↔ goes
  failed : sent = none → ∃ error, reply.answer = .error error
  stays : reply.state.StaysPut

/-- Over a network without redirects a call sends the request that its router makes, or fails. -/
theorem Router.exists_sendsOne {α : Type} (router : Router) (codec : Json.Codec α)
    (method path : String) (options : RequestOptions) (stays : network.StaysPut)
    : let made := fun request =>
        Request.make router.settings method (router.fullUrl path) options = .ok request
        ∧ network.reaches request.url = true
      ∃ sent,
        SendsOne network made (∃ request, made request)
          (router.requestJson codec method path options network) sent := by
  intro made
  obtain ⟨hops, attempt⟩ := router.exists_attempt method path options network
  have few := attempt.single (attempt.not_leadsTo stays)
  have received := attempt.received_requestJson codec
  have traffic := router.traffic_requestJson codec method path options network
  have later := traffic.onward.staysPut stays
  match hops with
  | [] =>
      have unmade : ¬∃ request, made request := by
        rintro ⟨request, isMade⟩
        cases (attempt.first request).mpr isMade
      obtain ⟨failure, failed⟩ := attempt.unanswered (by simp)
      refine ⟨none, received, by simp, by simp [unmade], ?_, later⟩
      exact fun _ => ⟨_, requestJson_of_error failed codec⟩
  | [hop] =>
      have isMade : made hop.request := (attempt.first hop.request).mp rfl
      refine ⟨some hop.request, received, ?_, iff_of_true (by simp) ⟨_, isMade⟩, by simp, later⟩
      intro request sent
      obtain rfl := Option.some.inj sent
      exact isMade
  | _ :: _ :: _ => simp at few

section

variable {settings : RouterSettings} {router : Router} {operation : Operation}

/-- A request for an operation that goes over a plain connection comes of a plain base. -/
theorem scheme_base_of_make {request : Request}
    (base : Url.ofText settings.baseUrl = .ok router.base)
    (asked : Request.make router.settings operation.call.method
      (router.fullUrl operation.call.path) operation.call.options = .ok request)
    (plain : request.url.scheme = Url.httpScheme)
    : router.base.scheme = Url.httpScheme := by
  obtain ⟨url, _, _, read, _, _, target, _⟩ := Request.exists_of_make asked
  rw [target, scheme_addQuery, scheme_bare] at plain
  have relative := Router.isAbsolute_operation operation
  exact (Router.scheme_of_ofText_fullUrl base relative read).symm.trans plain

/-- A request for a path goes out where base, headers and URL are fit for it. -/
structure GoesOut (network : Network) (router : Router) (path : String) (added : TextMap)
    : Prop where
  connected : network.connected = true
  plain : router.base.scheme = Url.httpScheme
  headers : ∃ always, Request.headersOf? router.settings.headers = some always
  sendable : Request.isSendable (endpointTarget router.base path.toList added) = true

/-- A request is made and gets through exactly where its operation goes out. -/
theorem exists_reached_iff_goesOut (made : Router.ofSettings settings = .ok router)
    (operation : Operation)
    : (∃ request,
        Request.make router.settings operation.call.method
            (router.fullUrl operation.call.path) operation.call.options = .ok request
        ∧ network.reaches request.url = true)
      ↔ GoesOut network router operation.call.path operation.call.query := by
  obtain ⟨base, rfl, _, _⟩ := Router.ofSettings_eq_ok_iff.mp made
  have reaches : ∀ url, network.reaches url = true
      ↔ network.connected = true ∧ url.scheme = Url.httpScheme := by
    simp [Network.reaches, Url.httpScheme]
  constructor
  · rintro ⟨request, asked, reached⟩
    obtain ⟨connected, plain⟩ := (reaches request.url).mp reached
    have scheme := scheme_base_of_make base asked plain
    obtain ⟨host, web⟩ := Url.isPlainWeb_of_ofText base scheme
    have plainEnd := Url.hasPlainEnd_of_ofText base scheme
    obtain ⟨headers, sendable⟩ := (exists_make_operation_iff web plainEnd operation).mp ⟨_, asked⟩
    exact ⟨connected, scheme, headers, sendable⟩
  · rintro ⟨connected, scheme, headers, sendable⟩
    obtain ⟨host, web⟩ := Url.isPlainWeb_of_ofText base scheme
    have plainEnd := Url.hasPlainEnd_of_ofText base scheme
    obtain ⟨request, asked⟩ :=
      (exists_make_operation_iff web plainEnd operation).mpr ⟨headers, sendable⟩
    refine ⟨request, asked, (reaches request.url).mpr ⟨connected, ?_⟩⟩
    rw [url_of_make_operation web plainEnd asked]
    exact scheme_operationTarget web plainEnd operation

/--
A request for an operation that goes over a plain connection is for the host and the port number of
the base, and adds the parameters of the operation to its query.
-/
theorem liesBehind_of_make {request : Request} (made : Router.ofSettings settings = .ok router)
    (asked : Request.make router.settings operation.call.method
      (router.fullUrl operation.call.path) operation.call.options = .ok request)
    (plain : request.url.scheme = Url.httpScheme)
    : LiesBehind router.base operation.call.path.toList operation.call.query.entries
        request.url := by
  obtain ⟨base, rfl, _, _⟩ := Router.ofSettings_eq_ok_iff.mp made
  have scheme := scheme_base_of_make base asked plain
  obtain ⟨host, web⟩ := Url.isPlainWeb_of_ofText base scheme
  have plainEnd := Url.hasPlainEnd_of_ofText base scheme
  rw [url_of_make_operation web plainEnd asked]
  exact liesBehind_endpointTarget plainEnd _ _

end

/--
Over a network without redirects an operation sends one request for its endpoint, if it goes out,
or fails.
-/
theorem exists_sendsOne_perform {settings : RouterSettings} {client : Client}
    (made : Router.ofSettings settings = .ok client.router) (operation : Operation)
    (stays : network.StaysPut)
    : ∃ sent,
        SendsOne network
          (fun request =>
            LiesBehind client.router.base operation.call.path.toList operation.call.query.entries
              request.url)
          (GoesOut network client.router operation.call.path operation.call.query)
          (client.perform operation network) sent := by
  obtain ⟨sent, one⟩ := client.router.exists_sendsOne operation.codec operation.call.method
    operation.call.path operation.call.options stays
  refine ⟨sent, { one with asked := ?_, goes := ?_ }⟩
  · intro request member
    obtain ⟨asked, reached⟩ := one.asked request member
    refine liesBehind_of_make made asked ?_
    simp only [Network.reaches, Bool.and_eq_true, beq_iff_eq] at reached
    exact reached.2
  · exact one.goes.trans (exists_reached_iff_goesOut made operation)

end DiscordRest.Http
