import DiscordRest.Proofs.Http.Target
import DiscordRest.Proofs.Json.Whole

/-!
What a router makes of an answer. A request over a network without redirects takes one answer, and
a page of a listing is all of its records or the failure of that answer.
-/

namespace DiscordRest.Http

open Paging

------------------------------------------------------------------------------------------
-- Networks without redirects
------------------------------------------------------------------------------------------

/-- Whether an answer is a redirect: its status asks for one, and it says where to go. -/
def Response.isRedirect (response : Response) : Bool :=
  Http.isRedirect response.status && (response.headers.get? "location").isSome

/-- Whether a network has no redirect among its answers to come. -/
def Network.StaysPut (network : Network) : Prop :=
  ∀ response, some response ∈ network.answers → response.isRedirect = false

/-- An answer that is no redirect sends to no other place. -/
theorem Response.target?_eq_none {response : Response} (stays : response.isRedirect = false)
    (url : Url)
    : response.target? url = none := by
  unfold Response.target?
  split
  · rename_i redirect
    rw [Response.isRedirect, redirect, Bool.true_and] at stays
    rw [Option.isSome_eq_false_iff.mp stays |> Option.isNone_iff_eq_none.mp]
    rfl
  · rfl

/-- A network fits an answer to a method without making a redirect of it. -/
theorem Response.isRedirect_fit (method : String) (response : Response)
    : (Network.fit method response).isRedirect = response.isRedirect := by
  unfold Network.fit
  split <;> rfl

namespace Network

/-- The next answer of a network; none for a connection that is closed without one. -/
def next (network : Network) : Option Response :=
  network.answers.headD (some .exhausted)

/-- A network after a request that got through. -/
def after (network : Network) (request : Request) : Network :=
  ⟨network.connected, network.answers.tail, network.received ++ [request]⟩

/-- A request that gets through takes the next answer. -/
theorem send_of_reaches {network : Network} {request : Request}
    (reached : network.reaches request.url = true)
    : network.send request
      = (network.after request, network.next.map (fit request.method)) := by
  rw [send, if_pos reached, after, next]
  obtain ⟨_, answers, _⟩ := network
  cases answers <;> rfl

/-- An answer that sends nowhere is the last one. -/
theorem exchange_of_answer {network : Network} {request : Request} {response : Response}
    (reached : network.reaches request.url = true) (given : network.next = some response)
    (stays : (fit request.method response).target? request.url = none) (limit : Nat)
    : network.exchange limit request
      = (network.after request, .ok (fit request.method response)) := by
  rw [exchange, send_of_reaches reached, given]
  simp only [Option.map_some, stays]

/-- Without an answer there is none to go on from. -/
theorem exchange_of_silence {network : Network} {request : Request}
    (reached : network.reaches request.url = true) (silent : network.next = none) (limit : Nat)
    : network.exchange limit request
      = (network.after request, .error (.noAnswer request.url)) := by
  rw [exchange, send_of_reaches reached, silent]
  rfl

/-- The next answer of a network without redirects sends nowhere. -/
theorem StaysPut.target?_next {network : Network} (stays : network.StaysPut) {request : Request}
    {response : Response} (given : network.next = some response)
    : (fit request.method response).target? request.url = none := by
  refine Response.target?_eq_none ?_ request.url
  rw [Response.isRedirect_fit]
  obtain ⟨_, answers, _⟩ := network
  cases answers with
  | nil =>
      obtain rfl : Response.exhausted = response := Option.some.inj given
      decide
  | cons first rest =>
      obtain rfl : first = some response := given
      exact stays response List.mem_cons_self

/-- A request over a connected network without redirects takes one answer. -/
theorem exchange_of_staysPut {network : Network} (stays : network.StaysPut)
    (connected : network.connected = true) {request : Request}
    (plain : request.url.scheme = Url.httpScheme) (limit : Nat)
    : network.exchange limit request
      = (network.after request,
          match network.next with
          | none => .error (.noAnswer request.url)
          | some response => .ok (fit request.method response)) := by
  have reached : network.reaches request.url = true := by
    rw [reaches, connected, plain]
    rfl
  cases given : network.next with
  | none => rw [exchange_of_silence reached given]
  | some response => rw [exchange_of_answer reached given (stays.target?_next given)]

end Network

------------------------------------------------------------------------------------------
-- Answers to a page
------------------------------------------------------------------------------------------

/-- The text of the body that comes with an answer; some statuses have none. -/
def bodyText (response : Response) : String :=
  String.ofList (Text.decodeLenient (Network.fit "GET" response).body)

/--
What an answer to the request for a page means. A body that was cut off is a failure, and so is any
status but success; of a success the whole body must be a list of records.
-/
def pageAnswer {ρ : Type} (codec : Json.Codec ρ) (target : Url)
    : Option Response → Except Error (List ρ)
  | none => .error (.http (.noAnswer target))
  | some response =>
    let fitted := Network.fit "GET" response
    if !fitted.complete then .error (.http .truncated)
    else if !fitted.isSuccess then .error (.status fitted.status (bodyText response))
    else Router.decode (.list codec) (bodyText response)

/-- An answer that is a whole list of records: a complete success that holds them all. -/
structure IsWhole {ρ : Type} (codec : Json.Codec ρ) (response : Response) (records : List ρ)
    : Prop where
  /-- The status means success. -/
  success : (Network.fit "GET" response).isSuccess = true
  /-- The body arrived as a whole. -/
  complete : (Network.fit "GET" response).complete = true
  /-- The body, or null for an empty one, is an array; its items are the records, in order. -/
  items
    : ∃ start items after,
        Json.Draft.ofText Json.Codec.keepsAll
            (if (bodyText response).isEmpty then "null" else bodyText response).toList
          = .array start items (.ok after)
        ∧ Json.Draft.checkEnd after = .ok ()
        ∧ items.map (codec.ofDraft (Json.Draft.depthLimit - 1)) = records.map Except.ok

/-- An answer is a page exactly where it is a whole list of records. -/
theorem pageAnswer_eq_ok_iff {ρ : Type} {codec : Json.Codec ρ} {target : Url}
    {answer : Option Response} {records : List ρ}
    : pageAnswer codec target answer = .ok records
      ↔ ∃ response, answer = some response ∧ IsWhole codec response records := by
  have decoded : ∀ body,
      Router.decode (.list codec) body = .ok records
      ↔ (Json.Codec.list codec).ofText (if body.isEmpty then "null" else body) = .ok records := by
    intro body
    unfold Router.decode
    cases (Json.Codec.list codec).ofText (if body.isEmpty then "null" else body) with
    | error failure => simp [Except.mapError]
    | ok found => simp [Except.mapError]
  cases answer with
  | none => simp [pageAnswer]
  | some response =>
      have whole := decoded (bodyText response)
      rw [Json.Codec.ofText_list_eq_ok_iff] at whole
      simp only [pageAnswer, Option.some.injEq, exists_eq_left']
      constructor
      · intro page
        split at page
        · contradiction
        split at page
        · contradiction
        · rename_i complete success
          exact {
            success := by simpa using success
            complete := by simpa using complete
            items := whole.mp page
          }
      · rintro ⟨success, complete, items⟩
        rw [complete, success]
        exact whole.mpr items

/-- A router asks for a page once, and gives what the answer means; a URL that cannot be sent is
not asked for. -/
theorem Router.requestJson_page {ρ : Type} {router : Router} (codec : Json.Codec ρ)
    {path : String} {url : Url} {always : Headers} {network : Network}
    (read : Url.ofText (router.fullUrl path) = .ok url) (hasHost : url.hasHost = true)
    (plain : url.scheme = Url.httpScheme)
    (headers : Request.headersOf? router.settings.headers = some always)
    (stays : network.StaysPut) (connected : network.connected = true) (page : PageRequest)
    : let reply := router.requestJson (.list codec) "GET" path (pageOptions page) network
      (reply.answer, reply.state)
        = if Request.isSendable (pageTarget url page) then
            (pageAnswer codec (pageTarget url page) network.next,
              network.after (pageRequest router.settings always url page))
          else
            (.error (.http (.invalidRequest (some (pageTarget url page)))), network) := by
  have made := make_page read hasHost plain headers page
  simp only [requestJson, request, Reply.read]
  cases sendable : Request.isSendable (pageTarget url page) with
  | false =>
      rw [made, sendable]
      rfl
  | true =>
      have scheme : (pageRequest router.settings always url page).url.scheme = Url.httpScheme :=
        (scheme_pageTarget url page).trans plain
      rw [made, sendable, if_pos rfl]
      simp only [Network.exchange_of_staysPut stays connected scheme]
      cases network.next with
      | none => rfl
      | some response =>
          have method : (pageRequest router.settings always url page).method = "GET" := rfl
          simp only [Router.read, Response.text, pageAnswer, bodyText, method]
          cases (Network.fit "GET" response).complete with
          | false => rfl
          | true =>
              cases (Network.fit "GET" response).isSuccess <;>
                simp only [if_true, if_false, Bool.not_true, Bool.not_false, Bool.false_eq_true,
                  Except.bind]

end DiscordRest.Http
