import DiscordRest.Proofs.Except
import DiscordRest.Proofs.Http.Credentials

/-!
Credentials out of sight. A network does the same with requests that differ in the values of their
authorization headers alone, so routers that differ in these give the same and report the same.
-/

namespace DiscordRest

namespace Http

------------------------------------------------------------------------------------------
-- Hidden values
------------------------------------------------------------------------------------------

/-- The header, without its value if this is the credentials. -/
def Header.redacted (header : Header) : Header :=
  if header.name = "authorization" then { header with value := "" } else header

/-- The headers, without the credentials among their values. -/
def Headers.redacted (headers : Headers) : Headers :=
  headers.map Header.redacted

/-- The request without the credentials in its headers. -/
def Request.redacted (request : Request) : Request :=
  { request with headers := request.headers.redacted }

/-- The network, without the credentials in the requests that it received. -/
def Network.redacted (network : Network) : Network :=
  { network with received := network.received.map Request.redacted }

@[simp]
theorem Header.name_redacted (header : Header) : header.redacted.name = header.name := by
  unfold redacted
  split <;> rfl

theorem Header.redacted_of_ne {header : Header} (other : header.name ≠ "authorization")
    : header.redacted = header :=
  if_neg other

@[simp]
theorem Header.redacted_redacted (header : Header) : header.redacted.redacted = header.redacted := by
  by_cases named : header.name = "authorization" <;> simp [redacted, named]

namespace Headers

variable (headers : Headers)

@[simp]
theorem redacted_redacted : headers.redacted.redacted = headers.redacted := by
  simp [redacted, Function.comp_def]

theorem has_redacted (name : String) : headers.redacted.has name = headers.has name := by
  simp [has, redacted, Function.comp_def]

theorem redacted_without (names : List String)
    : (headers.without names).redacted = headers.redacted.without names := by
  simp [without, redacted, List.filter_map, Function.comp_def]

variable {name : String}

theorem redacted_append (more : Headers)
    : Headers.redacted (headers ++ more) = headers.redacted ++ more.redacted :=
  List.map_append

theorem redacted_append_singleton (other : name ≠ "authorization") (value : String)
    : Headers.redacted (headers ++ [⟨name, value⟩]) = headers.redacted ++ [⟨name, value⟩] := by
  have kept : Header.redacted ⟨name, value⟩ = ⟨name, value⟩ := Header.redacted_of_ne other
  simp [redacted, kept]

theorem redacted_replace (other : name ≠ "authorization") (value : String)
    : (headers.replace name value).redacted = headers.redacted.replace name value := by
  rw [replace, redacted_append_singleton _ other, redacted_without, replace]

theorem redacted_withDefault (other : name ≠ "authorization") (value : String)
    : (headers.withDefault name value).redacted = headers.redacted.withDefault name value := by
  unfold withDefault
  rw [has_redacted]
  split
  · rfl
  · exact redacted_append_singleton headers other value

end Headers

namespace Request

theorem redacted_asGet (request : Request) : request.asGet.redacted = request.redacted.asGet := by
  simp only [asGet, redacted, Headers.redacted_without]

theorem redacted_movedTo (request : Request) (target : Url)
    : (request.movedTo target).redacted = request.redacted.movedTo target := by
  have other : "referer" ≠ "authorization" := by decide
  by_cases same : sameHost request.url target = true
    <;> simp [movedTo, redacted, same, Headers.redacted_replace _ other, Headers.redacted_without]

/-- Where a redirect sends a request, and with what, does not depend on the credentials. -/
theorem redacted_redirected (request : Request) (status : UInt16) (target : Url)
    : (request.redirected status target).redacted = request.redacted.redirected status target := by
  have same : request.redacted.losesBody status = request.losesBody status := rfl
  unfold redirected
  rw [redacted_movedTo, same]
  split
  · rw [redacted_asGet]
  · rfl

end Request

namespace Network

theorem send_redacted (network : Network) (request : Request)
    : network.redacted.send request.redacted
      = ((network.send request).1.redacted, (network.send request).2) := by
  have reaches : network.redacted.reaches request.redacted.url = network.reaches request.url := rfl
  unfold send
  rw [reaches]
  split
  · obtain ⟨_, _ | ⟨answer, answers⟩, _⟩ := network <;> simp [redacted] <;> rfl
  · rfl

/-- An exchange does not depend on the credentials, by induction on the redirects. -/
theorem exchange_redacted (limit : Nat) (network : Network) (request : Request)
    : network.redacted.exchange limit request.redacted
      = ((network.exchange limit request).1.redacted, (network.exchange limit request).2) := by
  induction limit generalizing network request with
  | zero =>
      unfold exchange
      rw [send_redacted]
      obtain ⟨after, _ | response⟩ := network.send request
      · rfl
      · dsimp only [Request.redacted]
        cases response.target? request.url <;> rfl
  | succ limit ih =>
      unfold exchange
      rw [send_redacted]
      obtain ⟨after, _ | response⟩ := network.send request
      · rfl
      · dsimp only [Request.redacted]
        cases moved : response.target? request.url with
        | none => rfl
        | some target =>
            dsimp only
            split
            · rw [← ih, Request.redacted_redirected]
              rfl
            · rfl

end Network

------------------------------------------------------------------------------------------
-- Settings that differ in credentials
------------------------------------------------------------------------------------------

/-- Requests that differ in the credentials alone. -/
def Request.Alike (request other : Request) : Prop :=
  request.redacted = other.redacted

/-- Networks that differ in the credentials alone that they received. -/
def Network.Alike (network other : Network) : Prop :=
  network.redacted = other.redacted

/-- Settings that differ in the credentials alone. -/
structure RouterSettings.Alike (settings other : RouterSettings) : Prop where
  baseUrl : settings.baseUrl = other.baseUrl
  timeout : settings.timeout = other.timeout
  userAgent : settings.userAgent = other.userAgent
  headers
    : (Request.headersOf? settings.headers).map Headers.redacted
      = (Request.headersOf? other.headers).map Headers.redacted

/-- Headers are read entry by entry, and may be redacted on the way. -/
theorem redacted_headersOf? (map : TextMap)
    : (Request.headersOf? map).map Headers.redacted
      = (map.entries.map fun entry =>
          (Header.ofTexts? entry.1 entry.2).map Header.redacted).mapM id := by
  unfold Request.headersOf?
  induction map.entries with
  | nil => rfl
  | cons entry rest ih =>
      rw [List.mapM_cons, List.map_cons, List.mapM_cons, ← ih]
      cases Header.ofTexts? entry.1 entry.2 with
      | none => rfl
      | some header =>
          cases rest.mapM fun entry => Header.ofTexts? entry.1 entry.2 <;> rfl

/-- Credentials are not seen in headers unless one of them cannot be sent and another one can. -/
theorem redacted_headersOf?_put {name value other : String}
    (authorizes : Header.lowerCase name = "authorization")
    (fit : Header.isValue value = Header.isValue other) (map : TextMap)
    : (Request.headersOf? (map.put name value)).map Headers.redacted
      = (Request.headersOf? (map.put name other)).map Headers.redacted := by
  rw [redacted_headersOf?, redacted_headersOf?]
  apply congrArg (List.mapM id)
  apply Keyed.map_put_congr
  simp only [Header.ofTexts?, fit]
  split
  · simp [Header.redacted, authorizes]
  · rfl

/-- Settings with credentials that can be sent alike, or cannot. -/
theorem RouterSettings.alike_withAuthorization {value other : String}
    (fit : Header.isValue value = Header.isValue other) (settings : RouterSettings)
    : (settings.withAuthorization value).Alike (settings.withAuthorization other) where
  baseUrl := rfl
  timeout := rfl
  userAgent := rfl
  headers := redacted_headersOf?_put (by decide) fit settings.headers

namespace Request

variable {settings other : RouterSettings}

/-- What is added to headers does not depend on the credentials among them. -/
theorem redacted_sentHeaders (agents : settings.userAgent = other.userAgent)
    {given otherGiven : Headers} (same : given.redacted = otherGiven.redacted)
    (credentials : Option (List Char × List Char)) (hasBody : Bool)
    : (sentHeaders settings credentials given hasBody).redacted
      = (sentHeaders other credentials otherGiven hasBody).redacted := by
  have agent : "user-agent" ≠ "authorization" := by decide
  have accept : "accept" ≠ "authorization" := by decide
  have type : "content-type" ≠ "authorization" := by decide
  have signed : Headers.redacted (credentialsLine credentials ++ given)
      = Headers.redacted (credentialsLine credentials ++ otherGiven) := by
    rw [Headers.redacted_append, same, ← Headers.redacted_append]
  cases hasBody
    <;> simp [sentHeaders, Headers.redacted_withDefault _ agent,
      Headers.redacted_withDefault _ accept, Headers.redacted_withDefault _ type, signed, agents]

/-- Settings that differ in the credentials alone make requests that do. -/
theorem matches_make (alike : settings.Alike other) (method fullUrl : String)
    (options : RequestOptions)
    : Matches Alike (make settings method fullUrl options) (make other method fullUrl options) := by
  have headers := alike.headers
  unfold make
  cases Url.ofText fullUrl with
  | error => exact .error _
  | ok url =>
      dsimp only
      generalize addQuery (if (credentials? url).isSome then url.withoutUser else url)
        options.query = target
      split
      · exact .error _
      cases always : headersOf? settings.headers with
      | none =>
          have none_too : headersOf? other.headers = none := by
            simpa [always] using headers.symm
          rw [none_too]
          exact .error _
      | some given =>
          obtain ⟨otherGiven, other_always, same⟩ : ∃ otherGiven,
              headersOf? other.headers = some otherGiven ∧ otherGiven.redacted = given.redacted := by
            simpa [always] using headers.symm
          rw [other_always]
          cases headersOf? options.headers with
          | none => exact .error _
          | some extra =>
              dsimp only
              split
              · exact .error _
              · apply Matches.ok
                have extended : Headers.redacted (given ++ extra)
                    = Headers.redacted (otherGiven ++ extra) := by
                  rw [Headers.redacted_append, ← same, ← Headers.redacted_append]
                have sent := redacted_sentHeaders alike.userAgent extended (credentials? url)
                  options.body.isSome
                simp only [Alike, redacted, sent]

end Request

------------------------------------------------------------------------------------------
-- Routers that differ in credentials
------------------------------------------------------------------------------------------

end Http

/-- Replies over a network that differ in the credentials alone that it received. -/
structure Reply.Alike {α : Type} (reply other : Reply Http.Network α) : Prop where
  answer : reply.answer = other.answer
  events : reply.events = other.events
  state : reply.state.Alike other.state

theorem Reply.Alike.read {α β : Type} {reply other : Reply Http.Network α}
    (alike : reply.Alike other) (f : α → Except Error β)
    : (reply.read f).Alike (other.read f) where
  answer := congrArg (Except.bind · f) alike.answer
  events := alike.events
  state := alike.state

namespace Http

/-- Requests that differ in the credentials alone are answered alike. -/
theorem Network.Alike.exchange {network otherNetwork : Network} {request other : Request}
    (networks : network.Alike otherNetwork) (requests : request.Alike other) (limit : Nat)
    : (network.exchange limit request).1.Alike (otherNetwork.exchange limit other).1
      ∧ (network.exchange limit request).2 = (otherNetwork.exchange limit other).2 := by
  have first := network.exchange_redacted limit request
  have second := otherNetwork.exchange_redacted limit other
  rw [networks, requests, second] at first
  obtain ⟨states, answers⟩ := Prod.mk.inj first
  exact ⟨states.symm, answers.symm⟩

/-- Routers that differ in the credentials alone. -/
structure Router.Alike (router other : Router) : Prop where
  base : router.base = other.base
  settings : router.settings.Alike other.settings

namespace Router

/-- Settings that differ in the credentials alone make routers that do. -/
theorem matches_ofSettings {settings other : RouterSettings} (alike : settings.Alike other)
    : Matches Alike (ofSettings settings) (ofSettings other) := by
  unfold ofSettings
  rw [alike.baseUrl, alike.userAgent]
  cases Url.ofText other.baseUrl with
  | error fault => exact .error _
  | ok base =>
      dsimp only
      split
      · exact .error _
      · split
        · exact .ok ⟨rfl, alike⟩
        · exact .error _

variable {router other : Router}

/-- The words for a router do not show the credentials. -/
theorem Alike.words (alike : router.Alike other) : router.words = other.words := by
  unfold Router.words
  rw [alike.settings.baseUrl, alike.settings.timeout, alike.settings.userAgent]

theorem Alike.fullUrl (alike : router.Alike other) (path : String)
    : router.fullUrl path = other.fullUrl path := by
  rw [Router.fullUrl, alike.base, Router.fullUrl]

/-- Routers that differ in the credentials alone give the same, and report the same. -/
theorem Alike.request (alike : router.Alike other) {network otherNetwork : Network}
    (networks : network.Alike otherNetwork) (method path : String) (options : RequestOptions)
    : (router.request method path options network).Alike
        (other.request method path options otherNetwork) := by
  have made := Request.matches_make alike.settings method (router.fullUrl path) options
  generalize ours : Request.make router.settings method (router.fullUrl path) options = result
    at made
  generalize theirs : Request.make other.settings method (router.fullUrl path) options = otherResult
    at made
  rw [alike.fullUrl] at theirs
  cases made with
  | error failure =>
      rw [request_of_unmade ours, request_of_unmade theirs]
      exact ⟨rfl, rfl, networks⟩
  | ok requests =>
      obtain ⟨states, answers⟩ := networks.exchange requests redirectLimit
      rw [request_of_made ours, request_of_made theirs]
      dsimp only
      rw [answers, alike.fullUrl]
      exact ⟨rfl, rfl, states⟩

theorem Alike.requestJson {α : Type} (alike : router.Alike other) (codec : Json.Codec α)
    {network otherNetwork : Network} (networks : network.Alike otherNetwork)
    (method path : String) (options : RequestOptions)
    : (router.requestJson codec method path options network).Alike
        (other.requestJson codec method path options otherNetwork) :=
  (alike.request networks method path options).read (decode codec)

end Router

end Http

end DiscordRest
