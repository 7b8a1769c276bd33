import DiscordRest.Operation
import DiscordRest.Proofs.Http.Attempt
import DiscordRest.Proofs.Keyed

/-!
Where the credentials of a router go. The requests of a call carry them to the host of the base
alone: relative paths lead there, and a redirect to another host leaves them behind for good.
-/

namespace DiscordRest.Http

------------------------------------------------------------------------------------------
-- Hosts
------------------------------------------------------------------------------------------

theorem sameHost_iff {a b : Url}
    : sameHost a b = true ↔ a.host = b.host ∧ a.effectivePort = b.effectivePort := by
  simp [sameHost]

/-- What lies below a URL lies on its host. -/
theorem sameHost_below (url : Url) (rest : List Char) : sameHost url (url.below rest) = true :=
  sameHost_iff.mpr ⟨rfl, rfl⟩

theorem sameHost_bare {base url : Url} : sameHost base (bare url) = sameHost base url := by
  unfold bare
  split <;> rfl

theorem sameHost_addQuery {base url : Url} (pairs : TextMap)
    : sameHost base (Request.addQuery url pairs) = sameHost base url := by
  unfold Request.addQuery
  split <;> rfl

------------------------------------------------------------------------------------------
-- Requests that are made
------------------------------------------------------------------------------------------

namespace Request

variable {settings : RouterSettings} {method fullUrl : String} {options : RequestOptions}

/-- A request that is made is for the URL with its query, and has the headers that are sent. -/
theorem exists_of_make {request : Request}
    (made : make settings method fullUrl options = .ok request)
    : ∃ url always extra,
        Url.ofText fullUrl = .ok url
        ∧ headersOf? settings.headers = some always
        ∧ headersOf? options.headers = some extra
        ∧ request.url = addQuery (bare url) options.query
        ∧ request.headers
          = sentHeaders settings (credentials? url) (always ++ extra) options.body.isSome := by
  unfold make at made
  split at made
  · contradiction
  · rename_i url read
    dsimp only at made
    split at made
    · contradiction
    split at made
    · rename_i always extra given more
      change (if !isFetchable (addQuery (bare url) options.query)
          || !isSendable (addQuery (bare url) options.query) then _ else _) = _ at made
      split at made
      · contradiction
      · obtain rfl := Except.ok.inj made
        exact ⟨url, always, extra, read, given, more, rfl, rfl⟩
    · contradiction

/-- Every header of a map is among the headers that are read from it, its name in lower case. -/
theorem mem_of_headersOf? {map : TextMap} {headers : Headers} (read : headersOf? map = some headers)
    {name value : String} (found : map.get? name = some value)
    : ⟨Header.lowerCase name, value⟩ ∈ headers := by
  have entry := Keyed.mem_of_get? found
  unfold headersOf? at read
  generalize map.entries = entries at read entry
  induction entries generalizing headers with
  | nil => cases entry
  | cons first rest ih =>
      rw [List.mapM_cons] at read
      obtain ⟨header, given, more⟩ := Option.bind_eq_some_iff.mp read
      obtain ⟨others, later, same⟩ := Option.bind_eq_some_iff.mp more
      obtain rfl := Option.some.inj same
      rcases List.mem_cons.mp entry with rfl | further
      · unfold Header.ofTexts? at given
        split at given
        · rw [← Option.some.inj given]
          exact List.mem_cons_self
        · contradiction
      · exact List.mem_cons_of_mem _ (ih later further)

theorem mem_withDefault {given : Headers} {header : Header} (member : header ∈ given)
    (name value : String)
    : header ∈ given.withDefault name value := by
  unfold Headers.withDefault
  split
  · exact member
  · exact List.mem_append_left _ member

/-- Headers that are given are sent. -/
theorem mem_sentHeaders {given : Headers} {header : Header} (member : header ∈ given)
    (credentials : Option (List Char × List Char)) (hasBody : Bool)
    : header ∈ sentHeaders settings credentials given hasBody := by
  have signed : header ∈ credentialsLine credentials ++ given := List.mem_append_right _ member
  apply mem_withDefault
  apply mem_withDefault
  split
  · exact mem_withDefault signed _ _
  · exact signed

end Request

------------------------------------------------------------------------------------------
-- Requests that are sent on
------------------------------------------------------------------------------------------

namespace Request

/-- A request that is for the host of a base, or carries no credentials. -/
def KeepsTo (base : Url) (request : Request) : Prop :=
  sameHost base request.url = true ∨ ∀ header ∈ request.headers, header.name ≠ "authorization"

theorem mem_headers_redirected {request : Request} {status : UInt16} {target : Url}
    {header : Header} (member : header ∈ (request.redirected status target).headers)
    : header.name = "referer"
      ∨ header ∈ request.headers
        ∧ (sameHost request.url target = true ∨ header.name ∉ privateHeaders) := by
  have moved : ∀ {sent : Request}, header ∈ (sent.movedTo target).headers
      → header.name = "referer"
        ∨ header ∈ sent.headers
          ∧ (sameHost sent.url target = true ∨ header.name ∉ privateHeaders) := by
    intro sent inside
    simp only [movedTo, Headers.replace, List.mem_append, List.mem_singleton] at inside
    rcases inside with kept | rfl
    · right
      have before := (List.mem_filter.mp kept).1
      split at before
      · rename_i same
        exact ⟨before, Or.inl same⟩
      · obtain ⟨among, shown⟩ := List.mem_filter.mp before
        exact ⟨among, Or.inr (by simpa using shown)⟩
    · exact Or.inl rfl
  unfold redirected at member
  split at member
  · refine (moved member).imp_right ?_
    rintro ⟨among, allowed⟩
    exact ⟨(List.mem_filter.mp among).1, allowed⟩
  · exact moved member

/-- A redirect leaves the host of the base only without the credentials. -/
theorem KeepsTo.redirected {base : Url} {request : Request} (keeps : request.KeepsTo base)
    (status : UInt16) (target : Url)
    : (request.redirected status target).KeepsTo base := by
  have url : sameHost base (request.redirected status target).url = sameHost base target := rfl
  by_cases home : sameHost base target = true
  · exact Or.inl (url.trans home)
  · right
    intro header member
    rcases mem_headers_redirected member with referer | ⟨among, allowed⟩
    · rw [referer]
      decide
    · rcases keeps with here | unsigned
      · -- From the base's host to another one, private headers are left behind.
        have elsewhere : sameHost request.url target ≠ true := by
          intro same
          obtain ⟨host, port⟩ := sameHost_iff.mp here
          obtain ⟨host', port'⟩ := sameHost_iff.mp same
          exact home (sameHost_iff.mpr ⟨host.trans host', port.trans port'⟩)
        have shown := allowed.resolve_left elsewhere
        rintro same
        rw [same] at shown
        exact shown (by decide)
      · exact unsigned header among

end Request

------------------------------------------------------------------------------------------
-- Calls of a router
------------------------------------------------------------------------------------------

/-- Requests of which the first one is signed, and those that leave the host of a base are not. -/
structure Guards (base : Url) (signature : Header) (sent : List Request) : Prop where
  signed : ∀ first, sent.head? = some first → signature ∈ first.headers
  confined
    : ∀ request ∈ sent, ∀ header ∈ request.headers,
        header.name = "authorization"
        → request.url.host = base.host ∧ request.url.effectivePort = base.effectivePort

namespace Router

variable {router : Router} {method path : String} {options : RequestOptions}

/-- The request for a relative path is for the host of the base. -/
theorem sameHost_of_make {host : Url.Host} (web : router.base.IsPlainWeb host)
    (relative : isAbsolute path = false) {request : Request}
    (made : Request.make router.settings method (router.fullUrl path) options = .ok request)
    : sameHost router.base request.url = true := by
  obtain ⟨rest, read⟩ := ofText_fullUrl web relative
  obtain ⟨url, _, _, found, _, _, target, _⟩ := Request.exists_of_make made
  obtain rfl := Except.ok.inj (read.symm.trans found)
  rw [target, sameHost_addQuery, sameHost_bare]
  exact sameHost_below router.base rest

/-- A request that is made has the headers of the router. -/
theorem mem_headers_of_make {name value : String}
    (given : router.settings.headers.get? name = some value) {url : String} {request : Request}
    (made : Request.make router.settings method url options = .ok request)
    : ⟨Header.lowerCase name, value⟩ ∈ request.headers := by
  obtain ⟨_, always, extra, _, read, _, _, headers⟩ := Request.exists_of_make made
  rw [headers]
  apply Request.mem_sentHeaders
  exact List.mem_append_left extra (Request.mem_of_headersOf? read given)

/-- No request of an attempt takes credentials away from the host of the base. -/
theorem Attempt.keepsTo {network : Network} {hops : List Hop} {host : Url.Host}
    (web : router.base.IsPlainWeb host) (relative : isAbsolute path = false)
    (attempt : router.Attempt method path options network hops)
    : ∀ hop ∈ hops, hop.request.KeepsTo router.base := by
  refine attempt.links.induction (fun hop => hop.request.KeepsTo router.base) hops ?_ ?_
  · rintro hop next ⟨response, target, _, _, _, sent⟩ keeps
    rw [sent]
    exact keeps.redirected response.status target
  · intro some_hops
    have isFirst : hops.head?.map Hop.request = some (hops.head some_hops).request := by
      rw [List.head?_eq_some_head some_hops]
      rfl
    exact Or.inl (sameHost_of_make web relative ((attempt.first _).mp isFirst).1)

/-- The path of an operation is no URL of its own. -/
theorem isAbsolute_operation (operation : Operation)
    : isAbsolute operation.call.path = false := by
  apply isAbsolute_eq_false
  cases operation
    <;> simp [Operation.call, Operation.get, Operation.getPage, Operation.currentUserPath,
      Operation.guildPath, Operation.membersPath, Operation.channelPath, Operation.messagesPath]

/--
A router with a plain base sends its credentials with the first request of a call, and never to
another host than that of the base, whatever the answers are. This goes for every relative path,
as those of all operations are.
-/
theorem authorization_stays_with_host {settings : RouterSettings} {router : Router}
    (made : ofSettings settings = .ok router) (plain : router.base.scheme = Url.httpScheme)
    {name token : String} (authorizes : Header.lowerCase name = "authorization")
    (given : settings.headers.get? name = some ("Bot " ++ token))
    : (∀ method path options network,
        isAbsolute path = false
        → ∃ sent,
            (router.request method path options network).state.received = network.received ++ sent
            ∧ Guards router.base ⟨"authorization", "Bot " ++ token⟩ sent)
      ∧ ∀ operation : Operation, isAbsolute operation.call.path = false := by
  obtain ⟨read, rfl, _, _⟩ := ofSettings_eq_ok_iff.mp made
  obtain ⟨host, web⟩ := Url.isPlainWeb_of_ofText read plain
  refine ⟨?_, isAbsolute_operation⟩
  intro method path options network relative
  obtain ⟨hops, attempt⟩ := router.exists_attempt method path options network
  refine ⟨hops.map Hop.request, by rw [attempt.state], ?_, ?_⟩
  · intro first isFirst
    rw [List.head?_map] at isFirst
    rw [← authorizes]
    exact mem_headers_of_make given ((attempt.first first).mp isFirst).1
  · rintro request sent header member credentials
    obtain ⟨hop, among, rfl⟩ := List.mem_map.mp sent
    rcases attempt.keepsTo web relative hop among with home | unsigned
    · obtain ⟨sameName, samePort⟩ := sameHost_iff.mp home
      exact ⟨sameName.symm, samePort.symm⟩
    · exact absurd credentials (unsigned header member)

/-- A network that sends to another host and back. -/
def detour : Network :=
  let away : Response := ⟨302, [⟨"location", "//other.test/"⟩], [], true⟩
  let back : Response := ⟨307, [⟨"location", "http://mock.test/home"⟩], [], true⟩
  ⟨true, [some away, some back], []⟩

/-- The credentials are gone on the way back. -/
theorem authorization_stays_with_host_of_detour
    : let router := mockRouter (TextMap.empty.put "Authorization" "Bot secret")
      let path := "//@other.test\\users"
      let received := (router.request "GET" path default detour).state.received
      ofSettings router.settings = .ok router
      ∧ router.base.scheme = Url.httpScheme
      ∧ Header.lowerCase "Authorization" = "authorization"
      ∧ router.settings.headers.get? "Authorization" = some ("Bot " ++ "secret")
      ∧ isAbsolute path = false
      ∧ Guards router.base ⟨"authorization", "Bot " ++ "secret"⟩ received
      ∧ received.map (fun request => (request.url.host, request.headers.has "authorization"))
        = [
            (some (.name "mock.test".toList), true),
            (some (.name "other.test".toList), false),
            (some (.name "mock.test".toList), false)
          ] := by
  intro router path received
  have made : ofSettings router.settings = .ok router := by decide +kernel
  have authorizes : Header.lowerCase "Authorization" = "authorization" := by decide +kernel
  have given : router.settings.headers.get? "Authorization" = some ("Bot " ++ "secret") := by
    decide +kernel
  have relative : isAbsolute path = false := by decide +kernel
  obtain ⟨sent, all, guards⟩ :=
    (authorization_stays_with_host made rfl authorizes given).1 "GET" path default detour relative
  obtain rfl : received = sent := all
  exact ⟨made, rfl, authorizes, given, relative, guards, by decide +kernel⟩

end Router

end DiscordRest.Http
