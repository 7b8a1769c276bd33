import DiscordRest.Client
import DiscordRest.Proofs.Form
import DiscordRest.Proofs.Http.Credentials
import DiscordRest.Proofs.Url.Endpoint

/-!
Where the requests of operations go. The path of an operation is put behind the text of the base, so
it comes behind the path of the base only where nothing stands behind that: a query or a fragment of
the base takes it up instead.
-/

namespace DiscordRest

open Http

------------------------------------------------------------------------------------------
-- Paths of operations
------------------------------------------------------------------------------------------

/-- The paths of operations are words and identifiers between slashes. -/
theorem Operation.isEndpoint (operation : Operation)
    : Url.IsEndpoint operation.call.path.toList := by
  have digits : ∀ id : Snowflake, id.text.toList.all Url.isEndpointChar = true := by
    intro id
    refine List.all_eq_true.mpr fun c member => ?_
    rw [Snowflake.text, Text.decimal, String.toList_ofList] at member
    exact Text.forall_mem_toDigits (by decide) (by decide) (by decide) member
  constructor
  · refine List.all_eq_true.mp ?_
    cases operation
      <;> simp only [call, get, getPage, currentUserPath, guildPath, membersPath, channelPath,
        messagesPath, String.toList_append, List.all_append, digits]
    all_goals decide
  · cases operation
      <;> simp [call, get, getPage, currentUserPath, guildPath, membersPath, channelPath,
        messagesPath]

namespace Http

variable {settings : RouterSettings} {router : Router} {host : Url.Host} {path : String}

/-- The text of an endpoint's URL is that of the base with the endpoint behind it. -/
theorem Router.toList_fullUrl (relative : isAbsolute path = false)
    (isEndpoint : Url.IsEndpoint path.toList)
    : (router.fullUrl path).toList = Url.trimSlashes router.base.chars ++ '/' :: path.toList := by
  obtain ⟨c, rest, text, other⟩ := isEndpoint.first
  have kept : path.toList.dropWhile (· == '/') = path.toList := by
    rw [text, List.dropWhile_cons_of_neg (by simpa using other)]
  rw [fullUrl, relative, if_neg Bool.false_ne_true, String.toList_ofList, kept, List.append_assoc]
  rfl

theorem pairs_addQuery (url : Url) (added : TextMap)
    : Form.pairs ((Request.addQuery url added).query.getD [])
      = Form.pairs (url.query.getD []) ++ added.entries := by
  unfold Request.addQuery
  split
  · rename_i none_added
    rw [List.isEmpty_iff.mp none_added, List.append_nil]
  · exact Form.pairs_extend _ _

------------------------------------------------------------------------------------------
-- Where requests go
------------------------------------------------------------------------------------------

/-- A URL for an endpoint, from the text of a base with the endpoint behind it. -/
structure LiesBehind (base : Url) (endpoint : List Char) (added : List (String × String))
    (target : Url)
    : Prop where
  host : target.host = base.host
  portNumber : target.portNumber = base.portNumber
  path
    : target.path.text
      = if base.query = none ∧ base.fragment = none then
          Url.trimSlashes base.path.text ++ '/' :: endpoint
        else base.path.text
  query
    : Form.pairs (target.query.getD [])
      = Form.pairs
          ((if base.fragment = none then
            base.query.map fun query => Url.trimSlashes query ++ '/' :: endpoint
          else base.query).getD [])
        ++ added

/-- A URL for an endpoint below the path of a base, with pairs behind those of the base's query. -/
structure LiesBelow (base : Url) (endpoint : List Char) (added : List (String × String))
    (target : Url)
    : Prop where
  host : target.host = base.host
  portNumber : target.portNumber = base.portNumber
  path : target.path.text = Url.trimSlashes base.path.text ++ '/' :: endpoint
  query
    : Form.pairs (target.query.getD []) = Form.pairs (base.query.getD []) ++ added

/-- The URL of an endpoint with pairs added to its query. -/
def endpointTarget (base : Url) (endpoint : List Char) (added : TextMap) : Url :=
  Request.addQuery (bare (base.withEndpoint endpoint)) added

theorem liesBehind_endpointTarget {base : Url} (plain : base.HasPlainEnd) (endpoint : List Char)
    (added : TextMap)
    : LiesBehind base endpoint added.entries (endpointTarget base endpoint added) := by
  constructor
  · rw [endpointTarget, addQuery_eq, bare_eq]
    exact Url.host_withEndpoint base endpoint
  · rw [endpointTarget, addQuery_eq, bare_eq]
    exact Url.portNumber_withEndpoint base endpoint
  · rw [endpointTarget, addQuery_eq, bare_eq]
    dsimp only
    rw [Url.path_withEndpoint]
    split
    · exact Url.text_extend plain.noSlash endpoint
    · rfl
  · rw [endpointTarget, pairs_addQuery, bare_eq]
    dsimp only
    rw [Url.query_withEndpoint]

/-- An endpoint comes below the path of the base where nothing stands behind this path. -/
theorem LiesBehind.below_iff {base target : Url} {endpoint : List Char}
    {added : List (String × String)} (behind : LiesBehind base endpoint added target)
    (isEndpoint : Url.IsEndpoint endpoint)
    : LiesBelow base endpoint added target ↔ base.query = none ∧ base.fragment = none := by
  obtain ⟨host, portNumber, path, query⟩ := behind
  constructor
  · intro below
    by_contra more
    rw [if_neg more] at path
    exact isEndpoint.ne_text _ (path.symm.trans below.path)
  · rintro ⟨noQuery, noFragment⟩
    rw [if_pos ⟨noQuery, noFragment⟩] at path
    rw [if_pos noFragment, noQuery] at query
    exact ⟨host, portNumber, path, by rw [noQuery]; exact query⟩

------------------------------------------------------------------------------------------
-- Requests for operations
------------------------------------------------------------------------------------------

/-- The URL of an operation under a router. -/
def operationTarget (router : Router) (operation : Operation) : Url :=
  endpointTarget router.base operation.call.path.toList operation.call.query

/-- The text that a router makes for an operation is read as the base with the operation's path. -/
theorem ofText_operation (web : router.base.IsPlainWeb host) (plain : router.base.HasPlainEnd)
    (operation : Operation)
    : Url.ofText (router.fullUrl operation.call.path)
      = .ok (router.base.withEndpoint operation.call.path.toList) := by
  have isEndpoint := operation.isEndpoint
  rw [Url.ofText, Router.toList_fullUrl (Router.isAbsolute_operation operation) isEndpoint]
  exact Url.ofChars_withEndpoint web plain isEndpoint

/-- A request for an operation is made where the headers are valid and its URL can be sent. -/
theorem exists_make_operation_iff (web : router.base.IsPlainWeb host)
    (plain : router.base.HasPlainEnd) (operation : Operation)
    : (∃ request,
        Request.make router.settings operation.call.method (router.fullUrl operation.call.path)
          operation.call.options = .ok request)
      ↔ (∃ always, Request.headersOf? router.settings.headers = some always)
        ∧ Request.isSendable (operationTarget router operation) = true := by
  have read := ofText_operation web plain operation
  have there := web.withEndpoint plain operation.call.path.toList
  have hasHost : (router.base.withEndpoint operation.call.path.toList).hasHost = true := by
    rw [Url.hasHost, there.hasHost]
    exact there.authority.host.isPresent
  cases headers : Request.headersOf? router.settings.headers with
  | none =>
      refine iff_of_false ?_ (by simp)
      rintro ⟨request, made⟩
      obtain ⟨_, _, _, _, given, _⟩ := Request.exists_of_make made
      cases headers.symm.trans given
  | some always =>
      have noHeaders : Request.headersOf? operation.call.options.headers = some [] := rfl
      rw [make_of_ofText read hasHost there.scheme headers noHeaders]
      change (∃ request, (if Request.isSendable (operationTarget router operation) then _ else _)
        = Except.ok request) ↔ _
      cases Request.isSendable (operationTarget router operation) <;> simp

theorem url_of_make_operation (web : router.base.IsPlainWeb host)
    (plain : router.base.HasPlainEnd) {operation : Operation} {request : Request}
    (made : Request.make router.settings operation.call.method
      (router.fullUrl operation.call.path) operation.call.options = .ok request)
    : request.url = operationTarget router operation := by
  obtain ⟨url, _, _, read, _, _, target, _⟩ := Request.exists_of_make made
  obtain rfl := Except.ok.inj ((ofText_operation web plain operation).symm.trans read)
  exact target

theorem scheme_operationTarget (web : router.base.IsPlainWeb host)
    (plain : router.base.HasPlainEnd) (operation : Operation)
    : (operationTarget router operation).scheme = Url.httpScheme := by
  have there := web.withEndpoint plain operation.call.path.toList
  rw [operationTarget, endpointTarget, scheme_addQuery, scheme_bare, there.scheme]

/--
The first request of an operation is for the host and the port number of the base. Its path is that
of the base without the slashes at its end, a slash and the path of the operation, and its query
the base's with the parameters of the operation, exactly where the base has neither a query nor a
fragment; otherwise these take up the path of the operation. It is received where the network is
connected, the headers are valid and its URL can be sent.
-/
theorem endpoint_lies_below_base_iff (made : Router.ofSettings settings = .ok router)
    (web : router.base.scheme = Url.httpScheme) (operation : Operation) (network : Network)
    : let endpoint := operation.call.path.toList
      let added := operation.call.query.entries
      ∃ target,
        LiesBehind router.base endpoint added target
        ∧ (LiesBelow router.base endpoint added target
          ↔ router.base.query = none ∧ router.base.fragment = none)
        ∧ ∃ sent,
            (Client.perform ⟨router⟩ operation network).state.received = network.received ++ sent
            ∧ (sent ≠ []
              ↔ network.connected = true
                ∧ (∃ always, Request.headersOf? settings.headers = some always)
                ∧ Request.isSendable target = true)
            ∧ ∀ first, sent.head? = some first → first.url = target := by
  intro endpoint added
  obtain ⟨read, rfl, _, _⟩ := Router.ofSettings_eq_ok_iff.mp made
  obtain ⟨host, isWeb⟩ := Url.isPlainWeb_of_ofText read web
  have plain := Url.hasPlainEnd_of_ofText read web
  have behind := liesBehind_endpointTarget plain endpoint operation.call.query
  obtain ⟨hops, attempt⟩ := router.exists_attempt operation.call.method operation.call.path
    operation.call.options network
  refine ⟨operationTarget router operation, behind, behind.below_iff operation.isEndpoint,
    hops.map Hop.request, attempt.received_requestJson operation.codec, ?_, ?_⟩
  · rw [← exists_make_operation_iff isWeb plain]
    have reaches : network.reaches (operationTarget router operation) = network.connected := by
      rw [Network.reaches, scheme_operationTarget isWeb plain]
      simp [Url.httpScheme]
    constructor
    · intro some_sent
      obtain ⟨first, rest, same⟩ := List.exists_cons_of_ne_nil some_sent
      have isFirst : hops.head?.map Hop.request = some first := by
        rw [← List.head?_map, same]
        rfl
      obtain ⟨asked, reached⟩ := (attempt.first first).mp isFirst
      rw [url_of_make_operation isWeb plain asked, reaches] at reached
      exact ⟨reached, first, asked⟩
    · rintro ⟨connected, request, asked⟩ none_sent
      have reached : network.reaches request.url = true := by
        rw [url_of_make_operation isWeb plain asked, reaches, connected]
      have isFirst := (attempt.first request).mpr ⟨asked, reached⟩
      rw [← List.head?_map, none_sent] at isFirst
      cases isFirst
  · intro first isFirst
    rw [List.head?_map] at isFirst
    exact url_of_make_operation isWeb plain ((attempt.first first).mp isFirst).1

/-- A router for a base with a path, a slash at its end and a port number. -/
def pathedRouter : Router :=
  ⟨{ (default : RouterSettings) with baseUrl := "http://mock.test:8080/api/v10//" },
    ⟨"http".toList, [], [], some (.name "mock.test".toList), some 8080,
      .segments ["api".toList, "v10".toList, [], []], none, none⟩⟩

/-- The members of a guild below a base with a path. -/
theorem endpoint_lies_below_base_iff_of_pathed
    : let operation : Operation := .guildMembers ⟨7⟩ ⟨.after, ⟨5⟩, 2⟩
      let network : Network := ⟨true, [], []⟩
      Router.ofSettings pathedRouter.settings = .ok pathedRouter
      ∧ pathedRouter.base.scheme = Url.httpScheme
      ∧ ∃ first,
          (Client.perform ⟨pathedRouter⟩ operation network).state.received = [first]
          ∧ LiesBelow pathedRouter.base "guilds/7/members".toList [("after", "5"), ("limit", "2")]
            first.url
          ∧ first.url.text = "http://mock.test:8080/api/v10/guilds/7/members?after=5&limit=2" := by
  intro operation network
  have read : Url.ofText pathedRouter.settings.baseUrl = .ok pathedRouter.base := by decide +kernel
  have agent : Header.isValue pathedRouter.settings.userAgent = true := by decide +kernel
  have made := Router.ofSettings_eq_ok_iff.mpr ⟨read, rfl, rfl, agent⟩
  obtain ⟨target, _, below, sent, received, _, leads⟩ :=
    endpoint_lies_below_base_iff made rfl operation network
  have texts : (Client.perform ⟨pathedRouter⟩ operation network).state.received.map
      (fun request => request.url.text)
      = ["http://mock.test:8080/api/v10/guilds/7/members?after=5&limit=2"] := by
    decide +kernel
  obtain ⟨first, all, text⟩ := List.map_eq_singleton_iff.mp texts
  obtain rfl : sent = [first] := (received.symm.trans all : [] ++ sent = [first])
  refine ⟨made, rfl, first, all, ?_, text⟩
  rw [leads first rfl]
  exact below.mpr ⟨rfl, rfl⟩

/-- Not all endpoints come below the path of the base: the base may have a query. -/
theorem not_forall_endpoint_lies_below_base
    : ¬∀ (settings : RouterSettings) (router : Router) (operation : Operation) (network : Network)
        (first : Request) (sent : List Request),
        Router.ofSettings settings = .ok router
        → router.base.scheme = Url.httpScheme
        → (Client.perform ⟨router⟩ operation network).state.received
          = network.received ++ first :: sent
        → LiesBelow router.base operation.call.path.toList operation.call.query.entries
            first.url := by
  intro below
  let router : Router :=
    ⟨{ (default : RouterSettings) with baseUrl := "http://mock.test/api?x=1" },
      ⟨"http".toList, [], [], some (.name "mock.test".toList), none, .segments ["api".toList],
        some "x=1".toList, none⟩⟩
  have texts : (Client.perform ⟨router⟩ .currentUser ⟨true, [], []⟩).state.received.map
      (fun request => request.url.path.text) = ["/api".toList] := by
    decide +kernel
  obtain ⟨first, all, path⟩ := List.map_eq_singleton_iff.mp texts
  have found := (below router.settings router .currentUser ⟨true, [], []⟩ first []
    (by decide +kernel) rfl all).path
  rw [path] at found
  exact absurd found (by decide +kernel)

end Http

end DiscordRest
