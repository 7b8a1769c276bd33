import DiscordRest.Proofs.Http.Endpoint
import DiscordRest.Proofs.Listing
import DiscordRest.Proofs.Paging.History

/-!
Message histories over the network. A service lists messages with the newest first on either side
of a cursor, and a client takes the last message of a page for the next cursor. Back from a start
the client lists each message once; forward from a start it lists messages again and again.
-/

namespace DiscordRest

open Http Paging

------------------------------------------------------------------------------------------
-- Networks that answer with lists
------------------------------------------------------------------------------------------

/-- Whether an answer is a whole list of some records. -/
def HoldsList {ρ : Type} (codec : Json.Codec ρ) (answer : Option Response) (records : List ρ)
    : Prop :=
  ∃ response, answer = some response ∧ IsWhole codec response records

/-- A whole list comes with a success, which is no redirect. -/
theorem Http.IsWhole.isRedirect_eq_false {ρ : Type} {codec : Json.Codec ρ} {response : Response}
    {records : List ρ} (whole : IsWhole codec response records)
    : response.isRedirect = false := by
  have success := whole.success
  rw [Response.isSuccess, Network.status_fit] at success
  have elsewhere : Http.isRedirect response.status = false := by
    refine Bool.eq_false_iff.mpr fun moved => ?_
    simp only [Http.isRedirect, List.contains_iff_mem, List.mem_cons, List.not_mem_nil,
      or_false] at moved
    rcases moved with same | same | same | same | same
    all_goals
      rw [same] at success
      exact absurd success (by decide)
  rw [Response.isRedirect, elsewhere, Bool.false_and]

theorem staysPut_of_holdsLists {ρ : Type} {codec : Json.Codec ρ} {lists : List (List ρ)}
    {network : Network} (holds : List.Forall₂ (HoldsList codec) network.answers lists)
    : network.StaysPut := by
  obtain ⟨connected, answers, received⟩ := network
  intro response member
  dsimp only at holds member
  induction holds with
  | nil => contradiction
  | cons first _ ih =>
      rcases List.mem_cons.mp member with same | later
      · obtain ⟨found, rfl, whole⟩ := first
        obtain rfl := Option.some.inj same
        exact whole.isRedirect_eq_false
      · exact ih later

namespace Listing

variable {ρ : Type} {listing : Listing ρ} {client : Client} {always : Headers} {url : Url}

/--
A network that answers with whole lists gives these to the requests of a listing, one after
another, and receives the requests, by induction on them.
-/
theorem serve_of_holdsLists (read : Url.ofText (client.router.fullUrl listing.path) = .ok url)
    (hasHost : url.hasHost = true) (plain : url.scheme = Url.httpScheme)
    (headers : Request.headersOf? client.router.settings.headers = some always)
    {requests : List PageRequest}
    (sendable : ∀ page ∈ requests, Request.isSendable (pageTarget url page) = true)
    {lists : List (List ρ)} (many : requests.length = lists.length) {network : Network}
    (connected : network.connected = true)
    (holds : List.Forall₂ (HoldsList listing.codec) network.answers lists)
    (exchanges : List (Exchange ρ))
    : let served := (listing.source client).serve ⟨network, exchanges⟩ requests
      served.answers = exchanges.map Exchange.answer ++ lists.map .ok
      ∧ served.state.received
        = network.received ++ requests.map (pageRequest client.router.settings always url) := by
  induction requests generalizing lists network exchanges with
  | nil =>
      obtain rfl := List.length_eq_zero_iff.mp many.symm
      exact ⟨(List.append_nil _).symm, (List.append_nil _).symm⟩
  | cons page rest ih =>
      obtain ⟨connectedNow, answers, received⟩ := network
      cases holds with
      | nil => contradiction
      | @cons answer records answers lists first later =>
          obtain ⟨response, rfl, whole⟩ := first
          have stays : Network.StaysPut ⟨connectedNow, some response :: answers, received⟩ :=
            staysPut_of_holdsLists (.cons ⟨response, rfl, whole⟩ later)
          have given : pageAnswer listing.codec (pageTarget url page) (some response)
              = .ok records :=
            pageAnswer_eq_ok_iff.mpr ⟨response, rfl, whole⟩
          have reply := Router.requestJson_page listing.codec read hasHost plain headers stays
            connected page
          dsimp only at reply
          rw [if_pos (sendable page List.mem_cons_self)] at reply
          obtain ⟨answer, state⟩ := Prod.mk.inj reply
          let after : Network :=
            ⟨connectedNow, answers,
              received ++ [pageRequest client.router.settings always url page]⟩
          have next : ((listing.source client).recorded
                ⟨⟨connectedNow, some response :: answers, received⟩, exchanges⟩ page).state
              = ⟨after, exchanges ++ [⟨page, .ok records⟩]⟩ := by
            simp only [Source.recorded, source, answer.trans given, state]
            rfl
          have still : after.connected = true := connected
          obtain ⟨others, arrived⟩ := ih
            (fun other among => sendable other (List.mem_cons_of_mem page among))
            (Nat.succ.inj many) still later (exchanges ++ [⟨page, .ok records⟩])
          rw [Source.serve, List.foldl_cons, next]
          refine ⟨others.trans ?_, arrived.trans ?_⟩
          · simp
          · simp [after]

end Listing

------------------------------------------------------------------------------------------
-- Histories
------------------------------------------------------------------------------------------

/--
Whether the answers of a network are pages of a history, one for each of some requests: whole lists
of messages with the identifiers that the request asks for, the newest first.
-/
def Http.Network.TellsHistory (network : Network) (ids : List Snowflake)
    (requests : List PageRequest)
    : Prop :=
  List.Forall₂
    (fun request answer =>
      ∃ messages,
        HoldsList Message.codec answer messages
        ∧ messages.map Message.id = historyPage ids request)
    requests network.answers

theorem Http.Network.TellsHistory.exists_lists {network : Network} {ids : List Snowflake}
    {requests : List PageRequest} (tells : network.TellsHistory ids requests)
    : ∃ lists : List (List Message),
        List.Forall₂ (HoldsList Message.codec) network.answers lists
        ∧ lists.map (List.map Message.id) = requests.map (historyPage ids) := by
  obtain ⟨connected, answers, received⟩ := network
  unfold TellsHistory at tells
  dsimp only at tells ⊢
  induction tells with
  | nil => exact ⟨[], .nil, rfl⟩
  | cons first _ ih =>
      obtain ⟨messages, holds, keys⟩ := first
      obtain ⟨lists, later, rest⟩ := ih
      exact ⟨messages :: lists, .cons holds later, by rw [List.map_cons, keys, rest]; rfl⟩

/-- What a client takes of a history up to its end. -/
structure TakesHistory (client : Client) (channel : Snowflake) (network : Network)
    (ids : List Snowflake) (paginator : Paginator) (messages : List Message)
    (taken : Walk.Taken Network Message)
    : Prop where
  /-- Messages, and no failure. -/
  items : taken.items = messages.map .ok
  /-- The end was seen. -/
  ended : taken.ended = true
  /-- The network received a request for each page and one more. -/
  received
    : ∃ sent,
        taken.state.received = network.received ++ sent
        ∧ sent.map Request.url
          = (paginator.historyRequests ids).map fun page =>
              operationTarget client.router (.messages channel page)
  /-- Nothing is given that does not lie behind the start. -/
  behind : ∀ id ∈ messages.map Message.id, id ∈ paginator.found ids
  /-- Back from the start all messages are given, the newest first. -/
  back : paginator.direction = .before → messages.map Message.id = paginator.found ids
  /-- Forward from the start each message is given on every page that still reaches it. -/
  forth
    : paginator.direction = .after
      → ∀ (place : Nat) (bound : place < (paginator.found ids).length),
          (messages.map Message.id).count (paginator.found ids)[place]
          = min paginator.pageSize.toNat (place + 1)

/--
Over a network that answers with the pages of a history, the newest first on either side of a
cursor, a client lists what lies behind the start and comes to the end without a failure. It gives
each message once where it goes back, where a page has room for one message, or where there is no
more than one; in all other cases it gives messages again.
-/
theorem message_history_complete_iff {settings : RouterSettings} {client : Client}
    {always : Headers} (made : Router.ofSettings settings = .ok client.router)
    (plain : client.router.base.scheme = Url.httpScheme)
    (headers : Request.headersOf? settings.headers = some always) {ids : List Snowflake}
    (ascending : ids.Pairwise (· < ·)) {paginator : Paginator}
    (positive : paginator.pageSize ≠ 0) (channel : Snowflake)
    (sendable : ∀ page ∈ paginator.historyRequests ids,
      Request.isSendable (operationTarget client.router (.messages channel page)) = true)
    {network : Network} (connected : network.connected = true)
    (tells : network.TellsHistory ids (paginator.historyRequests ids))
    : ∃ walk,
        Walk.open? paginator = .ok walk
        ∧ ∀ polls,
            (paginator.historyItems ids).length + 1 < polls
            → ∃ messages,
                TakesHistory client channel network ids paginator messages
                  (walk.take (client.messages channel) Message.id polls network)
                ∧ ((∀ id,
                    (messages.map Message.id).count id
                    = if id ∈ paginator.found ids then 1 else 0)
                  ↔ paginator.direction = .before
                    ∨ paginator.pageSize = 1
                    ∨ (paginator.found ids).length ≤ 1) := by
  obtain ⟨walk, opened⟩ : ∃ walk : Walk Message, Walk.open? paginator = .ok walk :=
    ⟨_, Walk.open?_eq_ok_iff.mpr ⟨positive, rfl⟩⟩
  obtain ⟨baseRead, rfl, _, _⟩ := Router.ofSettings_eq_ok_iff.mp made
  obtain ⟨host, web⟩ := Url.isPlainWeb_of_ofText baseRead plain
  have plainEnd := Url.hasPlainEnd_of_ofText baseRead plain
  let path := (Operation.messagesPath channel).toList
  let url := client.router.base.withEndpoint path
  have there : url.IsPlainWeb host := web.withEndpoint plainEnd path
  have read : Url.ofText (client.router.fullUrl (Listing.messages channel).path) = .ok url :=
    ofText_operation web plainEnd (.messages channel (paginator.request .zero))
  have hasHost : url.hasHost = true := by
    rw [Url.hasHost, there.hasHost]
    exact there.authority.host.isPresent
  have target : ∀ page,
      pageTarget url page = operationTarget client.router (.messages channel page) :=
    fun page => (addQuery_parameters _ page).symm
  obtain ⟨lists, holds, keys⟩ := tells.exists_lists
  have many : (paginator.historyRequests ids).length = lists.length := by
    have counted := congrArg List.length keys
    simpa using counted.symm
  obtain ⟨answers, received⟩ := (Listing.messages channel).serve_of_holdsLists read hasHost
    there.scheme headers (fun page among => target page ▸ sendable page among) many connected
    holds []
  refine ⟨walk, opened, ?_⟩
  intro polls enough
  obtain ⟨items, ended, state, given⟩ := Walk.take_history ascending opened keys answers enough
  refine ⟨lists.flatten, ⟨items, ended, ?_, ?_, ?_, ?_⟩, ?_⟩
  · refine ⟨_, (congrArg Network.received state).trans received, ?_⟩
    rw [List.map_map]
    exact List.map_congr_left fun page _ => target page
  · rw [given]
    exact fun id member => Paginator.mem_of_mem_historyItems member
  · intro backwards
    rw [given, Paginator.historyItems_of_before positive backwards]
  · intro forwards place bound
    rw [given]
    exact Paginator.count_historyItems_of_after positive ascending forwards bound
  · rw [given]
    exact Paginator.history_complete_iff positive ascending

/-- The root of a client that lists messages. -/
def mockRoot : Url :=
  ⟨"http".toList, [], [], some (.name "mock.test".toList), none, .segments ["api".toList], none,
    none⟩

theorem ofText_mockRoot : Url.ofText "http://mock.test/api" = .ok mockRoot := by
  rfl

/-- The answer with a list of messages of a channel. -/
def messageList (ids : List Snowflake) : Response :=
  let message := fun id : Snowflake =>
    "\x7b\"id\": \"" ++ id.text ++ "\", \"channel_id\": \"9\"\x7d"
  ⟨200, [], Text.utf8Bytes ("[" ++ String.intercalate ", " (ids.map message) ++ "]").toList, true⟩

/-- A network that tells the history of two messages in pages of two, forward from the start. -/
def twoMessagesNetwork : Network :=
  ⟨true, [some (messageList [⟨2⟩, ⟨1⟩]), some (messageList [⟨2⟩]), some (messageList [])], []⟩

theorem exists_messageList (ids : List Snowflake)
    (among : ids ∈ [[⟨2⟩, ⟨1⟩], [⟨2⟩], ([] : List Snowflake)])
    : ∃ messages,
        HoldsList Message.codec (some (messageList ids)) messages
        ∧ messages.map Message.id = ids := by
  have read : ∀ ids ∈ [[⟨2⟩, ⟨1⟩], [⟨2⟩], ([] : List Snowflake)],
      (pageAnswer Message.codec mockRoot (some (messageList ids))).toOption.map
        (List.map Message.id) = some ids := by
    decide +kernel
  obtain ⟨messages, given, keys⟩ := Option.map_eq_some_iff.mp (read ids among)
  have whole : pageAnswer Message.codec mockRoot (some (messageList ids)) = .ok messages := by
    cases answered : pageAnswer Message.codec mockRoot (some (messageList ids)) with
    | error failure =>
        rw [answered] at given
        cases given
    | ok found =>
        rw [answered] at given
        rw [Option.some.inj given]
  exact ⟨messages, pageAnswer_eq_ok_iff.mp whole, keys⟩

theorem tellsHistory_twoMessagesNetwork
    : twoMessagesNetwork.TellsHistory [⟨1⟩, ⟨2⟩]
        ((Paginator.after 2).historyRequests [⟨1⟩, ⟨2⟩]) := by
  have requests : (Paginator.after 2).historyRequests [⟨1⟩, ⟨2⟩]
      = [⟨.after, ⟨0⟩, 2⟩, ⟨.after, ⟨1⟩, 2⟩, ⟨.after, ⟨2⟩, 2⟩] := by
    decide +kernel
  rw [requests]
  obtain ⟨both, holdsBoth, bothKeys⟩ := exists_messageList [⟨2⟩, ⟨1⟩] (by simp)
  obtain ⟨newer, holdsNewer, newerKeys⟩ := exists_messageList [⟨2⟩] (by simp)
  obtain ⟨none_left, holdsNone, noKeys⟩ := exists_messageList [] (by simp)
  exact .cons ⟨both, holdsBoth, bothKeys.trans (by decide)⟩
    (.cons ⟨newer, holdsNewer, newerKeys.trans (by decide)⟩
      (.cons ⟨none_left, holdsNone, noKeys.trans (by decide)⟩ .nil))

/-- Two messages are given as three: the newer one is on the first page and on the second one. -/
theorem message_history_complete_iff_of_two
    : let ids : List Snowflake := [⟨1⟩, ⟨2⟩]
      let client := signedClient "http://mock.test/api" mockRoot
      Router.ofSettings client.router.settings = .ok client.router
      ∧ client.router.base.scheme = Url.httpScheme
      ∧ Request.headersOf? client.router.settings.headers = some [⟨"authorization", "token"⟩]
      ∧ ids.Pairwise (· < ·)
      ∧ (Paginator.after 2).pageSize ≠ 0
      ∧ (∀ page ∈ (Paginator.after 2).historyRequests ids,
          Request.isSendable (operationTarget client.router (.messages ⟨9⟩ page)) = true)
      ∧ twoMessagesNetwork.connected = true
      ∧ twoMessagesNetwork.TellsHistory ids ((Paginator.after 2).historyRequests ids)
      ∧ ∃ walk messages,
          Walk.open? (.after 2) = .ok walk
          ∧ TakesHistory client ⟨9⟩ twoMessagesNetwork ids (.after 2) messages
              (walk.take (client.messages ⟨9⟩) Message.id 5 twoMessagesNetwork)
          ∧ ¬∀ id,
              (messages.map Message.id).count id
              = if id ∈ (Paginator.after 2).found ids then 1 else 0 := by
  intro ids client
  have made := ofSettings_signedClient ofText_mockRoot rfl
  have headers := headersOf?_signedClient "http://mock.test/api" mockRoot
  have ascending : ids.Pairwise (· < ·) := by decide
  have positive : (Paginator.after 2).pageSize ≠ 0 := by decide
  have sendable : ∀ page ∈ (Paginator.after 2).historyRequests ids,
      Request.isSendable (operationTarget client.router (.messages ⟨9⟩ page)) = true := by
    decide +kernel
  have tells := tellsHistory_twoMessagesNetwork
  obtain ⟨walk, opened, all⟩ := message_history_complete_iff made rfl headers ascending positive ⟨9⟩
    sendable rfl tells
  have enough : ((Paginator.after 2).historyItems ids).length + 1 < 5 := by decide +kernel
  obtain ⟨messages, takes, complete⟩ := all 5 enough
  have incomplete : ¬((Paginator.after 2).direction = .before ∨ (Paginator.after 2).pageSize = 1
      ∨ ((Paginator.after 2).found ids).length ≤ 1) := by
    decide +kernel
  exact ⟨made, rfl, headers, ascending, positive, sendable, rfl, tells, walk, messages, opened,
    takes, complete.not.mpr incomplete⟩

/-- Not every walk through a history gives each message once: forward, two messages are three. -/
theorem not_forall_message_history_complete
    : ¬∀ (client : Client) (ids : List Snowflake) (paginator : Paginator) (channel : Snowflake)
        (network : Network) (walk : Walk Message) (polls : Nat),
        Router.ofSettings client.router.settings = .ok client.router
        → client.router.base.scheme = Url.httpScheme
        → ids.Pairwise (· < ·)
        → network.connected = true
        → network.TellsHistory ids (paginator.historyRequests ids)
        → Walk.open? paginator = .ok walk
        → let taken := walk.take (client.messages channel) Message.id polls network
          taken.ended = true
        → ∀ id,
            (taken.items.filterMap fun item => item.toOption.map Message.id).count id
            = if id ∈ paginator.found ids then 1 else 0 := by
  intro complete
  let client := signedClient "http://mock.test/api" mockRoot
  have opened : Walk.open? (.after 2)
      = Except.ok (⟨.after 2, .startingAt .zero, []⟩ : Walk Message) := by
    rfl
  have twice := complete client [⟨1⟩, ⟨2⟩] (.after 2) ⟨9⟩ twoMessagesNetwork _ 5
    (ofSettings_signedClient ofText_mockRoot rfl) rfl (by decide) rfl
    tellsHistory_twoMessagesNetwork opened (by decide +kernel) ⟨2⟩
  revert twice
  decide +kernel

end DiscordRest
