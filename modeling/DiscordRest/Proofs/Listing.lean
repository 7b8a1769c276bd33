import DiscordRest.Client
import DiscordRest.Proofs.Http.Answer
import DiscordRest.Proofs.Paging.Course
import DiscordRest.Proofs.Paging.Simulation

/-!
Listings over the network. A listing of a client gives what a walk gives through pages in memory
that are read from the answers of the network, one after another; an answer that is no list of
records gives a failure and none of its records.
-/

namespace DiscordRest

open Http Paging

------------------------------------------------------------------------------------------
-- Pages in memory
------------------------------------------------------------------------------------------

namespace Paging.Source

variable {σ ρ : Type}

/-- A source that refuses some requests, without passing them on. -/
def refusing (fits : PageRequest → Bool) (failure : PageRequest → Error) (source : Source σ ρ)
    : Source σ ρ := fun state page =>
  if fits page then source state page else .failure state (failure page)

/-- A source in memory: what each call gives is read from the answer with its number. -/
def ofAnswers (codec : Json.Codec ρ) (target : PageRequest → Url)
    (answers : List (Option Response))
    : Source Nat ρ := fun calls page =>
  ⟨calls + 1, pageAnswer codec (target page) (answers.getD calls (some .exhausted)), []⟩

end Paging.Source

/-- A listing of the service. -/
structure Listing (ρ : Type) where
  path : String
  codec : Json.Codec ρ
  key : ρ → Snowflake

namespace Listing

/-- The guilds of the own user. -/
def guilds : Listing UserGuild :=
  ⟨Operation.currentUserPath ++ "/guilds", UserGuild.codec, UserGuild.id⟩

/-- The members of a guild, by their users. -/
def members (guild : Snowflake) : Listing Member :=
  ⟨Operation.membersPath guild, Member.codec, Member.id⟩

/-- The messages of a channel. -/
def messages (channel : Snowflake) : Listing Message :=
  ⟨Operation.messagesPath channel, Message.codec, Message.id⟩

variable {ρ : Type}

/-- The pages of a listing by way of a client. -/
def source (listing : Listing ρ) (client : Client) : Source Network ρ := fun network page =>
  client.router.requestJson (.list listing.codec) "GET" listing.path (pageOptions page) network

/-- A client lists guilds in this way. -/
theorem source_guilds (client : Client) : guilds.source client = client.guilds :=
  rfl

theorem source_members (client : Client) (guild : Snowflake)
    : (members guild).source client = client.members guild :=
  rfl

theorem source_messages (client : Client) (channel : Snowflake)
    : (messages channel).source client = client.messages channel :=
  rfl

/-- The pages in memory that stand for a listing; a URL that cannot be sent is refused. -/
def inMemory (listing : Listing ρ) (url : Url) (answers : List (Option Response))
    : Source Nat ρ :=
  (Source.ofAnswers listing.codec (pageTarget url) answers).refusing
    (fun page => Request.isSendable (pageTarget url page))
    (fun page => .http (.invalidRequest (some (pageTarget url page))))

------------------------------------------------------------------------------------------
-- The network and the pages in memory
------------------------------------------------------------------------------------------

/-- The requests for those pages that can be asked for. -/
def sent (client : Client) (always : Headers) (url : Url) (pages : List PageRequest)
    : List Request :=
  (pages.filter fun page => Request.isSendable (pageTarget url page)).map
    (pageRequest client.router.settings always url)

/-- A whole list of records is one of the given answers, not what comes behind them. -/
theorem getElem?_of_getD {codec : Json.Codec ρ} {answers : List (Option Response)} {call : Nat}
    {response : Response} {records : List ρ}
    (given : answers.getD call (some .exhausted) = some response)
    (whole : IsWhole codec response records)
    : answers[call]? = some (some response) := by
  rw [List.getD_eq_getElem?_getD] at given
  cases found : answers[call]? with
  | none =>
      -- Behind the last answer there are only failures.
      rw [found] at given
      obtain rfl : Response.exhausted = response := Option.some.inj given
      exact absurd whole.success (by decide)
  | some answer =>
      rw [found] at given
      exact congrArg some given

section

variable {listing : Listing ρ} {url : Url} {answers : List (Option Response)} {calls : Nat}
variable {page : PageRequest}

/-- A page that can be asked for is read from the next answer. -/
theorem inMemory_of_sendable (sendable : Request.isSendable (pageTarget url page) = true)
    : listing.inMemory url answers calls page
      = ⟨calls + 1,
          pageAnswer listing.codec (pageTarget url page) (answers.getD calls (some .exhausted)),
          []⟩ := by
  rw [inMemory, Source.refusing, sendable, if_pos rfl, Source.ofAnswers]

/-- A page that cannot be asked for is refused. -/
theorem inMemory_of_not_sendable (unsendable : Request.isSendable (pageTarget url page) = false)
    : listing.inMemory url answers calls page
      = .failure calls (.http (.invalidRequest (some (pageTarget url page)))) := by
  rw [inMemory, Source.refusing, unsendable, if_neg Bool.false_ne_true]

/-- A page in memory has records exactly where its request can be sent and its answer has them. -/
theorem answer_inMemory_eq_ok_iff {records : List ρ}
    : (listing.inMemory url answers calls page).answer = .ok records
      ↔ Request.isSendable (pageTarget url page) = true
        ∧ ∃ response,
            answers[calls]? = some (some response) ∧ IsWhole listing.codec response records := by
  cases sendable : Request.isSendable (pageTarget url page) with
  | false => simp [inMemory_of_not_sendable sendable, Reply.failure]
  | true =>
      simp only [inMemory_of_sendable sendable, pageAnswer_eq_ok_iff, true_and]
      constructor
      · rintro ⟨response, given, whole⟩
        exact ⟨response, getElem?_of_getD given whole, whole⟩
      · rintro ⟨response, found, whole⟩
        exact ⟨response, by rw [List.getD_eq_getElem?_getD, found]; rfl, whole⟩

end

/--
A network that a client has listed over, beside the pages in memory: each call in memory took the
next answer and sent one request.
-/
structure Follows (listing : Listing ρ) (client : Client) (always : Headers) (url : Url)
    (network now : Network) (memory : Recorded Nat ρ)
    : Prop where
  /-- Hosts can still be reached. -/
  connected : now.connected = true
  /-- The answers of the calls are used up. -/
  answers : now.answers = network.answers.drop memory.state
  /-- The requests for the pages were received. -/
  received : now.received = network.received ++ sent client always url memory.requests
  /-- Each call is one of them. -/
  counted : (sent client always url memory.requests).length = memory.state
  /-- Each page is a whole list of records in an answer of the network. -/
  pages
    : ∀ records,
        Except.ok records ∈ memory.answers
        → ∃ response, some response ∈ network.answers ∧ IsWhole listing.codec response records

variable {listing : Listing ρ} {client : Client} {always : Headers} {url : Url}
variable {network : Network}

/-- Before its first request a network follows the pages in memory. -/
theorem follows_fresh (connected : network.connected = true)
    : listing.Follows client always url network network (.fresh 0) where
  connected := connected
  answers := rfl
  received := (List.append_nil _).symm
  counted := rfl
  pages := by simp [Recorded.fresh, Recorded.answers]

namespace Follows

variable {now : Network} {memory : Recorded Nat ρ} {page : PageRequest}

/-- The next answer of the network is the one with the number of the next call. -/
theorem next_eq (follows : listing.Follows client always url network now memory)
    : now.next = network.answers.getD memory.state (some .exhausted) := by
  rw [Network.next, follows.answers, List.headD_eq_head?_getD, List.head?_drop,
    List.getD_eq_getElem?_getD]

/-- The answers to come are some of the network's. -/
theorem staysPut (follows : listing.Follows client always url network now memory)
    (stays : network.StaysPut)
    : now.StaysPut := by
  intro response member
  rw [follows.answers] at member
  exact stays response (List.mem_of_mem_drop member)

/-- A page that cannot be asked for leaves the network alone. -/
theorem refuse (follows : listing.Follows client always url network now memory)
    (unsendable : Request.isSendable (pageTarget url page) = false) (error : Error)
    : listing.Follows client always url network now
        ⟨memory.state, memory.exchanges ++ [⟨page, .error error⟩]⟩ := by
  have unsent : sent client always url
      (Recorded.requests ⟨memory.state, memory.exchanges ++ [⟨page, .error error⟩]⟩)
      = sent client always url memory.requests := by
    simp [sent, Recorded.requests, List.filter_append, unsendable]
  exact {
    connected := follows.connected
    answers := follows.answers
    received := by rw [unsent, follows.received]
    counted := by rw [unsent, follows.counted]
    pages := by
      intro records member
      refine follows.pages records ?_
      simpa [Recorded.answers] using member
  }

/-- A page that is asked for takes one answer of the network. -/
theorem take (follows : listing.Follows client always url network now memory)
    (sendable : Request.isSendable (pageTarget url page) = true)
    : listing.Follows client always url network
        (now.after (pageRequest client.router.settings always url page))
        ⟨memory.state + 1,
          memory.exchanges
            ++ [⟨page, pageAnswer listing.codec (pageTarget url page) now.next⟩]⟩ := by
  have more : ∀ answer : Except Error (List ρ),
      sent client always url
          (Recorded.requests ⟨memory.state + 1, memory.exchanges ++ [⟨page, answer⟩]⟩)
        = sent client always url memory.requests
          ++ [pageRequest client.router.settings always url page] := by
    intro answer
    simp [sent, Recorded.requests, List.filter_append, sendable]
  exact {
    connected := follows.connected
    answers := by
      rw [Network.after, follows.answers]
      exact List.tail_drop
    received := by
      rw [more, ← List.append_assoc, ← follows.received]
      rfl
    counted := by rw [more, List.length_append, follows.counted, List.length_singleton]
    pages := by
      intro records member
      simp only [Recorded.answers, List.map_append, List.map_singleton, List.mem_append,
        List.mem_singleton] at member
      rcases member with earlier | last
      · exact follows.pages records earlier
      · obtain ⟨response, given, whole⟩ := pageAnswer_eq_ok_iff.mp last.symm
        rw [follows.next_eq] at given
        exact ⟨response, List.mem_of_getElem? (getElem?_of_getD given whole), whole⟩
  }

/-- Where the last call got a page, the last request did, and its answer has the records. -/
theorem last (follows : listing.Follows client always url network now memory)
    {before : Recorded Nat ρ}
    (served : memory = ((listing.inMemory url network.answers).recorded before page).state)
    {records : List ρ}
    (answer : (listing.inMemory url network.answers before.state page).answer = .ok records)
    : ∃ earlier last response,
        now.received = network.received ++ earlier ++ [last]
        ∧ network.answers[earlier.length]? = some (some response)
        ∧ IsWhole listing.codec response records := by
  obtain ⟨sendable, response, found, whole⟩ := answer_inMemory_eq_ok_iff.mp answer
  have requests : sent client always url memory.requests
      = sent client always url before.requests
        ++ [pageRequest client.router.settings always url page] := by
    rw [served]
    simp [sent, Source.recorded, Recorded.requests, List.filter_append, sendable]
  have counted : (sent client always url before.requests).length + 1 = before.state + 1 := by
    have counted := follows.counted
    rw [requests, List.length_append, List.length_singleton] at counted
    rw [counted, served, Source.recorded, inMemory_of_sendable sendable]
  refine ⟨
    sent client always url before.requests,
    pageRequest client.router.settings always url page,
    response,
    ?_,
    ?_,
    whole
  ⟩
  · rw [follows.received, requests, List.append_assoc]
  · rw [Nat.succ.inj counted, found]

end Follows

/-- A page over the network is the page in memory, and the network goes on following it. -/
theorem agree_inMemory (read : Url.ofText (client.router.fullUrl listing.path) = .ok url)
    (hasHost : url.hasHost = true) (plain : url.scheme = Url.httpScheme)
    (headers : Request.headersOf? client.router.settings.headers = some always)
    (stays : network.StaysPut)
    : Source.Agree (listing.Follows client always url network) (listing.source client)
        (listing.inMemory url network.answers).recorded := by
  intro now memory page follows
  have reply := Router.requestJson_page listing.codec read hasHost plain headers
    (follows.staysPut stays) follows.connected page
  dsimp only at reply
  cases sendable : Request.isSendable (pageTarget url page) with
  | false =>
      rw [sendable, if_neg Bool.false_ne_true] at reply
      obtain ⟨answer, state⟩ := Prod.mk.inj reply
      simp only [Source.recorded, inMemory_of_not_sendable sendable, source, answer, state]
      exact ⟨rfl, follows.refuse sendable _⟩
  | true =>
      rw [sendable, if_pos rfl] at reply
      obtain ⟨answer, state⟩ := Prod.mk.inj reply
      have next := follows.take sendable
      rw [follows.next_eq] at answer next
      simp only [Source.recorded, inMemory_of_sendable sendable, source, answer, state]
      exact ⟨trivial, next⟩

------------------------------------------------------------------------------------------
-- Listings over whole runs
------------------------------------------------------------------------------------------

/--
A run over the network beside the run through pages in memory that gives the same: what was asked
for, and what the answers were that records and the end came from.
-/
structure Refines (listing : Listing ρ) (client : Client) (always : Headers) (url : Url)
    (network : Network) (run : Walk.Run Network ρ) (memory : Walk.Run (Recorded Nat ρ) ρ)
    : Prop where
  /-- The requests for the pages were received in order, and no others. -/
  received
    : run.state.received = network.received ++ sent client always url memory.state.requests
  /-- A record that is given comes from an answer that is a whole list of records. -/
  records
    : ∀ record,
        .record record ∈ run.items
        → ∃ response page,
            some response ∈ network.answers ∧ IsWhole listing.codec response page ∧ record ∈ page
  /-- An end without a failure comes from a last answer that is a whole list of no records. -/
  ends
    : .finished ∈ run.items
      → (∀ error, .failure error ∉ run.items)
      → ∃ earlier last response,
          run.state.received = network.received ++ earlier ++ [last]
          ∧ network.answers[earlier.length]? = some (some response)
          ∧ IsWhole listing.codec response []

/-- A source over the network that gives what the answers of the network mean for a listing. -/
def RefinesAnswers (listing : Listing ρ) (source : Source Network ρ) (client : Client)
    (always : Headers) (paginator : Paginator) (network : Network) (polls : Nat)
    : Prop :=
  ∃ url walk,
    Url.ofText (client.router.fullUrl listing.path) = .ok url
    ∧ url.host = client.router.base.host
    ∧ url.portNumber = client.router.base.portNumber
    ∧ Walk.open? paginator = .ok walk
    ∧ (∀ calls page records,
        (listing.inMemory url network.answers calls page).answer = .ok records
        ↔ Request.isSendable (pageTarget url page) = true
          ∧ ∃ response,
              network.answers[calls]? = some (some response)
              ∧ IsWhole listing.codec response records)
    ∧ (walk.run source listing.key polls network).items
      = (walk.run (listing.inMemory url network.answers) listing.key polls 0).items
    ∧ listing.Refines client always url network (walk.run source listing.key polls network)
        (walk.run (listing.inMemory url network.answers).recorded listing.key polls (.fresh 0))

/-- A run is refined by pages in memory where their states follow each other. -/
theorem refines_of_follows {paginator : Paginator} {walk : Walk ρ}
    (opened : Walk.open? paginator = .ok walk) {polls : Nat} {run : Walk.Run Network ρ}
    (items : run.items
      = (walk.run (listing.inMemory url network.answers).recorded listing.key polls
          (.fresh 0)).items)
    (follows : listing.Follows client always url network run.state
      (walk.run (listing.inMemory url network.answers).recorded listing.key polls
        (.fresh 0)).state)
    : listing.Refines client always url network run
        (walk.run (listing.inMemory url network.answers).recorded listing.key polls (.fresh 0)) where
  received := follows.received
  records := by
    intro record member
    rw [items] at member
    obtain ⟨page, answered, inside⟩ := Walk.mem_answer_of_mem_items _ _ _ opened polls member
    obtain ⟨response, given, whole⟩ := follows.pages page answered
    exact ⟨response, page, given, whole, inside⟩
  ends := by
    intro finished unfailed
    rw [items] at finished unfailed
    obtain ⟨pages, past⟩ := Walk.over_of_finished _ _ _ opened polls finished unfailed
    -- The empty page came with the last call, so its request was the last one sent.
    have served := past.served
    rw [Source.serve_requests] at served
    exact follows.last served past.ending

/-- The path of the guilds is no URL of its own. -/
theorem isAbsolute_guilds : Router.isAbsolute guilds.path = false :=
  Router.isAbsolute_eq_false (by decide)

theorem isAbsolute_members (guild : Snowflake)
    : Router.isAbsolute (members guild).path = false := by
  refine Router.isAbsolute_eq_false ?_
  simp [members, Operation.membersPath, Operation.guildPath]

theorem isAbsolute_messages (channel : Snowflake)
    : Router.isAbsolute (messages channel).path = false := by
  refine Router.isAbsolute_eq_false ?_
  simp [messages, Operation.messagesPath, Operation.channelPath]

/-- A listing at a relative path gives what the answers of the network mean. -/
theorem refinesAnswers {settings : RouterSettings}
    (made : Router.ofSettings settings = .ok client.router)
    (plain : client.router.base.scheme = Url.httpScheme)
    (headers : Request.headersOf? settings.headers = some always)
    (relative : Router.isAbsolute listing.path = false) {paginator : Paginator}
    (positive : paginator.pageSize ≠ 0) (connected : network.connected = true)
    (stays : network.StaysPut) (polls : Nat)
    : listing.RefinesAnswers (listing.source client) client always paginator network polls := by
  obtain ⟨read, rfl, _, _⟩ := Router.ofSettings_eq_ok_iff.mp made
  obtain ⟨host, web⟩ := Url.isPlainWeb_of_ofText read plain
  obtain ⟨rest, below⟩ := Router.ofText_fullUrl web relative
  have hasHost : (client.router.base.below rest).hasHost = true := by
    have sameHost : (client.router.base.below rest).host = some host := web.hasHost
    rw [Url.hasHost, sameHost]
    exact web.authority.host.isPresent
  have agree := agree_inMemory below hasHost plain headers stays
  obtain ⟨walk, opened⟩ : ∃ walk : Walk ρ, Walk.open? paginator = .ok walk :=
    ⟨_, Walk.open?_eq_ok_iff.mpr ⟨positive, rfl⟩⟩
  obtain ⟨items, _, follows⟩ := Walk.run_of_agree agree (follows_fresh connected) listing.key polls
    walk
  have unrecorded := Walk.run_recorded (listing.inMemory (client.router.base.below rest)
    network.answers) listing.key polls walk (.fresh 0)
  exact ⟨
    client.router.base.below rest,
    walk,
    below,
    rfl,
    rfl,
    opened,
    fun _ _ _ => answer_inMemory_eq_ok_iff,
    items.trans (congrArg Walk.Run.items unrecorded).symm,
    refines_of_follows opened items follows
  ⟩

end Listing

/--
A client with a plain base and sound headers lists guilds, members and messages over a network
without redirects as the answers of the network mean: each listing gives what its walk gives
through pages in memory that are read from the answers, and asks for these pages only.
-/
theorem listings_refine_answers {settings : RouterSettings} {client : Client} {always : Headers}
    (made : Router.ofSettings settings = .ok client.router)
    (plain : client.router.base.scheme = Url.httpScheme)
    (headers : Request.headersOf? settings.headers = some always)
    {paginator : Paginator} (positive : paginator.pageSize ≠ 0)
    {network : Network} (connected : network.connected = true) (stays : network.StaysPut)
    (polls : Nat)
    : Listing.guilds.RefinesAnswers client.guilds client always paginator network polls
      ∧ (∀ guild,
          (Listing.members guild).RefinesAnswers (client.members guild) client always paginator
            network polls)
      ∧ (∀ channel,
          (Listing.messages channel).RefinesAnswers (client.messages channel) client always
            paginator network polls) := by
  refine ⟨?_, ?_, ?_⟩
  · rw [← Listing.source_guilds]
    exact Listing.guilds.refinesAnswers made plain headers Listing.isAbsolute_guilds positive
      connected stays polls
  · intro guild
    rw [← Listing.source_members]
    exact (Listing.members guild).refinesAnswers made plain headers
      (Listing.isAbsolute_members guild) positive connected stays polls
  · intro channel
    rw [← Listing.source_messages]
    exact (Listing.messages channel).refinesAnswers made plain headers
      (Listing.isAbsolute_messages channel) positive connected stays polls

/-- A client that says who it is, for a root. -/
def signedClient (root : String) (base : Url) : Client :=
  ⟨⟨(⟨root, 30000, .empty, "listing"⟩ : RouterSettings).withAuthorization "token", base⟩⟩

/-- A router is made for the root of a signed client. -/
theorem ofSettings_signedClient {root : String} {base : Url} (read : Url.ofText root = .ok base)
    (fit : base.cannotBeBase = false)
    : Router.ofSettings (signedClient root base).router.settings
      = .ok (signedClient root base).router :=
  have agent : Header.isValue "listing" = true := by decide
  Router.ofSettings_eq_ok_iff.mpr ⟨read, rfl, fit, agent⟩

theorem headersOf?_signedClient (root : String) (base : Url)
    : Request.headersOf? (signedClient root base).router.settings.headers
      = some [⟨"authorization", "token"⟩] := by
  rfl

/-- A network whose only answer is a list of no records. -/
def emptyListNetwork : Network :=
  ⟨true, [some ⟨200, [], Text.utf8Bytes "[]".toList, true⟩], []⟩

theorem staysPut_emptyListNetwork : emptyListNetwork.StaysPut := by
  intro response member
  obtain rfl := Option.some.inj (List.mem_singleton.mp member)
  decide

/-- A client whose only answer is a list of no records, polled twice. -/
theorem listings_refine_answers_of_empty_list
    : let base : Url :=
        ⟨"http".toList, [], [], some (.name "mock.test".toList), none, .segments ["api".toList],
          none, none⟩
      let client := signedClient "http://mock.test/api" base
      Url.ofText "http://mock.test/api" = .ok base
      ∧ Router.ofSettings client.router.settings = .ok client.router
      ∧ client.router.base.scheme = Url.httpScheme
      ∧ Request.headersOf? client.router.settings.headers = some [⟨"authorization", "token"⟩]
      ∧ Client.guildPaginator.pageSize ≠ 0
      ∧ emptyListNetwork.connected = true
      ∧ emptyListNetwork.StaysPut
      ∧ Listing.guilds.RefinesAnswers client.guilds client [⟨"authorization", "token"⟩]
          Client.guildPaginator emptyListNetwork 2 := by
  intro base client
  have read : Url.ofText "http://mock.test/api" = .ok base := by
    rfl
  have made := ofSettings_signedClient read rfl
  have headers := headersOf?_signedClient "http://mock.test/api" base
  have positive : Client.guildPaginator.pageSize ≠ 0 := by decide
  have refines := listings_refine_answers made rfl headers positive rfl staysPut_emptyListNetwork 2
  exact ⟨read, made, rfl, headers, positive, rfl, staysPut_emptyListNetwork, refines.1⟩

/-- A root whose host has braces in its name. -/
def bracedRoot : Url :=
  ⟨"http".toList, [], [], some (.name "a\x7bb\x7d".toList), none, .segments [[]], none, none⟩

/--
A host with braces cannot be asked for anything: the listing fails where the only answer would end
it, so pages that are read from the answers alone do not stand for it.
-/
theorem not_forall_run_ofAnswers
    : ¬∀ (settings : RouterSettings) (client : Client) (always : Headers) (paginator : Paginator)
        (network : Network) (polls : Nat) (url : Url) (walk : Walk UserGuild),
        Router.ofSettings settings = .ok client.router
        → client.router.base.scheme = Url.httpScheme
        → Request.headersOf? settings.headers = some always
        → paginator.pageSize ≠ 0
        → network.connected = true
        → network.StaysPut
        → Url.ofText (client.router.fullUrl Listing.guilds.path) = .ok url
        → Walk.open? paginator = .ok walk
        → (walk.run client.guilds UserGuild.id polls network).items
          = (walk.run (Source.ofAnswers UserGuild.codec (pageTarget url) network.answers)
              UserGuild.id polls 0).items := by
  intro same
  have root : Url.ofText "http://a\x7bb\x7d/" = .ok bracedRoot := by
    rfl
  have made := ofSettings_signedClient root rfl
  have headers := headersOf?_signedClient "http://a\x7bb\x7d/" bracedRoot
  have read : Url.ofText
      ((signedClient "http://a\x7bb\x7d/" bracedRoot).router.fullUrl Listing.guilds.path)
      = .ok { bracedRoot with path := .segments ["users".toList, "@me".toList, "guilds".toList] } := by
    decide +kernel
  have items := same _ _ _ Client.guildPaginator emptyListNetwork 1 _ _ made rfl headers (by decide)
    rfl staysPut_emptyListNetwork read rfl
  have reply := Router.requestJson_page UserGuild.codec read rfl rfl headers
    staysPut_emptyListNetwork rfl (Client.guildPaginator.request .zero)
  dsimp only at reply
  rw [if_neg (by decide +kernel)] at reply
  have failed := (Prod.mk.inj reply).1
  simp only [Walk.run] at items
  rw [Walk.poll_of_failure _ rfl rfl failed, Walk.poll_of_empty _ rfl rfl rfl] at items
  cases items

end DiscordRest
