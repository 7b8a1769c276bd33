import DiscordRest.Proofs.Command.Secrecy
import DiscordRest.Proofs.Paging.Sending
import DiscordRest.Proofs.Settings
import DiscordRest.Proofs.Settings.Yaml

/-!
Which settings count. The command line goes before the environment, the environment before the file
and the file before the defaults. What is not fit is refused before anything is sent, wherever it
comes from; else every request of a listing goes by the settings that count.
-/

namespace DiscordRest.Command

open Http Paging

------------------------------------------------------------------------------------------
-- What a listing asks for
------------------------------------------------------------------------------------------

/-- What a command line asks a listing for. -/
structure Asked where
  /-- The path of the listing. -/
  path : String
  /-- The parameter that carries the cursor. -/
  cursorName : String
  /-- The first cursor. -/
  start : Snowflake
  options : ListingOptions

/-- The parameters of a page: a cursor and how many records the page holds. -/
def Asked.parameters (asked : Asked) (size : UInt32) (cursor : Snowflake) : TextMap :=
  (TextMap.empty.put asked.cursorName cursor.text).put "limit" (Text.decimal size.toNat)

/-- What a command asks for if it lists; messages are listed back from a moment. -/
def asked? (now : Instant) : Command → Option Asked
  | .me => none
  | .guilds after options => some ⟨"users/@me/guilds", "after", after.getD .zero, options⟩
  | .members guild after options =>
    some ⟨"guilds/" ++ guild.text ++ "/members", "after", after.getD .zero, options⟩
  | .messages channel before options =>
    some ⟨"channels/" ++ channel.text ++ "/messages", "before", before.getD (.ofInstant now),
      options⟩

section

variable {ρ : Type} {client : Client} {settings : Settings} {now : Instant} {command : Command}
variable {collection : Collection ρ} {paginator : Paginator} {options : ListingOptions}
variable {asked : Asked}

/-- A listing is paged as it is asked for. -/
theorem Lists.paginator_eq
    (lists : Lists client settings now command collection paginator options)
    (asks : command.asked? now = some asked)
    : options = asked.options
      ∧ paginator.pageSize = asked.options.pageSize.getD settings.pageSize
      ∧ paginator.start = asked.start
      ∧ paginator.direction.name = asked.cursorName := by
  cases lists <;> obtain rfl := Option.some.inj asks <;> exact ⟨rfl, rfl, rfl, rfl⟩

/-- The parameters of a page are its cursor, by the name asked for, and its size. -/
theorem Lists.parameters_request
    (lists : Lists client settings now command collection paginator options)
    (asks : command.asked? now = some asked) (cursor : Snowflake)
    : (paginator.request cursor).parameters
      = asked.parameters (asked.options.pageSize.getD settings.pageSize) cursor := by
  obtain ⟨-, pageSize, -, direction⟩ := lists.paginator_eq asks
  simp only [PageRequest.parameters, Paginator.request, direction, pageSize]
  rfl

/-- These are two: the cursor and the size. -/
theorem Lists.entries_request
    (lists : Lists client settings now command collection paginator options)
    (asks : command.asked? now = some asked) (cursor : Snowflake)
    : (paginator.request cursor).parameters.entries
      = [(asked.cursorName, cursor.text),
          ("limit", Text.decimal (asked.options.pageSize.getD settings.pageSize).toNat)] := by
  obtain ⟨-, pageSize, -, direction⟩ := lists.paginator_eq asks
  rw [entries_parameters, ← pageSize, ← direction]
  rfl

/-- Over a network without redirects each page of a listing takes one request for its path. -/
theorem Lists.calls (lists : Lists client settings now command collection paginator options)
    (asks : command.asked? now = some asked) {routed : RouterSettings}
    (made : Router.ofSettings routed = .ok client.router)
    : collection.source.Calls
        (fun page request =>
          LiesBehind client.router.base asked.path.toList page.parameters.entries request.url)
        (fun network page => GoesOut network client.router asked.path page.parameters) := by
  intro network page stays
  cases lists with
  | guilds =>
      obtain rfl := Option.some.inj asks
      exact exists_sendsOne_perform made (.currentUserGuilds page) stays
  | members guild =>
      obtain rfl := Option.some.inj asks
      exact exists_sendsOne_perform made (.guildMembers guild page) stays
  | messages channel =>
      obtain rfl := Option.some.inj asks
      exact exists_sendsOne_perform made (.messages channel page) stays

end

------------------------------------------------------------------------------------------
-- Which settings count
------------------------------------------------------------------------------------------

/-- The value that counts: that of the first source that gives one, or a fallback. -/
inductive Prevails {α : Type} (fallback : α) : List (α → Prop) → α → Prop
  | fallback : Prevails fallback [] fallback
  | given {source : α → Prop} {later : List (α → Prop)} {value : α} (gives : source value)
    : Prevails fallback (source :: later) value
  | missing {source : α → Prop} {later : List (α → Prop)} {value : α}
    (gives_none : ∀ other, ¬source other) (prevails : Prevails fallback later value)
    : Prevails fallback (source :: later) value

variable {commandLine : CommandLine} {surroundings : Surroundings}

/-- The file of a command line gives a value under a name. -/
def FileGives {α : Type} (commandLine : CommandLine) (surroundings : Surroundings) (name : String)
    (reader : Yaml.Reader α) (value : α) : Prop :=
  ∃ path bytes text document,
    commandLine.config = some path
    ∧ surroundings.readFile path = .ok bytes
    ∧ Text.decodeStrict? bytes = some text
    ∧ Yaml.Document.ofText? text = some document
    ∧ document.Gives name reader value

/-- The environment gives a text for a variable; an empty one is none. -/
def VariableGives (surroundings : Surroundings) (name value : String) : Prop :=
  surroundings.lookup name = some value ∧ value ≠ ""

/-- The root of the service that counts. -/
def BaseUrlCounts (commandLine : CommandLine) (surroundings : Surroundings) : String → Prop :=
  Prevails "https://discord.com/api/v10"
    [VariableGives surroundings "CORDREST_BASE_URL",
      FileGives commandLine surroundings "base_url" Yaml.Reader.text]

/-- The page size that counts for a listing. -/
def PageSizeCounts (commandLine : CommandLine) (surroundings : Surroundings)
    (options : ListingOptions) : UInt32 → Prop :=
  Prevails 100
    [fun size => options.pageSize = some size,
      FileGives commandLine surroundings "page_size" Yaml.Reader.halfWord]

/-- The settings that the file of a command line holds, which are the defaults without a file. -/
inductive FileSettings (commandLine : CommandLine) (surroundings : Surroundings)
    : Settings → Prop
  | defaults (unnamed : commandLine.config = none)
    : FileSettings commandLine surroundings default
  | file {path : String} {bytes : List UInt8} {text : List Char} {settings : Settings}
    (named : commandLine.config = some path) (found : surroundings.readFile path = .ok bytes)
    (decoded : Text.decodeStrict? bytes = some text)
    (accepted : Settings.ofYaml (String.ofList text) = .ok settings)
    : FileSettings commandLine surroundings settings

/-- Settings are loaded just where a file holds them, or none is named and they are the defaults. -/
theorem loaded_eq_ok_iff {file : Settings}
    : loaded commandLine surroundings = .ok file ↔ FileSettings commandLine surroundings file := by
  unfold loaded
  constructor
  · intro read
    split at read
    · rename_i unnamed
      obtain rfl := Except.ok.inj read
      exact .defaults unnamed
    · rename_i path named
      unfold readSettings at read
      cases found : surroundings.readFile path with
      | error fault => simp [found, Except.bind] at read
      | ok bytes =>
          cases decoded : Text.decodeStrict? bytes with
          | none => simp [found, decoded, Except.bind] at read
          | some text =>
              simp only [found, decoded, Except.bind] at read
              exact .file named found decoded read
  · intro holds
    cases holds with
    | defaults unnamed => rw [unnamed]
    | file named found decoded accepted =>
        simp only [named, found, readSettings, Except.bind, decoded, accepted]

/-- The settings of a command line are those of its file with the environment, if they are fit. -/
theorem settings_eq_ok_iff {settings : Settings}
    : Command.settings commandLine surroundings = .ok settings
      ↔ ∃ file,
          FileSettings commandLine surroundings file
          ∧ file.override surroundings.lookup = settings
          ∧ settings.check = .ok () := by
  rw [settings_eq]
  constructor
  · intro settled
    obtain ⟨file, read, fit⟩ := Except.exists_of_bind settled
    obtain ⟨⟨⟩, checked, same⟩ := Except.map_eq_ok_iff.mp fit
    exact ⟨file, loaded_eq_ok_iff.mp read, same, same ▸ checked⟩
  · rintro ⟨file, read, rfl, fit⟩
    rw [loaded_eq_ok_iff.mpr read]
    exact Except.map_eq_ok_iff.mpr ⟨(), fit, rfl⟩

/-- A file gives what its settings hold, or nothing, and then they hold the default. -/
theorem FileSettings.prevails {α : Type} {file : Settings}
    (read : FileSettings commandLine surroundings file) {name : String} {reader : Yaml.Reader α}
    {field : Settings → α}
    (described : ∀ {settings : Settings} {document : Yaml.Document},
      settings.DescribedBy document
      → document.GivesOr name reader (field default) (field settings))
    : Prevails (field default) [FileGives commandLine surroundings name reader] (field file) := by
  cases read with
  | defaults unnamed =>
      refine .missing ?_ .fallback
      rintro other ⟨path, _, _, _, named, _⟩
      cases unnamed.symm.trans named
  | @file path bytes text _ named found decoded accepted =>
      obtain ⟨-, document, parsed, describes⟩ := Settings.describedBy_of_ofYaml accepted
      rw [String.toList_ofList] at parsed
      rcases described describes with given | ⟨absent, same⟩
      · exact .given ⟨path, bytes, text, document, named, found, decoded, parsed, given⟩
      · rw [same]
        refine .missing ?_ .fallback
        rintro other ⟨_, _, _, _, again, reread, redecoded, reparsed, entry, member, isNamed, -⟩
        obtain rfl := Option.some.inj (named.symm.trans again)
        obtain rfl := Except.ok.inj (found.symm.trans reread)
        obtain rfl := Option.some.inj (decoded.symm.trans redecoded)
        obtain rfl := Option.some.inj (parsed.symm.trans reparsed)
        exact absent entry member isNamed

/-- The root that counts is that of the settings with the environment. -/
theorem FileSettings.baseUrlCounts {file : Settings}
    (read : FileSettings commandLine surroundings file)
    : BaseUrlCounts commandLine surroundings (file.override surroundings.lookup).baseUrl := by
  by_cases gives : ∃ url, VariableGives surroundings "CORDREST_BASE_URL" url
  · obtain ⟨url, set, filled⟩ := gives
    have effective : (file.override surroundings.lookup).baseUrl = url := by
      simp [Settings.override, Settings.baseUrlVariable, set, Option.filter, filled]
    rw [effective]
    exact .given ⟨set, filled⟩
  · have absent := not_exists.mp gives
    have effective : (file.override surroundings.lookup).baseUrl = file.baseUrl := by
      cases set : surroundings.lookup "CORDREST_BASE_URL" with
      | none => simp [Settings.override, Settings.baseUrlVariable, set]
      | some url =>
          obtain rfl : url = "" := by_contra fun filled => absent url ⟨set, filled⟩
          simp [Settings.override, Settings.baseUrlVariable, set, Option.filter]
    rw [effective]
    exact .missing absent (read.prevails Settings.DescribedBy.baseUrl)

/-- The page size that counts is the command line's, or else that of the file. -/
theorem FileSettings.pageSizeCounts {file : Settings}
    (read : FileSettings commandLine surroundings file) (options : ListingOptions)
    : PageSizeCounts commandLine surroundings options (options.pageSize.getD file.pageSize) := by
  cases given : options.pageSize with
  | some size => exact .given given
  | none =>
      refine .missing ?_ (read.prevails Settings.DescribedBy.pageSize)
      intro size other
      cases given.symm.trans other

------------------------------------------------------------------------------------------
-- Runs
------------------------------------------------------------------------------------------

section

variable {ρ : Type} {collection : Collection ρ} {paginator : Paginator}

/-- What is gathered is taken, and it is something unless nothing is polled for. -/
theorem exists_take_of_gather {source : Source Network ρ}
    (traffic : ∀ network page, Traffic network (source network page)) (key : ρ → Snowflake)
    (polls : Option Nat) (walk : Walk ρ) (network : Network)
    : ∃ count,
        gather source key polls walk network = walk.take source key count network
        ∧ (count = 0 ↔ polls = some 0) := by
  cases polls with
  | some count => exact ⟨count, rfl, Option.some_inj.symm⟩
  | none => exact ⟨_, (gather_none traffic key walk network).2, by simp⟩

/-- Nothing is polled for only where no record is asked for. -/
theorem polls?_eq_zero_iff {limit : Option UInt64} {room : Option Nat}
    : polls? (limit.map UInt64.toNat) room = some 0 ↔ limit = some 0 := by
  have zero : ∀ count : UInt64, count.toNat = 0 ↔ count = 0 := by
    intro count
    rw [← UInt64.toNat_inj]
    rfl
  cases limit <;> cases room <;> simp [polls?, zero]

/--
A listing sends the requests of its walk, the first one for the page at its start. It sends some
exactly where a record is asked for and the first request goes out; if it does not, the listing
fails.
-/
theorem exists_sends_list {asks : PageRequest → Request → Prop}
    {goes : Network → PageRequest → Prop}
    (traffic : ∀ network page, Traffic network (collection.source network page))
    (calls : collection.source.Calls asks goes) (stays : surroundings.network.StaysPut)
    (positive : paginator.pageSize ≠ 0) (options : ListingOptions)
    : let outcome := list collection paginator options surroundings
      let first := paginator.request paginator.start
      ∃ sent,
        outcome.network.received = surroundings.network.received ++ sent
        ∧ (∀ request ∈ sent, ∃ cursor, asks (paginator.request cursor) request)
        ∧ (∀ request, sent.head? = some request → asks first request)
        ∧ (sent ≠ [] ↔ options.maxRecords ≠ some 0 ∧ goes surroundings.network first)
        ∧ (sent = [] → options.maxRecords ≠ some 0 → ∃ error, outcome.result = .error error) := by
  let walk : Walk ρ := ⟨paginator, .startingAt paginator.start, []⟩
  have opened : Walk.open? paginator = .ok walk := Walk.open?_eq_ok_iff.mpr ⟨positive, rfl⟩
  have moves : ¬walk.Rests := by simp [Walk.Rests, walk, Progress.startingAt]
  obtain ⟨count, gathered, nothing⟩ := exists_take_of_gather traffic collection.key
    (polls? (options.maxRecords.map UInt64.toNat) surroundings.sink.room) walk surroundings.network
  rw [polls?_eq_zero_iff] at nothing
  simp only [list, opened, gathered]
  cases count with
  | zero =>
      have none := nothing.mp rfl
      refine ⟨[], ?_, by simp, by simp, by simp [none], by simp [none]⟩
      exact (List.append_nil _).symm
  | succ count =>
      have some : options.maxRecords ≠ some 0 := fun none =>
        absurd (nothing.mpr none) (Nat.succ_ne_zero count)
      obtain ⟨sent, sends, goesOut, fails⟩ :=
        Walk.exists_sends_of_moves calls stays collection.key moves count
      refine ⟨sent, sends.received, sends.paged, sends.first,
        goesOut.trans (and_iff_right some).symm, ?_⟩
      intro unsent _
      obtain ⟨error, failed⟩ := fails unsent
      rw [failed]
      exact ⟨error, rfl⟩

end

/-- What a run of a listing goes by: settings that are fit wherever they come from, and a client. -/
structure Ready (commandLine : CommandLine) (surroundings : Surroundings)
    (options : ListingOptions) (file : Settings) (client : Client)
    : Prop where
  accepted : FileSettings commandLine surroundings file
  checked : (file.override surroundings.lookup).check = .ok ()
  positive : options.pageSize.getD file.pageSize ≠ 0
  made : Client.ofSettings (file.override surroundings.lookup) = .ok client

/-- A request for a page of a listing: two parameters are added to the query of the root. -/
def AsksPage (base : Url) (asked : Asked) (size : UInt32) (cursor : Snowflake) (request : Request)
    : Prop :=
  LiesBehind base asked.path.toList
    [(asked.cursorName, cursor.text), ("limit", Text.decimal size.toNat)] request.url

/-- With settings and a client the run of a command that lists is the listing. -/
theorem exists_run_eq_list {asked : Asked} {settings : Settings} {client : Client}
    (asks : commandLine.command.asked? surroundings.now = some asked)
    (settled : Command.settings commandLine surroundings = .ok settings)
    (made : Client.ofSettings settings = .ok client)
    : ∃ (ρ : Type) (collection : Collection ρ) (paginator : Paginator),
        Lists client settings surroundings.now commandLine.command collection paginator
          asked.options
        ∧ run commandLine surroundings
          = list collection paginator asked.options surroundings := by
  have listing : commandLine.command ≠ .me := by
    intro shows
    rw [shows] at asks
    cases asks
  obtain ⟨ρ, collection, paginator, options, lists⟩ :=
    exists_lists client settings surroundings.now listing
  obtain rfl := (lists.paginator_eq asks).1
  exact ⟨ρ, collection, paginator, lists,
    (run_of_ofSettings settled made).trans lists.perform_eq⟩

/-- A listing that is not ready is refused, and nothing else happens. -/
theorem exists_refusal_of_unready {asked : Asked}
    (asks : commandLine.command.asked? surroundings.now = some asked)
    (unready : ¬∃ file client, Ready commandLine surroundings asked.options file client)
    : ∃ error, run commandLine surroundings = .failure surroundings error := by
  rcases run_cases commandLine surroundings with
    ⟨error, refused, -⟩ | ⟨settings, client, settled, made, -⟩
  · exact ⟨error, refused commandLine.command⟩
  · obtain ⟨file, accepted, rfl, checked⟩ := settings_eq_ok_iff.mp settled
    obtain ⟨ρ, collection, paginator, lists, same⟩ := exists_run_eq_list asks settled made
    -- All else is fit, so it is the page size that is not.
    have empty : paginator.pageSize = 0 := by
      by_contra positive
      rw [(lists.paginator_eq asks).2.1] at positive
      exact unready ⟨file, client, accepted, checked, positive, made⟩
    refine ⟨.invalidPageSize paginator.pageSize, same.trans ?_⟩
    rw [list, Walk.open?, if_pos empty]

/--
A listing over a network without redirects is refused before anything is written or sent, unless
its file is accepted, the settings with the environment are fit, the page size that counts is not
zero and there is a client. Then all its requests are for the host and the port number of the root
that counts, and add a cursor and the page size that counts to its query; the first cursor is the
one that was asked for. There are requests exactly where a record is asked for and the first one
goes out; a run that is kept from sending any fails.
-/
theorem settings_reach_requests {asked : Asked}
    (asks : commandLine.command.asked? surroundings.now = some asked)
    (stays : surroundings.network.StaysPut)
    : let outcome := run commandLine surroundings
      ((¬∃ file client, Ready commandLine surroundings asked.options file client)
        → ∃ error, outcome = .failure surroundings error)
      ∧ ∀ file client,
          Ready commandLine surroundings asked.options file client
          → ∃ baseUrl base size sent,
              BaseUrlCounts commandLine surroundings baseUrl
              ∧ Url.ofText baseUrl = .ok base
              ∧ client.router.base = base
              ∧ PageSizeCounts commandLine surroundings asked.options size
              ∧ size ≠ 0
              ∧ outcome.network.received = surroundings.network.received ++ sent
              ∧ (∀ request ∈ sent, ∃ cursor, AsksPage base asked size cursor request)
              ∧ (∀ first, sent.head? = some first → AsksPage base asked size asked.start first)
              ∧ (sent ≠ []
                ↔ asked.options.maxRecords ≠ some 0
                  ∧ GoesOut surroundings.network client.router asked.path
                      (asked.parameters size asked.start))
              ∧ (sent = []
                → asked.options.maxRecords ≠ some 0
                → ∃ error, outcome.result = .error error) := by
  intro outcome
  refine ⟨exists_refusal_of_unready asks, ?_⟩
  rintro file client ⟨accepted, checked, positive, made⟩
  have settled := settings_eq_ok_iff.mpr ⟨file, accepted, rfl, checked⟩
  obtain ⟨ρ, collection, paginator, lists, same⟩ := exists_run_eq_list asks settled made
  obtain ⟨-, pageSize, start, -⟩ := lists.paginator_eq asks
  have routed := Settings.ofSettings_router made
  have base := (Router.ofSettings_eq_ok_iff.mp routed).1
  rw [Settings.baseUrl_router] at base
  obtain ⟨sent, received, paged, first, goesOut, unsent⟩ :=
    exists_sends_list lists.traffic (lists.calls asks routed) stays (pageSize.trans_ne positive)
      asked.options
  rw [← same] at received unsent
  rw [start] at first goesOut
  rw [lists.parameters_request asks] at goesOut
  have isPage : ∀ {cursor request},
      LiesBehind client.router.base asked.path.toList
        (paginator.request cursor).parameters.entries request.url
      → AsksPage client.router.base asked (asked.options.pageSize.getD file.pageSize) cursor
          request := by
    intro cursor request behind
    rw [lists.entries_request asks] at behind
    exact behind
  refine ⟨_, client.router.base, _, sent, accepted.baseUrlCounts, base, rfl,
    accepted.pageSizeCounts asked.options, positive, received, ?_, ?_, goesOut, unsent⟩
  · intro request member
    obtain ⟨cursor, behind⟩ := paged request member
    exact ⟨cursor, isPage behind⟩
  · exact fun request isFirst => isPage (first request isFirst)

/-- A file that names a root and a page size. -/
def mockFile : String := "base_url: http://file.test\npage_size: 7\n"

/-- The settings that this file holds. -/
def mockFileSettings : Settings :=
  { (default : Settings) with baseUrl := "http://file.test", pageSize := 7 }

/-- Surroundings with this file, whose environment names another root. -/
def mockFileSurroundings (answers : List (Option Response)) : Surroundings :=
  { mockSurroundings answers with readFile := fun _ => .ok (Text.utf8Bytes mockFile.toList) }

/-- The root of the environment and the page size of the file count. -/
theorem settings_reach_requests_of_mockFile
    : let commandLine : CommandLine := ⟨some "config.yaml", false, .guilds (some ⟨5⟩) ⟨none, none⟩⟩
      let surroundings := mockFileSurroundings [some ⟨200, [], Text.utf8Bytes "[]".toList, true⟩]
      let asked : Asked := ⟨"users/@me/guilds", "after", ⟨5⟩, ⟨none, none⟩⟩
      commandLine.command.asked? surroundings.now = some asked
      ∧ surroundings.network.StaysPut
      ∧ ∃ baseUrl base size request,
          BaseUrlCounts commandLine surroundings baseUrl
          ∧ Url.ofText baseUrl = .ok base
          ∧ PageSizeCounts commandLine surroundings asked.options size
          ∧ (run commandLine surroundings).network.received = [request]
          ∧ AsksPage base asked size ⟨5⟩ request
          ∧ request.url.text = "http://mock.test/api/users/@me/guilds?after=5&limit=7" := by
  intro commandLine surroundings asked
  have stays : surroundings.network.StaysPut := by
    intro response member
    obtain rfl := Option.some.inj (List.mem_singleton.mp member)
    decide
  have ready : Ready commandLine surroundings asked.options mockFileSettings mockClient := by
    have decoded : Text.decodeStrict? (Text.utf8Bytes mockFile.toList) = some mockFile.toList := by
      decide +kernel
    exact {
      accepted := .file rfl rfl decoded (by decide +kernel)
      checked := by decide +kernel
      positive := by decide
      made := by decide +kernel
    }
  have asks : commandLine.command.asked? surroundings.now = some asked := rfl
  obtain ⟨-, runs⟩ := settings_reach_requests asks stays
  obtain ⟨baseUrl, base, size, sent, root, read, -, pageSize, -, received, -, first, -⟩ :=
    runs mockFileSettings mockClient ready
  have texts : (run commandLine surroundings).network.received.map (fun request => request.url.text)
      = ["http://mock.test/api/users/@me/guilds?after=5&limit=7"] := by
    decide +kernel
  obtain ⟨request, one, text⟩ := List.map_eq_singleton_iff.mp texts
  obtain rfl : sent = [request] := (received.symm.trans one : [] ++ sent = [request])
  exact ⟨asks, stays, baseUrl, base, size, request, root, read, pageSize, one, first request rfl,
    text⟩

end DiscordRest.Command
