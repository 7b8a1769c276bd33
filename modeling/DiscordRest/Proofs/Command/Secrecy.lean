import DiscordRest.Proofs.Command.Listing
import DiscordRest.Proofs.Http.Redaction
import DiscordRest.Proofs.Paging.Echo

/-!
The token is a secret. Two runs of a command line that differ in the token alone write the same,
report the same, fail in the same way and send the same requests, but for the credentials in their
headers.
-/

namespace DiscordRest

open Http Paging

------------------------------------------------------------------------------------------
-- Settings
------------------------------------------------------------------------------------------

/-- Settings that differ in the token alone; both tokens can be sent, or none of them. -/
structure Settings.Alike (settings other : Settings) : Prop where
  same : other = { settings with token := other.token }
  tokens : settings.token.map Header.isValue = other.token.map Header.isValue

namespace Settings

variable {settings other : Settings}

/-- The settings with a token. -/
def withToken (settings : Settings) (token : String) : Settings :=
  { settings with token := some token }

theorem alike_withToken {token otherToken : String}
    (fit : Header.isValue token = Header.isValue otherToken) (settings : Settings)
    : (settings.withToken token).Alike (settings.withToken otherToken) :=
  ⟨rfl, congrArg some fit⟩

theorem Alike.isSome_token (alike : settings.Alike other)
    : settings.token.isSome = other.token.isSome := by
  simpa using congrArg Option.isSome alike.tokens

/-- The words for settings do not show the token, whatever the order of their headers. -/
theorem Alike.wordsWith (alike : settings.Alike other) (names : List String)
    : settings.wordsWith names = other.wordsWith names := by
  have hidden : (settings.token.map fun _ => "<redacted>")
      = other.token.map fun _ => "<redacted>" := by
    have given := alike.isSome_token
    cases ours : settings.token <;> cases theirs : other.token <;> simp_all
  unfold Settings.wordsWith
  rw [hidden, alike.same]

theorem Alike.words (alike : settings.Alike other) (order : Arrangement)
    : settings.words order = other.words order := by
  have headers : other.headers = settings.headers := by rw [alike.same]
  rw [Settings.words, Settings.words, headers, alike.wordsWith]

/-- The words that there can be for settings, one text for each order of their headers. -/
def Shows (settings : Settings) (text : String) : Prop :=
  ∃ names,
    names.Perm (settings.headers.entries.map Prod.fst)
    ∧ settings.wordsWith names = text

theorem shows_words (settings : Settings) (order : Arrangement)
    : settings.Shows (settings.words order) :=
  ⟨_, order.perm _, rfl⟩

theorem Alike.shows_iff (alike : settings.Alike other) (text : String)
    : settings.Shows text ↔ other.Shows text := by
  have headers : other.headers = settings.headers := by rw [alike.same]
  simp only [Shows, headers, alike.wordsWith]

/-- With at most one header the words do not even depend on the order. -/
theorem Alike.words_of_length_le_one (alike : settings.Alike other)
    (few : settings.headers.entries.length ≤ 1) (order otherOrder : Arrangement)
    : settings.words order = other.words otherOrder := by
  have headers : other.headers = settings.headers := by rw [alike.same]
  have short : (settings.headers.entries.map Prod.fst).length ≤ 1 := by
    rwa [List.length_map]
  rw [Settings.words, Settings.words, headers, order.arrange_of_length_le_one short,
    otherOrder.arrange_of_length_le_one short, alike.wordsWith]

theorem Alike.check (alike : settings.Alike other) : settings.check = other.check := by
  rw [alike.same]
  rfl

/-- A token from the environment comes before those that may differ. -/
theorem Alike.override (alike : settings.Alike other) (lookup : String → Option String)
    : (settings.override lookup).Alike (other.override lookup) := by
  have same := alike.same
  refine ⟨?_, ?_⟩
  · rw [same]
    rfl
  · simp only [Settings.override]
    cases (lookup tokenVariable).filter fun value => !value.isEmpty with
    | some token => rfl
    | none => exact alike.tokens

/-- A value for the credentials can be sent wherever the token can. -/
theorem isValue_authorization (token : String)
    : Header.isValue (authorization token) = Header.isValue token := by
  have start : ("Bot ").toList.all isValueChar = true := by decide
  rw [authorization, Header.isValue, String.toList_append, List.all_append, start]
  rfl

/-- The settings of a router differ in the credentials alone. -/
theorem Alike.router (alike : settings.Alike other) : settings.router.Alike other.router := by
  obtain ⟨baseUrl, token, timeout, userAgent, pageSize, headers⟩ := settings
  obtain ⟨same, tokens⟩ := alike
  rw [same] at tokens ⊢
  generalize other.token = otherToken at tokens
  cases token with
  | none =>
      obtain rfl : otherToken = none := by simpa using tokens.symm
      exact ⟨rfl, rfl, rfl, rfl⟩
  | some token =>
      obtain ⟨value, rfl, fit⟩ : ∃ value,
          otherToken = some value ∧ Header.isValue value = Header.isValue token := by
        simpa using tokens.symm
      apply RouterSettings.alike_withAuthorization
      rw [isValue_authorization, isValue_authorization, fit]

end Settings

------------------------------------------------------------------------------------------
-- Clients
------------------------------------------------------------------------------------------

/-- Clients that differ in the credentials alone. -/
def Client.Alike (client other : Client) : Prop :=
  client.router.Alike other.router

namespace Client

variable {client other : Client}

theorem matches_ofSettings {settings other : Settings} (alike : settings.Alike other)
    : Matches Alike (ofSettings settings) (ofSettings other) :=
  (Router.matches_ofSettings alike.router).map id

/-- Operations give the same by way of clients that differ in the credentials alone. -/
theorem Alike.perform (alike : client.Alike other) (operation : Operation)
    {network otherNetwork : Network} (networks : network.Alike otherNetwork)
    : (client.perform operation network).Alike (other.perform operation otherNetwork) :=
  Router.Alike.requestJson alike operation.codec networks _ _ _

end Client

namespace Command

variable {client other : Client}

------------------------------------------------------------------------------------------
-- Commands
------------------------------------------------------------------------------------------

/-- Outcomes that differ in the credentials alone that the network received. -/
structure Outcome.Alike (outcome other : Outcome) : Prop where
  result : outcome.result = other.result
  sink : outcome.sink = other.sink
  events : outcome.events = other.events
  network : outcome.network.Alike other.network

/-- Sources over the network echo each other where each page is replied to alike. -/
theorem echo_of_replies {ρ : Type} {source otherSource : Source Network ρ}
    (pages : ∀ {network otherNetwork} page,
      network.Alike otherNetwork → (source network page).Alike (otherSource otherNetwork page))
    : Source.Echo Network.Alike source otherSource where
  agree := fun _ _ page networks => ⟨(pages page networks).answer, (pages page networks).state⟩
  events := fun _ _ page networks => (pages page networks).events

theorem gather_of_echo {ρ : Type} {source otherSource : Source Network ρ}
    (echo : Source.Echo Network.Alike source otherSource) (key : ρ → Snowflake)
    (polls : Option Nat) (walk : Walk ρ) (network : Network)
    : Walk.Taken.Alike Network.Alike (gather source key polls walk network)
        (gather otherSource key polls walk network) := by
  cases polls with
  | some count => exact Walk.take_of_echo echo rfl key count walk
  | none => exact Walk.drain_of_echo echo rfl key (network.answers.length + 1) walk

/-- A listing comes out the same over a source that echoes its own. -/
theorem list_of_echo {ρ : Type} (collection : Collection ρ) {source : Source Network ρ}
    (echo : Source.Echo Network.Alike collection.source source) (paginator : Paginator)
    (options : ListingOptions) (surroundings : Surroundings)
    : (list collection paginator options surroundings).Alike
        (list { collection with source } paginator options surroundings) := by
  unfold list
  cases Walk.open? paginator with
  | error error => exact ⟨rfl, rfl, rfl, rfl⟩
  | ok walk =>
      have taken := gather_of_echo echo collection.key
        (polls? (options.maxRecords.map UInt64.toNat) surroundings.sink.room) walk
        surroundings.network
      dsimp only
      rw [taken.items, taken.events]
      exact ⟨rfl, rfl, rfl, taken.state⟩

theorem showUser_alike (clients : client.Alike other) (surroundings : Surroundings)
    : (showUser client surroundings).Alike (showUser other surroundings) := by
  have replies := clients.perform .currentUser (rfl : surroundings.network.Alike _)
  unfold showUser
  dsimp only
  rw [replies.answer, replies.events]
  split
  · exact ⟨rfl, rfl, rfl, replies.state⟩
  · split
    · exact ⟨rfl, rfl, rfl, replies.state⟩
    · exact ⟨rfl, rfl, rfl, replies.state⟩

/-- Clients that differ in the credentials alone perform a command alike, by the commands. -/
theorem perform_alike (clients : client.Alike other) {settings otherSettings : Settings}
    (sizes : settings.pageSize = otherSettings.pageSize) (surroundings : Surroundings)
    (command : Command)
    : (command.perform client settings surroundings).Alike
        (command.perform other otherSettings surroundings) := by
  have size : ∀ options, pageSize settings options = pageSize otherSettings options := by
    intro options
    rw [pageSize, sizes, pageSize]
  cases command with
  | me => exact showUser_alike clients surroundings
  | guilds after options =>
      simp only [perform, size]
      refine list_of_echo ⟨_, _, _, client.guilds⟩ (echo_of_replies ?_) _ options surroundings
      exact fun page networks => clients.perform (.currentUserGuilds page) networks
  | members guild after options =>
      simp only [perform, size]
      refine list_of_echo ⟨_, _, _, client.members guild⟩ (echo_of_replies ?_) _ options surroundings
      exact fun page networks => clients.perform (.guildMembers guild page) networks
  | messages channel before options =>
      simp only [perform, size]
      refine list_of_echo ⟨_, _, _, client.messages channel⟩ (echo_of_replies ?_) _ options
        surroundings
      exact fun page networks => clients.perform (.messages channel page) networks

/-- Performing a command reads neither files nor the environment. -/
theorem perform_with (client : Client) (settings : Settings) (surroundings : Surroundings)
    (readFile : String → Except FileFault (List UInt8)) (lookup : String → Option String)
    (command : Command)
    : command.perform client settings { surroundings with readFile, lookup }
      = command.perform client settings surroundings := by
  cases command <;> rfl

------------------------------------------------------------------------------------------
-- Surroundings
------------------------------------------------------------------------------------------

/-- The surroundings with a token in the environment. -/
def Surroundings.withToken (surroundings : Surroundings) (token : String) : Surroundings :=
  { surroundings with
    lookup := Function.update surroundings.lookup Settings.tokenVariable (some token) }

/-- A file holds settings, which need not be fit for use. -/
def Holds (content : Except FileFault (List UInt8)) (settings : Settings) : Prop :=
  ∃ bytes text,
    content = .ok bytes
    ∧ Text.decodeStrict? bytes = some text
    ∧ Yaml.Document.read (String.ofList text) Settings.reader (.ok default) = .ok settings

/--
Surroundings of a command line that differ in a token alone, which is either in the environment, or
in the file that the command line names.
-/
inductive Twins (commandLine : CommandLine) (token otherToken : String)
    : Surroundings → Surroundings → Prop
  | environment (surroundings : Surroundings) (present : token ≠ "") (otherPresent : otherToken ≠ "")
    : Twins commandLine token otherToken (surroundings.withToken token)
        (surroundings.withToken otherToken)
  | file (surroundings : Surroundings) (path : String) (named : commandLine.config = some path)
    (readFile otherReadFile : String → Except FileFault (List UInt8)) (settings : Settings)
    (holds : Holds (readFile path) (settings.withToken token))
    (otherHolds : Holds (otherReadFile path) (settings.withToken otherToken))
    : Twins commandLine token otherToken { surroundings with readFile }
        { surroundings with readFile := otherReadFile }

/-- A token in the environment is the token of the settings. -/
theorem override_withToken {token : String} (present : token ≠ "") (settings : Settings)
    (surroundings : Surroundings)
    : settings.override (surroundings.withToken token).lookup
      = (settings.override surroundings.lookup).withToken token := by
  have apart : Settings.baseUrlVariable ≠ Settings.tokenVariable := by decide
  simp [Settings.override, Surroundings.withToken, Settings.withToken, Function.update_of_ne apart,
    Option.filter, present]

------------------------------------------------------------------------------------------
-- Settings of a command line
------------------------------------------------------------------------------------------

/-- The settings of a command line before the environment has its say. -/
def loaded (commandLine : CommandLine) (surroundings : Surroundings) : Except Error Settings :=
  match commandLine.config with
  | none => .ok default
  | some path => readSettings path (surroundings.readFile path)

/-- Settings, if they pass the checks. -/
def checked (settings : Settings) : Except Error Settings :=
  settings.check.map fun () => settings

/-- The settings of a command line are loaded, overridden and checked. -/
theorem settings_eq (commandLine : CommandLine) (surroundings : Surroundings)
    : settings commandLine surroundings
      = (loaded commandLine surroundings).bind fun settings =>
          checked (settings.override surroundings.lookup) := by
  unfold settings loaded checked
  cases commandLine.config <;> rfl

theorem matches_checked {settings otherSettings : Settings} (alike : settings.Alike otherSettings)
    : Matches Settings.Alike (checked settings) (checked otherSettings) := by
  unfold checked
  rw [alike.check]
  cases otherSettings.check with
  | error failure => exact .error failure
  | ok => exact .ok alike

theorem readSettings_of_holds {path : String} {content : Except FileFault (List UInt8)}
    {settings : Settings} (holds : Holds content settings)
    : readSettings path content = checked settings := by
  obtain ⟨bytes, text, rfl, decoded, read⟩ := holds
  simp only [readSettings, Except.bind, decoded, Settings.ofYaml, read, checked]

variable {commandLine : CommandLine} {token otherToken : String}
variable {surroundings otherSurroundings : Surroundings}

/-- The settings of a command line differ in the token alone if its surroundings do. -/
theorem Twins.matches_settings
    (twins : Twins commandLine token otherToken surroundings otherSurroundings)
    (fit : Header.isValue token = Header.isValue otherToken)
    : Matches Settings.Alike (settings commandLine surroundings)
        (settings commandLine otherSurroundings) := by
  rw [settings_eq, settings_eq]
  cases twins with
  | environment surroundings present otherPresent =>
      change Matches _ ((loaded commandLine surroundings).bind _)
        ((loaded commandLine surroundings).bind _)
      cases loaded commandLine surroundings with
      | error failure => exact .error failure
      | ok settings =>
          have alike := Settings.alike_withToken fit (settings.override surroundings.lookup)
          rw [← override_withToken present, ← override_withToken otherPresent] at alike
          exact matches_checked alike
  | file surroundings path named readFile otherReadFile settings holds otherHolds =>
      simp only [loaded, named]
      rw [readSettings_of_holds holds, readSettings_of_holds otherHolds]
      refine (matches_checked (Settings.alike_withToken fit settings)).bind ?_
      exact fun alike => matches_checked (alike.override surroundings.lookup)

/-- The router of a command line. -/
def router (commandLine : CommandLine) (surroundings : Surroundings) : Except Error Router :=
  (settings commandLine surroundings).bind fun settings => Router.ofSettings settings.router

theorem Twins.exists_with
    (twins : Twins commandLine token otherToken surroundings otherSurroundings)
    : ∃ readFile lookup, otherSurroundings = { surroundings with readFile, lookup } := by
  cases twins with
  | environment => exact ⟨_, _, rfl⟩
  | file => exact ⟨_, _, rfl⟩

/-- A run comes out alike in surroundings that differ in the token alone. -/
theorem Twins.run_alike (twins : Twins commandLine token otherToken surroundings otherSurroundings)
    (fit : Header.isValue token = Header.isValue otherToken)
    : (run commandLine surroundings).Alike (run commandLine otherSurroundings) := by
  have settled := twins.matches_settings fit
  obtain ⟨readFile, lookup, rfl⟩ := twins.exists_with
  unfold run
  generalize settings commandLine surroundings = ours at settled
  generalize settings commandLine { surroundings with readFile, lookup } = theirs at settled
  cases settled with
  | error error => exact ⟨rfl, rfl, rfl, rfl⟩
  | @ok settings otherSettings alike =>
      have made := Client.matches_ofSettings alike
      have sizes : settings.pageSize = otherSettings.pageSize := by rw [alike.same]
      dsimp only
      generalize Client.ofSettings settings = client at made
      generalize Client.ofSettings otherSettings = other at made
      cases made with
      | error error => exact ⟨rfl, rfl, rfl, rfl⟩
      | ok clients =>
          dsimp only
          rw [perform_with]
          exact perform_alike clients sizes surroundings commandLine.command

/--
The token shows in nothing but the credentials of requests: two runs of a command line that differ
in the token alone have the same result, write the same lines, report the same events and send the
same requests, the values of their authorization headers aside. Whatever the order in which maps
list their keys, the words for the error, for the events, for the settings and for the router are
the same, as those for any settings with either token are. Where each map has an order of its own,
the words with one token are possible with the other, and equal with at most one header.
-/
theorem token_stays_secret (fit : Header.isValue token = Header.isValue otherToken)
    (twins : Twins commandLine token otherToken surroundings otherSurroundings)
    : let outcome := run commandLine surroundings
      let other := run commandLine otherSurroundings
      outcome.Alike other
      ∧ (∀ order : Arrangement,
          outcome.result.mapError (·.message order) = other.result.mapError (·.message order)
          ∧ outcome.events.map (·.line order) = other.events.map (·.line order)
          ∧ (settings commandLine surroundings).map (·.words order)
            = (settings commandLine otherSurroundings).map (·.words order)
          ∧ ∀ settings : Settings,
              (settings.withToken token).words order = (settings.withToken otherToken).words order)
      ∧ (router commandLine surroundings).map Router.words
        = (router commandLine otherSurroundings).map Router.words
      ∧ ∀ settings : Settings,
          (Router.ofSettings (settings.withToken token).router).map Router.words
            = (Router.ofSettings (settings.withToken otherToken).router).map Router.words
          ∧ (∀ order,
              (settings.withToken otherToken).Shows ((settings.withToken token).words order))
          ∧ (settings.headers.entries.length ≤ 1
            → ∀ order otherOrder,
                (settings.withToken token).words order
                  = (settings.withToken otherToken).words otherOrder) := by
  intro outcome other
  have alike : outcome.Alike other := twins.run_alike fit
  have settled := twins.matches_settings fit
  refine ⟨alike, ?_, ?_, ?_⟩
  · intro order
    refine ⟨?_, ?_, settled.map_eq fun alike => alike.words order, ?_⟩
    · rw [alike.result]
    · rw [alike.events]
    · exact fun settings => (Settings.alike_withToken fit settings).words order
  · have routers := settled.bind fun alike => Router.matches_ofSettings alike.router
    exact routers.map_eq Router.Alike.words
  · intro settings
    have tokens := Settings.alike_withToken fit settings
    refine ⟨(Router.matches_ofSettings tokens.router).map_eq Router.Alike.words, ?_, ?_⟩
    · exact fun order => (tokens.shows_iff _).mp (Settings.shows_words _ order)
    · exact fun few => tokens.words_of_length_le_one few

/-- Files that all hold a token and nothing else. -/
def tokenFiles (token : String) : String → Except FileFault (List UInt8) := fun _ =>
  .ok (Text.utf8Bytes ("token: " ++ token ++ "\n").toList)

/-- Surroundings whose environment names a root, but no token. -/
def unsignedSurroundings : Surroundings :=
  let mock := mockSurroundings [some ⟨404, [], [], true⟩]
  { mock with lookup := Function.update mock.lookup Settings.tokenVariable none }

/-- Surroundings with files that hold a token, and a root in the environment. -/
def filedSurroundings (token : String) : Surroundings :=
  { unsignedSurroundings with readFile := tokenFiles token }

/-- The token is sent, but not seen, whether it comes from the environment or from a file. -/
theorem token_stays_secret_of_environment_and_file
    : Header.isValue "first" = Header.isValue "second"
      ∧ Twins ⟨none, false, .me⟩ "first" "second" (unsignedSurroundings.withToken "first")
          (unsignedSurroundings.withToken "second")
      ∧ (run ⟨none, false, .me⟩ (unsignedSurroundings.withToken "first")).network
        ≠ (run ⟨none, false, .me⟩ (unsignedSurroundings.withToken "second")).network
      ∧ (run ⟨none, false, .me⟩ (unsignedSurroundings.withToken "first")).Alike
          (run ⟨none, false, .me⟩ (unsignedSurroundings.withToken "second"))
      ∧ Twins ⟨some "bot.yaml", false, .me⟩ "first" "second" (filedSurroundings "first")
          (filedSurroundings "second")
      ∧ (run ⟨some "bot.yaml", false, .me⟩ (filedSurroundings "first")).Alike
          (run ⟨some "bot.yaml", false, .me⟩ (filedSurroundings "second")) := by
  have fit : Header.isValue "first" = Header.isValue "second" := by decide
  have environment : Twins ⟨none, false, .me⟩ "first" "second"
      (unsignedSurroundings.withToken "first") (unsignedSurroundings.withToken "second") :=
    .environment _ (by decide) (by decide)
  have holds : Holds (tokenFiles "first" "bot.yaml") ((default : Settings).withToken "first") :=
    ⟨_, "token: first\n".toList, rfl, by decide +kernel, by decide +kernel⟩
  have otherHolds : Holds (tokenFiles "second" "bot.yaml") ((default : Settings).withToken "second") :=
    ⟨_, "token: second\n".toList, rfl, by decide +kernel, by decide +kernel⟩
  have file : Twins ⟨some "bot.yaml", false, .me⟩ "first" "second" (filedSurroundings "first")
      (filedSurroundings "second") :=
    .file _ "bot.yaml" rfl _ _ default holds otherHolds
  refine ⟨fit, environment, ?_, (token_stays_secret fit environment).1, file,
    (token_stays_secret fit file).1⟩
  decide +kernel

end Command

end DiscordRest
