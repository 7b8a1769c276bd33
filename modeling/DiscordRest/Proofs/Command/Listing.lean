import DiscordRest.Command.Run
import DiscordRest.Proofs.Http.Traffic
import DiscordRest.Proofs.Paging.Stream

/-!
Commands that list. Each one writes the records of a stream over the network, which has an end
whatever the network answers: every page costs one of its answers.
-/

namespace DiscordRest.Command

open Http Paging

------------------------------------------------------------------------------------------
-- What is listed
------------------------------------------------------------------------------------------

/-- What a command lists by way of a client: a collection, from where, and with which options. -/
inductive Lists (client : Client) (settings : Settings) (now : Instant)
    : {ρ : Type} → Command → Collection ρ → Paginator → ListingOptions → Prop
  | guilds (after : Option Snowflake) (options : ListingOptions)
    : Lists client settings now (.guilds after options)
        ⟨"guilds", UserGuild.codec, UserGuild.id, client.guilds⟩
        ⟨.after, pageSize settings options, after.getD .zero⟩ options
  | members (guild : Snowflake) (after : Option Snowflake) (options : ListingOptions)
    : Lists client settings now (.members guild after options)
        ⟨"members", Member.codec, Member.id, client.members guild⟩
        ⟨.after, pageSize settings options, after.getD .zero⟩ options
  | messages (channel : Snowflake) (before : Option Snowflake) (options : ListingOptions)
    : Lists client settings now (.messages channel before options)
        ⟨"messages", Message.codec, Message.id, client.messages channel⟩
        ⟨.before, pageSize settings options, before.getD (.ofInstant now)⟩ options

section

variable {ρ : Type} {client : Client} {settings : Settings} {now : Instant} {command : Command}
variable {collection : Collection ρ} {paginator : Paginator} {options : ListingOptions}

/-- Every command but the one that shows the own user lists something. -/
theorem exists_lists (client : Client) (settings : Settings) (now : Instant)
    (listing : command ≠ .me)
    : ∃ (ρ : Type) (collection : Collection ρ) (paginator : Paginator) (options : ListingOptions),
        Lists client settings now command collection paginator options := by
  cases command with
  | me => contradiction
  | guilds after options => exact ⟨_, _, _, _, .guilds after options⟩
  | members guild after options => exact ⟨_, _, _, _, .members guild after options⟩
  | messages channel before options => exact ⟨_, _, _, _, .messages channel before options⟩

theorem Lists.perform_eq {surroundings : Surroundings}
    (lists : Lists client settings surroundings.now command collection paginator options)
    : command.perform client settings surroundings
      = list collection paginator options surroundings := by
  cases lists <;> rfl

/-- What is listed comes through the router of the client. -/
theorem Lists.traffic (lists : Lists client settings now command collection paginator options)
    (network : Network) (page : PageRequest)
    : Traffic network (collection.source network page) := by
  cases lists with
  | guilds => exact client.router.traffic_requestJson (.list UserGuild.codec) _ _ _ network
  | members => exact client.router.traffic_requestJson (.list Member.codec) _ _ _ network
  | messages => exact client.router.traffic_requestJson (.list Message.codec) _ _ _ network

end

theorem settings_with_command (commandLine : CommandLine) (command : Command)
    (surroundings : Surroundings)
    : settings { commandLine with command } surroundings = settings commandLine surroundings :=
  rfl

/--
A command line fails before anything happens, or it is performed by the client it makes; which of
these does not depend on the command.
-/
theorem run_cases (commandLine : CommandLine) (surroundings : Surroundings)
    : (∃ error,
        (∀ command, run { commandLine with command } surroundings = .failure surroundings error)
        ∧ ∀ settings client,
            Command.settings commandLine surroundings = .ok settings
            → Client.ofSettings settings ≠ .ok client)
      ∨ ∃ settings client,
          Command.settings commandLine surroundings = .ok settings
          ∧ Client.ofSettings settings = .ok client
          ∧ ∀ command,
              run { commandLine with command } surroundings
                = command.perform client settings surroundings := by
  cases settled : Command.settings commandLine surroundings with
  | error error =>
      refine Or.inl ⟨error, ?_, ?_⟩
      · intro command
        simp only [run, settings_with_command, settled]
      · intro _ _ same
        cases same
  | ok settings =>
      cases made : Client.ofSettings settings with
      | error error =>
          refine Or.inl ⟨error, ?_, ?_⟩
          · intro command
            simp only [run, settings_with_command, settled, made]
          · intro _ client same other
            obtain rfl := Except.ok.inj same
            rw [made] at other
            cases other
      | ok client =>
          refine Or.inr ⟨settings, client, rfl, made, ?_⟩
          intro command
          simp only [run, settings_with_command, settled, made]

/-- With settings and a client made of them a command line is performed. -/
theorem run_of_ofSettings {commandLine : CommandLine} {surroundings : Surroundings}
    {settings : Settings} {client : Client}
    (settled : Command.settings commandLine surroundings = .ok settings)
    (made : Client.ofSettings settings = .ok client)
    : run commandLine surroundings = commandLine.command.perform client settings surroundings := by
  simp only [run, settled, made]

------------------------------------------------------------------------------------------
-- What is gathered
------------------------------------------------------------------------------------------

/-- The first items of a list, up to a limit if there is one. -/
def upTo {α : Type} (limit : Option Nat) (items : List α) : List α :=
  match limit with
  | none => items
  | some count => items.take count

section

variable {ρ : Type} {source : Source Network ρ} {key : ρ → Snowflake} {network : Network}
variable {walk : Walk ρ}

/-- A walk over a network comes to its end before all answers and one request more are used up. -/
theorem ended_drain (traffic : ∀ network page, Traffic network (source network page))
    : (walk.drain source key (network.answers.length + 1) network).ended = true := by
  refine Walk.ended_drain_of_spends (fun network => network.answers.length) ?_
    (Nat.lt_succ_self network.answers.length)
  intro network request page answer
  exact (traffic network request).spends page.records answer

/-- What is gathered without a limit is the stream, and what one poll more than it has takes. -/
theorem gather_none (traffic : ∀ network page, Traffic network (source network page))
    (key : ρ → Snowflake) (walk : Walk ρ) (network : Network)
    : let gathered := gather source key none walk network
      walk.Streams source key network gathered.items
      ∧ gathered = walk.take source key (gathered.items.length + 1) network :=
  Walk.streams_of_ended_drain (ended_drain traffic)

/-- With a limit the first items of the stream are gathered. -/
theorem items_gather {items : List (Except Error ρ)}
    (traffic : ∀ network page, Traffic network (source network page))
    (streams : walk.Streams source key network items) (limit : Option Nat)
    : (gather source key limit walk network).items = upTo limit items := by
  cases limit with
  | some count => exact streams.taken count
  | none =>
      obtain ⟨whole, _⟩ := gather_none traffic key walk network
      rw [upTo, ← whole.unique streams]

/-- Whatever is gathered, details and warnings alone are reported of it. -/
theorem level_of_mem_gather (traffic : ∀ network page, Traffic network (source network page))
    (limit : Option Nat) {event : Log.Event}
    (reported : event ∈ (gather source key limit walk network).events)
    : event.level = .detail ∨ event.level = .warning := by
  have quiet := fun network page => (traffic network page).quiet
  cases limit with
  | some count => exact Walk.level_of_mem_take quiet reported
  | none =>
      rw [(gather_none traffic key walk network).2] at reported
      exact Walk.level_of_mem_take quiet reported

end

------------------------------------------------------------------------------------------
-- A service to list from
------------------------------------------------------------------------------------------

/-- Surroundings whose environment names a root and a token, with some answers of the network. -/
def mockSurroundings (answers : List (Option Response)) : Surroundings where
  readFile _ := .error .notFound
  lookup name :=
    if name = Settings.baseUrlVariable then some "http://mock.test/api"
    else if name = Settings.tokenVariable then some "token"
    else none
  now := ⟨0, 0⟩
  network := ⟨true, answers, []⟩
  sink := .ofRoom none

/-- The settings that these surroundings lead to. -/
def mockSettings : Settings :=
  { (default : Settings) with token := some "token", baseUrl := "http://mock.test/api" }

/-- The client that these settings make. -/
def mockClient : Client :=
  ⟨⟨mockSettings.router,
    ⟨"http".toList, [], [], some (.name "mock.test".toList), none, .segments ["api".toList], none,
      none⟩⟩⟩

theorem settings_mockSurroundings (verbose : Bool) (command : Command)
    (answers : List (Option Response))
    : settings ⟨none, verbose, command⟩ (mockSurroundings answers) = .ok mockSettings := by
  have root : ("http://mock.test/api" : String).isEmpty = false := by decide
  have token : ("token" : String).isEmpty = false := by decide
  have found : (default : Settings).override (mockSurroundings answers).lookup = mockSettings := by
    simp [Settings.override, mockSurroundings, mockSettings, Settings.baseUrlVariable,
      Settings.tokenVariable, Option.filter, root, token]
  have checked : mockSettings.check = .ok () := by
    rfl
  simp only [settings, bind, Except.bind, found, checked]

theorem ofSettings_mockSettings : Client.ofSettings mockSettings = .ok mockClient := by
  rfl

end DiscordRest.Command
