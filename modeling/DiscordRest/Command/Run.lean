import DiscordRest.Client
import DiscordRest.Command.Basic
import DiscordRest.Folder

/-!
Running commands. A listing writes one line for each record that comes before the first failure,
and then reports how many there were; nothing more is fetched than the lines need.
-/

namespace DiscordRest.Command

open Http Paging

/-! ### Output -/

/-- An output that takes lines. -/
structure Sink where
  /-- How many lines it still takes; any number if that is missing. -/
  room : Option Nat
  /-- The lines that it took. -/
  lines : List String
  deriving DecidableEq, Repr

namespace Sink

/-- An output that took no line yet. -/
def ofRoom (room : Option Nat) : Sink :=
  ⟨room, []⟩

/-- Why a line could not be written. -/
def full : Error :=
  (Error.inputOutput "sink is full").context "Failed to write output"

/-- Writes a line. -/
def write (sink : Sink) (line : String) : Except Error Sink :=
  match sink.room with
  | none => .ok ⟨none, sink.lines ++ [line]⟩
  | some 0 => .error full
  | some (room + 1) => .ok ⟨some room, sink.lines ++ [line]⟩

/-- All that was written, with a line break behind every line. -/
def text (sink : Sink) : String :=
  String.join (sink.lines.map fun line => line ++ "\n")

end Sink

/-! ### Surroundings and outcomes -/

/-- What a command meets. -/
structure Surroundings where
  /-- Reads the bytes of a file. -/
  readFile : String → Except FileFault (List UInt8)
  /-- Looks up a variable of the environment. -/
  lookup : String → Option String
  /-- The moment of the call. -/
  now : Instant
  /-- The network. -/
  network : Network
  /-- The output. -/
  sink : Sink

/-- How a command ended. -/
structure Outcome where
  /-- Whether it succeeded, or why not. -/
  result : Except Error Unit
  /-- The output. -/
  sink : Sink
  /-- The network. -/
  network : Network
  /-- What was reported. -/
  events : List Log.Event

namespace Outcome

/-- A failure before anything happened. -/
def failure (surroundings : Surroundings) (error : Error) : Outcome :=
  ⟨.error error, surroundings.sink, surroundings.network, []⟩

/-- The exit code of the program. -/
def exitCode (outcome : Outcome) : UInt32 :=
  match outcome.result with
  | .ok () => 0
  | .error _ => 1

/-- What the program shows of the events. -/
def shownEvents (outcome : Outcome) (verbose : Bool) : List Log.Event :=
  outcome.events.filter fun event => event.level.isShown verbose

end Outcome

/-! ### Settings -/

/-- The settings that a file holds. -/
def readSettings (path : String) (content : Except FileFault (List UInt8))
    : Except Error Settings :=
  let text := content.bind fun bytes => match Text.decodeStrict? bytes with
    | some text => .ok text
    | none => .error .notText
  match text with
  | .ok text => Settings.ofYaml (String.ofList text)
  | .error fault =>
    .error (.configuration
      ("Failed to read config file \x27" ++ path ++ "\x27: " ++ fault.message))

/-- The settings for a command line: those of its file, if it names one, and of the environment. -/
def settings (commandLine : CommandLine) (surroundings : Surroundings)
    : Except Error Settings := do
  let settings ← match commandLine.config with
    | none => .ok default
    | some path => readSettings path (surroundings.readFile path)
  let settings := settings.override surroundings.lookup
  settings.check
  .ok settings

/-! ### Listings -/

/--
How many records a listing polls for, if that is limited: no more than it may list, and no more
than the output takes and one that it cannot take.
-/
def polls? (limit room : Option Nat) : Option Nat :=
  match limit, room with
  | none, none => none
  | some limit, none => some limit
  | none, some room => some (room + 1)
  | some limit, some room => some (min limit (room + 1))

/--
What a walk gives up to a limit. Without one it is polled to its end, for which there is one request
for every answer of the network and one that gets none.
-/
def gather {ρ : Type} (source : Source Network ρ) (key : ρ → Snowflake) (polls : Option Nat)
    (walk : Walk ρ) (network : Network) : Walk.Taken Network ρ :=
  match polls with
  | some count => walk.take source key count network
  | none => walk.drain source key (network.answers.length + 1) network

/-- Writes records up to the first failure, after `count` others, and reports how it went. -/
def writeRecords {ρ : Type} (codec : Json.Codec ρ) (what : String)
    : Sink → Nat → List (Except Error ρ) → Except Error Unit × Sink × List Log.Event
  | sink, count, [] => (.ok (), sink, [.listed count what])
  | sink, count, .error error :: _ => (.error error, sink, [.listingFailed what count error])
  | sink, count, .ok record :: rest =>
    match sink.write (codec.text record) with
    | .error error => (.error error, sink, [])
    | .ok sink => writeRecords codec what sink (count + 1) rest

/-- A collection that can be listed. -/
structure Collection (ρ : Type) where
  /-- How reports name the records. -/
  what : String
  /-- How records are written. -/
  codec : Json.Codec ρ
  /-- The key by which the records are paged. -/
  key : ρ → Snowflake
  /-- The pages of records. -/
  source : Source Network ρ

/-- Lists a collection. -/
def list {ρ : Type} (collection : Collection ρ) (paginator : Paginator)
    (options : ListingOptions) (surroundings : Surroundings) : Outcome :=
  match Walk.open? paginator with
  | .error error => .failure surroundings error
  | .ok walk =>
    let polls := polls? (options.maxRecords.map UInt64.toNat) surroundings.sink.room
    let taken := gather collection.source collection.key polls walk surroundings.network
    let (result, sink, events) :=
      writeRecords collection.codec collection.what surroundings.sink 0 taken.items
    ⟨result, sink, taken.state, taken.events ++ events⟩

/-- Shows the own user. -/
def showUser (client : Client) (surroundings : Surroundings) : Outcome :=
  let reply := client.perform .currentUser surroundings.network
  match reply.answer with
  | .error error => ⟨.error error, surroundings.sink, reply.state, reply.events⟩
  | .ok user =>
    match surroundings.sink.write (User.codec.text user) with
    | .error error => ⟨.error error, surroundings.sink, reply.state, reply.events⟩
    | .ok sink => ⟨.ok (), sink, reply.state, reply.events⟩

/-! ### Commands -/

/-- The number of records on a page: that of the command line, or that of the settings. -/
def pageSize (settings : Settings) (options : ListingOptions) : UInt32 :=
  options.pageSize.getD settings.pageSize

/-- Performs a command. Messages are listed back from the moment of the call unless it says more. -/
def perform (client : Client) (settings : Settings) (surroundings : Surroundings)
    : Command → Outcome
  | .me => showUser client surroundings
  | .guilds after options =>
    list ⟨"guilds", UserGuild.codec, UserGuild.id, client.guilds⟩
      ((Paginator.after (pageSize settings options)).startAt (after.getD .zero))
      options surroundings
  | .members guild after options =>
    list ⟨"members", Member.codec, Member.id, client.members guild⟩
      ((Paginator.after (pageSize settings options)).startAt (after.getD .zero))
      options surroundings
  | .messages channel before options =>
    list ⟨"messages", Message.codec, Message.id, client.messages channel⟩
      ((Paginator.before (pageSize settings options)).startAt
        (before.getD (.ofInstant surroundings.now)))
      options surroundings

/-- Runs a command line. -/
def run (commandLine : CommandLine) (surroundings : Surroundings) : Outcome :=
  match settings commandLine surroundings with
  | .error error => .failure surroundings error
  | .ok settings =>
    match Client.ofSettings settings with
    | .error error => .failure surroundings error
    | .ok client => commandLine.command.perform client settings surroundings

end DiscordRest.Command
