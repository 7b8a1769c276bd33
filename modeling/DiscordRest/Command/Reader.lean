import DiscordRest.Command.Basic
import DiscordRest.Command.Usage
import DiscordRest.Error

/-!
Reading command lines. A flag's value may be the next argument, or stand behind an equals sign or a
letter. A value that is an argument of its own is checked only when the next flag or the end
follows, so that a fault behind it may be found first.
-/

namespace DiscordRest.Command

/-! ### Values -/

/-- The values of the flags that were given in one scope. -/
structure Given where
  /-- The file with the settings. -/
  config : Option String
  /-- Whether details are asked for. -/
  verbose : Bool
  /-- After which record a listing starts. -/
  after : Option Snowflake
  /-- Before which record a listing starts. -/
  before : Option Snowflake
  /-- The guild. -/
  guild : Option Snowflake
  /-- The channel. -/
  channel : Option Snowflake
  /-- The number of records on a page. -/
  pageSize : Option UInt32
  /-- The greatest number of records. -/
  maxRecords : Option UInt64
  deriving DecidableEq, Repr

namespace Given

/-- No flag at all. -/
def nothing : Given :=
  ⟨none, false, none, none, none, none, none, none⟩

/-- Whether a flag was given. -/
def has (given : Given) : Flag → Bool
  | .config => given.config.isSome
  | .verbose => given.verbose
  | .help => false
  | .version => false
  | .after => given.after.isSome
  | .before => given.before.isSome
  | .guild => given.guild.isSome
  | .channel => given.channel.isSome
  | .pageSize => given.pageSize.isSome
  | .maxRecords => given.maxRecords.isSome

/-- How a listing is to be done. -/
def listing (given : Given) : ListingOptions :=
  ⟨given.pageSize, given.maxRecords⟩

end Given

/-- Reads a snowflake as the value of a flag. -/
def readSnowflake (flag : Flag) (value : String) : Except Usage Snowflake :=
  (Snowflake.read value).mapError fun error => .badValue flag value error.message

/-- Reads the number of records on a page: an integer of 64 bits that must fit into 32. -/
def readPageSize (flag : Flag) (value : String) : Except Usage UInt32 :=
  match Text.readSigned 10 (greatestSigned + 1) greatestSigned value.toList with
  | .error fault => .error (.badValue flag value fault.message)
  | .ok n =>
    if 0 ≤ n ∧ n.toNat ≤ greatestHalfWord then .ok (.ofNat n.toNat)
    else .error (.badValue flag value (Text.decimalInt n ++ " is not in 0..=4294967295"))

/-- Reads a number of records. -/
def readCount (flag : Flag) (value : String) : Except Usage UInt64 :=
  match Text.readUnsigned 10 greatestWord value.toList with
  | .error fault => .error (.badValue flag value fault.message)
  | .ok n => .ok (.ofNat n)

/-- Adds the value of a flag to those that were given; a file must have a name. -/
def Given.add (given : Given) (flag : Flag) (value : String) : Except Usage Given :=
  match flag with
  | .config =>
    if value.isEmpty then .error (.missingValue flag)
    else .ok { given with config := some value }
  | .after => (readSnowflake flag value).map fun id => { given with after := some id }
  | .before => (readSnowflake flag value).map fun id => { given with before := some id }
  | .guild => (readSnowflake flag value).map fun id => { given with guild := some id }
  | .channel => (readSnowflake flag value).map fun id => { given with channel := some id }
  | .pageSize => (readPageSize flag value).map fun n => { given with pageSize := some n }
  | .maxRecords => (readCount flag value).map fun n => { given with maxRecords := some n }
  | .verbose => .ok given
  | .help => .ok given
  | .version => .ok given

/-! ### Flags -/

/-- How far a scope was read. -/
structure State where
  /-- The flags that were checked. -/
  given : Given
  /-- A flag whose value is still to be checked, and that value once it was found. -/
  pending : Option (Flag × Option String)

namespace State

/-- The beginning of a scope. -/
def start : State :=
  ⟨.nothing, none⟩

/-- Whether the next argument is the value of a flag. -/
def awaitsValue (state : State) : Bool :=
  match state.pending with
  | some (_, none) => true
  | _ => false

/-- Adds a flag with its value, which must be the only one. -/
def add (state : State) (flag : Flag) (value : String) : Except Usage State :=
  if state.given.has flag then .error (.repeated flag)
  else (state.given.add flag value).map fun given => ⟨given, none⟩

/-- Checks the flag whose value is still to be checked. -/
def settle (state : State) : Except Usage State :=
  match state.pending with
  | none => .ok state
  | some (flag, none) => .error (.missingValue flag)
  | some (flag, some value) => state.add flag value

/-- Adds a flag without value; those that ask for help or for the version end the reading. -/
def raise (state : State) (scope : Scope) (program : String) (flag : Flag)
    : Except Usage State := do
  let state ← state.settle
  match flag with
  | .help => .error (.help (scope.help program))
  | .version => .error .version
  | flag =>
    if state.given.has flag then .error (.repeated flag)
    else .ok { state with given := { state.given with verbose := true } }

/-- Adds a flag with the value that is attached to it, or has the next argument be its value. -/
def open? (state : State) (flag : Flag) (attached : Option String) : Except Usage State := do
  let state ← state.settle
  match attached with
  | some value => state.add flag value
  | none => .ok { state with pending := some (flag, none) }

/-- Takes an argument as the value of the flag that awaits one. -/
def supply (state : State) (value : String) : State :=
  { state with pending := state.pending.map fun (flag, _) => (flag, some value) }

end State

/-- A text cut at its first equals sign. -/
def cutValue : List Char → List Char × Option (List Char)
  | [] => ([], none)
  | c :: rest =>
    if c = '=' then ([], some rest)
    else
      let (before, after) := cutValue rest
      (c :: before, after)

/-- Reads what follows two hyphens. -/
def readLong (scope : Scope) (program : String) (state : State) (text : List Char)
    : Except Usage State :=
  let (name, value) := cutValue text
  match scope.long? (String.ofList name), value.map String.ofList with
  | none, _ => .error (.unknownArgument ("--" ++ String.ofList name))
  | some flag, value =>
    if flag.takesValue then state.open? flag value
    else
      match value with
      | some value => .error (.unneededValue flag value)
      | none => state.raise scope program flag

/-- The value that is attached to a letter; an equals sign may stand between. -/
def attached? : List Char → Option String
  | [] => none
  | '=' :: rest => some (String.ofList rest)
  | rest => some (String.ofList rest)

/-- Reads letters behind one hyphen, of which the last may have a value. -/
def readLetters (scope : Scope) (program : String)
    : State → List Char → Except Usage State
  | state, [] => .ok state
  | state, letter :: rest =>
    match scope.short? letter with
    | none => .error (.unknownArgument ("-" ++ String.singleton letter))
    | some flag =>
      if flag.takesValue then state.open? flag (attached? rest)
      else
        match state.raise scope program flag with
        | .error usage => .error usage
        | .ok state => readLetters scope program state rest

/-- An argument by its hyphens. -/
inductive Shape where
  /-- Two hyphens alone, behind which no flag stands. -/
  | separator
  /-- Two hyphens and more. -/
  | long (text : List Char)
  /-- One hyphen and more. -/
  | letters (text : List Char)
  /-- Anything else. -/
  | plain

/-- The shape of an argument. -/
def shape (argument : String) : Shape :=
  match argument.toList with
  | ['-', '-'] => .separator
  | '-' :: '-' :: text => .long text
  | '-' :: letter :: text => .letters (letter :: text)
  | _ => .plain

/-! ### Scopes -/

/-- Whether an argument is a word that a scope knows. -/
def Scope.knows (scope : Scope) (argument : String) : Bool :=
  scope = .program && (argument == helpWord || (Word.ofText? argument).isSome)

/-- Why an argument has no place in a scope. -/
def Scope.refuse (scope : Scope) (argument : String) : Usage :=
  match scope with
  | .program => .unknownCommand argument
  | .command _ => .unknownArgument argument

/-- Why an argument behind the separator has no place in a scope. -/
def Scope.refuseBehind (scope : Scope) (argument : String) : Usage :=
  if scope.knows argument then .unknownArgument argument else scope.refuse argument

/--
Reads a scope up to a word that it knows, which is given with the arguments behind it. Nothing may
follow the separator.
-/
def readScope (scope : Scope) (program : String)
    : State → List String → Except Usage (State × Option (String × List String))
  | state, [] => .ok (state, none)
  | state, argument :: rest =>
    if !state.awaitsValue && scope.knows argument then .ok (state, some (argument, rest))
    else
      match shape argument with
      | .separator =>
        match rest with
        | [] => .ok (state, none)
        | argument :: _ => .error (scope.refuseBehind argument)
      | .long text =>
        match readLong scope program state text with
        | .error usage => .error usage
        | .ok state => readScope scope program state rest
      | .letters text =>
        match readLetters scope program state text with
        | .error usage => .error usage
        | .ok state => readScope scope program state rest
      | .plain =>
        if state.awaitsValue then readScope scope program (state.supply argument) rest
        else .error (scope.refuse argument)

/-- The help for a list of words; there is none for more than one word. -/
def readHelp (program : String) : List String → Usage
  | [] => .help (Scope.program.help program)
  | word :: rest =>
    let text := match Word.ofText? word with
      | some word => some ((Scope.command word).help program)
      | none => if word = helpWord then some (helpHelp program) else none
    match text, rest with
    | none, _ => .unknownCommand word
    | some text, [] => .help text
    | some _, next :: _ => .unknownCommand next

/-- The command of a word and its flags; the flag that it needs must be among them. -/
def ofGiven (given : Given) : Word → Except Usage Command
  | .me => .ok .me
  | .guilds => .ok (.guilds given.after given.listing)
  | .members =>
    match given.guild with
    | none => .error (.missingFlag .guild)
    | some guild => .ok (.members guild given.after given.listing)
  | .messages =>
    match given.channel with
    | none => .error (.missingFlag .channel)
    | some channel => .ok (.messages channel given.before given.listing)

/-- Reads the arguments behind a word. -/
def readWord (program : String) (word : Word) (arguments : List String)
    : Except Usage (Given × Command) := do
  let (state, _) ← readScope (.command word) program .start arguments
  let state ← state.settle
  let command ← ofGiven state.given word
  .ok (state.given, command)

/-- The name of a file by its path; none for a path that only leads to a directory. -/
def fileName? (path : String) : Option String :=
  let parts := ((path.splitOn "/").filter fun part => !(part.isEmpty || part = "."))
  match parts.getLast? with
  | some ".." => none
  | last => last

/-- Reads a command line, the first argument of which names the program. -/
def ofArguments (arguments : List String) : Except Usage CommandLine := do
  let program := ((arguments.head?).bind fileName?).getD Program.name
  let (state, found) ← readScope .program program .start arguments.tail
  match found with
  | none =>
    let state ← state.settle
    if state.given = .nothing then .error (.nothingGiven (Scope.program.help program))
    else .error (.noCommand program)
  | some (text, rest) =>
    match Word.ofText? text with
    | none => .error (readHelp program rest)
    | some word =>
      let (given, command) ← readWord program word rest
      let state ← state.settle
      .ok ⟨given.config.or state.given.config, given.verbose || state.given.verbose, command⟩

end DiscordRest.Command
