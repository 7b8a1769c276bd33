import DiscordRest.Program

/-!
Flags of the command line, the words that stand for commands, and which flags go with which of
them.
-/

namespace DiscordRest.Command

/-- A flag. -/
inductive Flag where
  /-- Names the file with the settings. -/
  | config
  /-- Asks for details. -/
  | verbose
  /-- Asks for help. -/
  | help
  /-- Asks for the version. -/
  | version
  /-- Says after which record a listing starts. -/
  | after
  /-- Says before which record a listing starts. -/
  | before
  /-- Names a guild. -/
  | guild
  /-- Names a channel. -/
  | channel
  /-- Gives the number of records on a page. -/
  | pageSize
  /-- Gives the greatest number of records. -/
  | maxRecords
  deriving DecidableEq, Repr

namespace Flag

/-- The name of a flag behind two hyphens. -/
def long : Flag → String
  | config => "config"
  | verbose => "verbose"
  | help => "help"
  | version => "version"
  | after => "after"
  | before => "before"
  | guild => "guild"
  | channel => "channel"
  | pageSize => "page-size"
  | maxRecords => "max-records"

/-- The letter of a flag behind one hyphen. -/
def short? : Flag → Option Char
  | config => some 'C'
  | verbose => some 'v'
  | help => some 'h'
  | version => some 'V'
  | _ => none

/-- The word that stands for the value of a flag. -/
def valueName? : Flag → Option String
  | config => some "CONFIG"
  | verbose => none
  | help => none
  | version => none
  | after => some "AFTER"
  | before => some "BEFORE"
  | guild => some "GUILD"
  | channel => some "CHANNEL"
  | pageSize => some "PAGE_SIZE"
  | maxRecords => some "MAX_RECORDS"

/-- Whether a flag takes a value. -/
def takesValue (flag : Flag) : Bool :=
  flag.valueName?.isSome

/-- How messages write a flag. -/
def words (flag : Flag) : String :=
  "--" ++ flag.long ++ match flag.valueName? with
    | none => ""
    | some name => " <" ++ name ++ ">"

end Flag

/-- A word that stands for a command. -/
inductive Word where
  /-- The own user. -/
  | me
  /-- Guilds. -/
  | guilds
  /-- Members. -/
  | members
  /-- Messages. -/
  | messages
  deriving DecidableEq, Repr

namespace Word

/-- All words. -/
def all : List Word := [me, guilds, members, messages]

/-- How a word is written. -/
def text : Word → String
  | me => "me"
  | guilds => "guilds"
  | members => "members"
  | messages => "messages"

/-- The word of a text. -/
def ofText? (text : String) : Option Word :=
  all.find? fun word => word.text == text

/-- What help says of a command. -/
def about : Word → String
  | me => "Show the authorized user"
  | guilds => "List guilds of the authorized user, oldest first"
  | members => "List members of a guild, ordered by user ID"
  | messages => "List messages of a channel, newest first"

end Word

/-- The word that asks for help. -/
def helpWord : String := "help"

/-- The part of the command line in which flags stand: before the command's word, or after it. -/
inductive Scope where
  /-- Before the word. -/
  | program
  /-- After the word. -/
  | command (word : Word)
  deriving DecidableEq, Repr

namespace Scope

/-- The flags of a scope, in the order in which help lists them. -/
def flags : Scope → List Flag
  | program => [.config, .verbose, .help, .version]
  | command .me => [.config, .verbose, .help]
  | command .guilds => [.after, .config, .pageSize, .verbose, .maxRecords, .help]
  | command .members =>
    [.config, .guild, .after, .verbose, .pageSize, .maxRecords, .help]
  | command .messages =>
    [.config, .channel, .before, .verbose, .pageSize, .maxRecords, .help]

/-- The flag that a scope cannot do without. -/
def required? : Scope → Option Flag
  | command .members => some .guild
  | command .messages => some .channel
  | _ => none

/-- The flag of a scope by its name. -/
def long? (scope : Scope) (name : String) : Option Flag :=
  scope.flags.find? fun flag => flag.long == name

/-- The flag of a scope by its letter. -/
def short? (scope : Scope) (letter : Char) : Option Flag :=
  scope.flags.find? fun flag => flag.short? == some letter

/-- What help says of a flag. -/
def about : Scope → Flag → String
  | _, .config => "Configuration file (YAML)"
  | _, .verbose => "Verbose output"
  | _, .help => "Print help"
  | _, .version => "Print version"
  | command .members, .after => "Only members with a user ID greater than this"
  | _, .after => "Only guilds with an ID greater than this"
  | _, .before => "Only messages older than this ID (defaults to now)"
  | _, .guild => "Guild ID"
  | _, .channel => "Channel ID"
  | _, .pageSize => "Records per request (defaults to the config value)"
  | _, .maxRecords => "Stop after this many records"

end Scope

end DiscordRest.Command
