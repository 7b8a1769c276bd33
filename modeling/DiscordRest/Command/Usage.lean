import DiscordRest.Command.Flag

/-!
Reasons not to run a command line: it asks for help or for the version, or it was not understood.
Their texts name the program by the file that was called.
-/

namespace DiscordRest.Command

/-! ### Help -/

/-- A text with spaces behind it, up to a width. -/
def padTo (width : Nat) (text : String) : String :=
  text ++ String.ofList (List.replicate (width - text.length) ' ')

/-- The lines of a table with two columns, the first of which is as wide as its widest part. -/
def table (rows : List (String × String)) : String :=
  let width := (rows.map fun row => row.1.length).foldl max 0
  String.join (rows.map fun row => "  " ++ padTo width row.1 ++ "  " ++ row.2 ++ "\n")

/-- The row of help for a flag. -/
def flagRow (scope : Scope) (flag : Flag) : String × String :=
  let letter := match flag.short? with
    | none => "    "
    | some letter => "-" ++ String.singleton letter ++ ", "
  (letter ++ flag.words, scope.about flag)

/-- What help says of the word that asks for it. -/
def helpAbout : String := "Print this message or the help of the given subcommand(s)"

/-- The rows of help for the commands. -/
def wordRows : List (String × String) :=
  Word.all.map (fun word => (word.text, word.about)) ++ [(helpWord, helpAbout)]

/-- How a scope is used. -/
def Scope.usage (program : String) : Scope → String
  | .program => program ++ " [OPTIONS] <COMMAND>"
  | .command word =>
    program ++ " " ++ word.text ++ " [OPTIONS]"
      ++ match (Scope.command word).required? with
        | none => ""
        | some flag => " " ++ flag.words

/-- What a scope is for. -/
def Scope.purpose : Scope → String
  | .program => Program.about
  | .command word => word.about

/-- The help for a scope. -/
def Scope.help (scope : Scope) (program : String) : String :=
  scope.purpose ++ "\n\nUsage: " ++ scope.usage program ++ "\n\n"
    ++ (if scope = .program then "Commands:\n" ++ table wordRows ++ "\n" else "")
    ++ "Options:\n" ++ table (scope.flags.map (flagRow scope))

/-- The help for the word that asks for help. -/
def helpHelp (program : String) : String :=
  helpAbout ++ "\n\nUsage: " ++ program ++ " " ++ helpWord ++ " [COMMAND]...\n\nArguments:\n"
    ++ table [("[COMMAND]...", "Print help for the subcommand(s)")]

/-! ### Reasons -/

/-- A reason not to run a command line. -/
inductive Usage where
  /-- Help is asked for. -/
  | help (text : String)
  /-- The version is asked for. -/
  | version
  /-- Nothing is asked for, so that help is shown. -/
  | nothingGiven (help : String)
  /-- There are flags, but no word for a command. -/
  | noCommand (program : String)
  /-- A word stands for no command. -/
  | unknownCommand (word : String)
  /-- An argument is no flag, or has no place. -/
  | unknownArgument (argument : String)
  /-- A flag lacks its value. -/
  | missingValue (flag : Flag)
  /-- A flag has a value that it does not take. -/
  | unneededValue (flag : Flag) (value : String)
  /-- The value of a flag is unfit. -/
  | badValue (flag : Flag) (value reason : String)
  /-- A flag is given twice. -/
  | repeated (flag : Flag)
  /-- A flag that is needed is not given. -/
  | missingFlag (flag : Flag)
  deriving DecidableEq, Repr

namespace Usage

/-- What is said about it; an error leads to a single line. -/
def message : Usage → String
  | help text => text
  | version => Program.name ++ " " ++ Program.version ++ "\n"
  | nothingGiven text => text
  | noCommand program =>
    "error: \x27" ++ program ++ "\x27 requires a subcommand but one was not provided"
  | unknownCommand word => "error: unrecognized subcommand \x27" ++ word ++ "\x27"
  | unknownArgument argument => "error: unexpected argument \x27" ++ argument ++ "\x27 found"
  | missingValue flag =>
    "error: a value is required for \x27" ++ flag.words ++ "\x27 but none was supplied"
  | unneededValue flag value =>
    "error: unexpected value \x27" ++ value ++ "\x27 for \x27" ++ flag.words
      ++ "\x27 found; no more were expected"
  | badValue flag value reason =>
    "error: invalid value \x27" ++ value ++ "\x27 for \x27" ++ flag.words ++ "\x27: " ++ reason
  | repeated flag =>
    "error: the argument \x27" ++ flag.words ++ "\x27 cannot be used multiple times"
  | missingFlag _ => "error: the following required arguments were not provided:"

/-- Whether it was asked for, and is no error. -/
def isWanted : Usage → Bool
  | help _ => true
  | version => true
  | _ => false

/-- The exit code of the program. -/
def exitCode (usage : Usage) : UInt32 :=
  if usage.isWanted then 0 else 2

end Usage

end DiscordRest.Command
