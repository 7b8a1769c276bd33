import DiscordRest.Command.Reader
import DiscordRest.Command.Run
import Std.Time.DateTime.Timestamp

/-!
The program: it reads the command line, the file it names and the environment, runs the command,
and prints what came of it. It has no connections of its own, so that no host answers.
-/

namespace DiscordRest.Main

/-- The name under which the program was called, and its arguments. -/
def commandLine (arguments : List String) : IO (List String) := do
  let path ← IO.appPath
  return path.toString :: arguments

/-- The system's number, of either sign, of the fault that a name goes on behind a file. -/
def notDirectoryCode : UInt32 := 20

/-- The reason for which the system does not give a file. -/
def fileFault : IO.Error → FileFault
  | .noFileOrDirectory _ _ _ => .notFound
  | .inappropriateType _ code _ =>
    if code = notDirectoryCode ∨ code = 0 - notDirectoryCode then .notDirectory else .isDirectory
  | error => .other (toString error)

/-- Reads the bytes of a file. -/
def readFile (path : String) : IO (Except FileFault (List UInt8)) := do
  try
    let bytes ← IO.FS.readBinFile path
    return .ok bytes.toList
  catch error =>
    return .error (fileFault error)

/-- The present moment. -/
def now : IO Instant := do
  let stamp ← Std.Time.Timestamp.now
  let nanoseconds := stamp.val.toNanoseconds.val
  return .ofSeconds (nanoseconds / 1000000000) (nanoseconds % 1000000000).toNat

/-- What a command line meets. -/
def surroundings (line : CommandLine) : IO Command.Surroundings := do
  let content ← match line.config with
    | none => pure (.error .notFound)
    | some path => readFile path
  let token ← IO.getEnv Settings.tokenVariable
  let baseUrl ← IO.getEnv Settings.baseUrlVariable
  let lookup := fun name =>
    if name = Settings.tokenVariable then token
    else if name = Settings.baseUrlVariable then baseUrl
    else none
  return ⟨fun _ => content, lookup, ← now, ⟨false, [], []⟩, .ofRoom none⟩

/-- Shows why no command was run. -/
def showUsage (usage : Command.Usage) : IO UInt32 := do
  if usage.isWanted then IO.print usage.message else IO.eprintln usage.message
  return usage.exitCode

/-- Shows the outcome of a command. -/
def showOutcome (verbose : Bool) (outcome : Command.Outcome) : IO UInt32 := do
  for event in outcome.shownEvents verbose do
    IO.eprintln event.line
  IO.print outcome.sink.text
  match outcome.result with
  | .ok () => pure ()
  | .error error => IO.eprintln ("Error: " ++ error.message)
  return outcome.exitCode

end DiscordRest.Main

/-- Runs the program. -/
def main (arguments : List String) : IO UInt32 := do
  match DiscordRest.Command.ofArguments (← DiscordRest.Main.commandLine arguments) with
  | .error usage => DiscordRest.Main.showUsage usage
  | .ok line =>
    let surroundings ← DiscordRest.Main.surroundings line
    DiscordRest.Main.showOutcome line.verbose (DiscordRest.Command.run line surroundings)
