import DiscordRest.Http.Failure
import DiscordRest.Json.Fault
import DiscordRest.Snowflake
import DiscordRest.Url.Fault
import DiscordRest.Yaml.Failure

/-!
Errors of the library. An error is a cause; context put before it turns it into plain words.
-/

namespace DiscordRest

/-- Why an operation failed. -/
inductive Error where
  /-- The settings cannot be used. -/
  | configuration (message : String)
  /-- A page must hold at least one record. -/
  | invalidPageSize (size : UInt32)
  /-- A YAML document could not be read. -/
  | invalidYaml (failure : Yaml.Failure)
  /-- A request got no usable answer. -/
  | http (failure : Http.Failure)
  /-- A request was answered, but not with success. -/
  | status (code : UInt16) (body : String)
  /-- A text is no URL. -/
  | invalidUrl (fault : Url.Fault)
  /-- JSON could not be read. -/
  | invalidJson (failure : Json.Failure)
  /-- A text is no snowflake. -/
  | invalidSnowflake (text : String)
  /-- A file could not be read or output not be written. -/
  | inputOutput (message : String)
  /-- Any other failure, in words. -/
  | other (message : String)
  deriving DecidableEq, Repr

namespace Error

/-- The words for an error; `order` is that of the pairs in the query of a URL. -/
def message (error : Error) (order : Arrangement := .asGiven) : String :=
  match error with
  | configuration message => "Configuration error: " ++ message
  | invalidPageSize size =>
    "Invalid page size " ++ Text.decimal size.toNat ++ ": must be greater than zero"
  | invalidYaml failure => "Failed to parse YAML: " ++ failure.message
  | http failure => "HTTP request failed: " ++ failure.message order
  | status code body => "HTTP " ++ Text.decimal code.toNat ++ ": " ++ body
  | invalidUrl fault => "Invalid URL: " ++ fault.message
  | invalidJson failure => "Failed to parse JSON: " ++ failure.message
  | invalidSnowflake text => "Invalid snowflake \x27" ++ text ++ "\x27"
  | inputOutput message => "IO error: " ++ message
  | other message => message

/-- The status with which a request was answered, if it was. -/
def status? : Error → Option UInt16
  | status code _ => some code
  | _ => none

/-- Whether an error comes from a request and not from local input. -/
def isFetchError : Error → Bool
  | http _ => true
  | status _ _ => true
  | invalidJson _ => true
  | _ => false

/-- Puts words before an error. -/
def context (words : String) (error : Error) : Error :=
  .other (words ++ ": " ++ error.message)

end Error

/-- Puts words before the error of a result. -/
def withContext {α : Type} (words : String) : Except Error α → Except Error α
  | .ok value => .ok value
  | .error error => .error (error.context words)

/-- Reads a snowflake between blank characters. -/
def Snowflake.read (text : String) : Except Error Snowflake :=
  match Snowflake.parse? text with
  | some id => .ok id
  | none => .error (.invalidSnowflake text)

end DiscordRest
