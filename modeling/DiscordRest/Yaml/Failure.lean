import DiscordRest.Mismatch

/-!
Failures of reading typed values from YAML documents. A mismatch names the way from the root of
the document to the value at fault, and the place of that value.
-/

namespace DiscordRest.Yaml

/-- A place in a text. -/
structure Mark where
  /-- How many lines lie before it. -/
  line : Nat
  /-- How many characters of its line lie before it. -/
  column : Nat
  deriving DecidableEq, Repr

/-- One step on the way from the root of a document to a value in it. -/
inductive Step where
  /-- To the value of a key. -/
  | key (name : String)
  /-- To the value of a key that is no scalar. -/
  | unknownKey
  deriving DecidableEq, Repr

/-- The words for a way from the root. -/
def pathWords (path : List Step) : String :=
  String.intercalate "." (path.map fun
    | .key name => name
    | .unknownKey => "?")

/-- Why no value could be read. -/
inductive Failure where
  /-- The document breaks the rules of the language. -/
  | malformed
  /-- There is no value at all. -/
  | noValue
  /-- The value at the end of a way, and at a place, does not have the type asked for. -/
  | mismatch (path : List Step) (found : Mismatch) (mark : Mark)
  deriving DecidableEq, Repr

/-- The words for a failure; neither the root as a way nor the beginning as a place is named. -/
def Failure.message : Failure → String
  | malformed => "malformed document"
  | noValue => "EOF while parsing a value"
  | mismatch path found mark =>
    (if path.isEmpty then "" else pathWords path ++ ": ") ++ found.words "unit value"
      ++ (if mark.line = 0 && mark.column = 0 then ""
        else " at line " ++ Text.decimal (mark.line + 1)
          ++ " column " ++ Text.decimal (mark.column + 1))

end DiscordRest.Yaml
