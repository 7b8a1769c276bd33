import DiscordRest.Text.Numeral
import DiscordRest.Text.Quoted

/-!
Mismatches between data and the type it should have: what was found and what was expected. They
are shared by all data formats; a format only chooses its word for the absent value.
-/

namespace DiscordRest

/-- What a reader found where it expected something else. -/
inductive Found where
  /-- The absent value. -/
  | null
  /-- A truth value. -/
  | boolean (value : Bool)
  /-- An integer. -/
  | integer (value : Int)
  /-- Any other number, as its format writes it. -/
  | real (written : String)
  /-- A text. -/
  | string (value : String)
  /-- A sequence of values. -/
  | sequence
  /-- A mapping from keys to values. -/
  | mapping
  deriving DecidableEq, Repr

/-- The words for what was found, given the word for the absent value. -/
def Found.words (nullWord : String) : Found → String
  | null => nullWord
  | boolean true => "boolean \x60true\x60"
  | boolean false => "boolean \x60false\x60"
  | integer value => "integer \x60" ++ Text.decimalInt value ++ "\x60"
  | real written => "floating point \x60" ++ written ++ "\x60"
  | string value => "string " ++ Text.quoted value
  | sequence => "sequence"
  | mapping => "map"

/-- A reason why data does not have the type that was asked for. -/
inductive Mismatch where
  /-- Something of another type was found. -/
  | wrongType (found : Found) (expected : String)
  /-- The type fits, but not the value. -/
  | wrongValue (found : Found) (expected : String)
  /-- A required field is missing. -/
  | missingField (name : String)
  /-- A field is given twice. -/
  | duplicateField (name : String)
  /-- A sequence has a wrong number of elements. -/
  | wrongLength (length : Nat) (expected : String)
  deriving DecidableEq, Repr

/-- The words for a mismatch, given the word for the absent value. -/
def Mismatch.words (nullWord : String) : Mismatch → String
  | wrongType found expected =>
    "invalid type: " ++ found.words nullWord ++ ", expected " ++ expected
  | wrongValue found expected =>
    "invalid value: " ++ found.words nullWord ++ ", expected " ++ expected
  | missingField name => "missing field \x60" ++ name ++ "\x60"
  | duplicateField name => "duplicate field \x60" ++ name ++ "\x60"
  | wrongLength length expected =>
    "invalid length " ++ Text.decimal length ++ ", expected " ++ expected

end DiscordRest
