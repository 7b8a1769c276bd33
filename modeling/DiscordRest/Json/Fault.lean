import DiscordRest.Mismatch
import DiscordRest.Text.Utf8

/-!
Faults of JSON texts: what is wrong and where. A place is kept as the part of the text still to be
read, from which line and column follow once the whole text is known.
-/

namespace DiscordRest.Json

/-- What is wrong with a text or with the value in it. -/
inductive Cause where
  /-- The text ends inside an array. -/
  | endInArray
  /-- The text ends inside an object. -/
  | endInObject
  /-- The text ends inside a quoted text. -/
  | endInString
  /-- The text ends where a value should stand. -/
  | endInValue
  /-- A key is not followed by a colon. -/
  | noColon
  /-- An item is followed neither by a comma nor by the end of the array. -/
  | noCommaInArray
  /-- A member is followed neither by a comma nor by the end of the object. -/
  | noCommaInObject
  /-- A word is misspelt. -/
  | badWord
  /-- No value starts here. -/
  | noValue
  /-- An escape in a quoted text is unknown. -/
  | badEscape
  /-- A number is malformed. -/
  | badNumber
  /-- A number is greater than all floating-point numbers. -/
  | numberOutOfRange
  /-- A control character stands in a quoted text. -/
  | controlCharacter
  /-- The key of a member is not a quoted text. -/
  | keyNotString
  /-- One half of a surrogate pair stands alone. -/
  | loneSurrogate
  /-- The first half of a surrogate pair is not followed by an escape. -/
  | endOfSurrogate
  /-- A comma is followed by the end of its array or object. -/
  | trailingComma
  /-- The value is followed by more text. -/
  | trailingText
  /-- Arrays and objects nest too deeply. -/
  | tooDeep
  /-- The value does not have the type asked for. -/
  | mismatch (mismatch : Mismatch)
  deriving DecidableEq, Repr

/-- The words for a cause. -/
def Cause.words : Cause → String
  | endInArray => "EOF while parsing a list"
  | endInObject => "EOF while parsing an object"
  | endInString => "EOF while parsing a string"
  | endInValue => "EOF while parsing a value"
  | noColon => "expected \x60:\x60"
  | noCommaInArray => "expected \x60,\x60 or \x60]\x60"
  | noCommaInObject => "expected \x60,\x60 or \x60\x7d\x60"
  | badWord => "expected ident"
  | noValue => "expected value"
  | badEscape => "invalid escape"
  | badNumber => "invalid number"
  | numberOutOfRange => "number out of range"
  | controlCharacter => "control character (\\u0000-\\u001F) found while parsing a string"
  | keyNotString => "key must be a string"
  | loneSurrogate => "lone leading surrogate in hex escape"
  | endOfSurrogate => "unexpected end of hex escape"
  | trailingComma => "trailing comma"
  | trailingText => "trailing characters"
  | tooDeep => "recursion limit exceeded"
  | mismatch found => found.words "null"

/-- A place in a text. -/
structure Spot where
  /-- The part of the text from the character at this place on. -/
  rest : List Char
  /-- How many bytes beyond that character's start the place lies. -/
  ahead : Nat
  deriving DecidableEq, Repr

/-- The place before the character that `rest` starts with. -/
def Spot.before (rest : List Char) : Spot := ⟨rest, 0⟩

/-- The place one byte into `rest`: the character there was looked at and found wrong. -/
def Spot.at (rest : List Char) : Spot := ⟨rest, 1⟩

/-- A cause and its place. -/
structure Fault where
  /-- What is wrong. -/
  cause : Cause
  /-- Where it is wrong. -/
  spot : Spot
  deriving DecidableEq, Repr

/-- A place by line and column. -/
structure Position where
  /-- The line, from one. -/
  line : Nat
  /-- How many bytes of the line lie before the place. -/
  column : Nat
  deriving DecidableEq, Repr

/-- The position after some bytes that follow a position. -/
def Position.advance (start : Position) (bytes : List UInt8) : Position :=
  bytes.foldl (fun p b => if b = 10 then ⟨p.line + 1, 0⟩ else ⟨p.line, p.column + 1⟩) start

/-- Line and column of a place in a text; a place beyond the end is at the end. -/
def Spot.position (text : List Char) (spot : Spot) : Position :=
  let read := Text.utf8Bytes (text.take (text.length - spot.rest.length))
  let ahead := (Text.utf8Bytes spot.rest).take spot.ahead
  (Position.mk 1 0).advance (read ++ ahead)

/-- Why a value could not be read; a value that does not come from a text has no position. -/
structure Failure where
  /-- What is wrong. -/
  cause : Cause
  /-- Where it is wrong. -/
  position : Option Position
  deriving DecidableEq, Repr

/-- The failure of a reader of the given text. -/
def Fault.inText (text : List Char) (fault : Fault) : Failure :=
  ⟨fault.cause, some (fault.spot.position text)⟩

/-- The failure of a reader of values. -/
def Failure.ofMismatch (mismatch : Mismatch) : Failure :=
  ⟨.mismatch mismatch, none⟩

/-- The words for a failure. -/
def Failure.message (failure : Failure) : String :=
  failure.cause.words ++
    match failure.position with
    | some position =>
      " at line " ++ Text.decimal position.line ++ " column " ++ Text.decimal position.column
    | none => ""

end DiscordRest.Json
