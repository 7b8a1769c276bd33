import DiscordRest.Json.Object
import DiscordRest.Json.Reader.Draft
import DiscordRest.Snowflake
import DiscordRest.Text.Map

/-!
Codecs: how values of a type are read from JSON and written to it. A codec reads a parsed value or
a draft of a text; from the latter it reports the first fault and its place.
-/

namespace DiscordRest.Json

/-- How values of a type are read and written. -/
structure Codec (α : Type) where
  /-- Reads a parsed value. -/
  ofValue : Value → Except Mismatch α
  /-- Reads a draft in which arrays and objects may nest to a depth below the given one. -/
  ofDraft : Nat → Draft → Except Fault α
  /-- The keys of an outermost object that are read at all; other members are passed over. -/
  keeps : String → Bool
  /-- Writes a value. -/
  write : α → Value

/-- A value that is neither an array nor an object. -/
inductive Scalar where
  /-- The null value. -/
  | null
  /-- A truth value. -/
  | boolean (value : Bool)
  /-- A number. -/
  | number (value : Number)
  /-- A text. -/
  | string (value : String)
  deriving DecidableEq, Repr

namespace Scalar

/-- How a scalar is named in a mismatch. -/
def found : Scalar → Found
  | null => .null
  | boolean value => .boolean value
  | number (.integer value _) => .integer value
  | number (.real value) => .real (Number.realText value)
  | string value => .string value

/-- A scalar as a value. -/
def value : Scalar → Value
  | null => .null
  | boolean value => .boolean value
  | number value => .number value
  | string value => .string value

end Scalar

/-- The mismatch of a value of a wrong type. -/
def wrongType {α : Type} (expected : String) (found : Found) : Except Mismatch α :=
  .error (.wrongType found expected)

/-- A mismatch as a fault at a place. -/
def Mismatch.at {α : Type} (spot : Spot) : Except Mismatch α → Except Fault α
  | .ok value => .ok value
  | .error found => .error ⟨.mismatch found, spot⟩

/-- The place after an array has been left at `text`: after its end if it ends there. -/
def leaveArray (text : List Char) : Spot :=
  match Reader.skipBlanks text with
  | ']' :: rest => .before rest
  | ',' :: rest => .before (Reader.skipBlanks rest)
  | rest => .before rest

/-- The place after an object has been left at `text`: after its end if it ends there. -/
def leaveObject (text : List Char) : Spot :=
  match Reader.skipBlanks text with
  | '\x7d' :: rest => .before rest
  | rest => .before rest

/-- The fault of an array that ends after fewer items than it has, if there is more at `text`. -/
def endArray (text : List Char) : Except Fault Unit :=
  match Reader.skipBlanks text with
  | [] => .error ⟨.endInArray, .before []⟩
  | ']' :: _ => .ok ()
  | ',' :: rest =>
    match Reader.skipBlanks rest with
    | ']' :: rest => .error ⟨.trailingComma, .at (']' :: rest)⟩
    | rest => .error ⟨.trailingText, .at rest⟩
  | rest => .error ⟨.trailingText, .at rest⟩

namespace Codec

variable {α β : Type}

/-- Every key of an object is read. -/
def keepsAll (_ : String) : Bool := true

/-- The codec of a type whose values are scalars. -/
def ofScalar (expected : String) (read : Scalar → Except Mismatch α) (write : α → Scalar)
    : Codec α where
  ofValue
    | .null => read .null
    | .boolean value => read (.boolean value)
    | .number value => read (.number value)
    | .string value => read (.string value)
    | .array _ => wrongType expected .sequence
    | .object _ => wrongType expected .mapping
  ofDraft _
    | .null after => Mismatch.at (.before after) (read .null)
    | .boolean value after => Mismatch.at (.before after) (read (.boolean value))
    | .number value after => Mismatch.at (.before after) (read (.number value))
    | .string value after => Mismatch.at (.before after) (read (.string value))
    | .array text _ _ => Mismatch.at (.before text) (wrongType expected .sequence)
    | .object text _ _ => Mismatch.at (.before text) (wrongType expected .mapping)
    | .skipped after => Mismatch.at (.before after) (read .null)
    | .faulty fault => .error fault
  keeps := keepsAll
  write := fun value => (write value).value

/--
The codec of a type whose values are scalars of several types. It enters an array or object
before it refuses it, so that the mismatch lies after the beginning of it.
-/
def ofAnyScalar (expected : String) (read : Scalar → Except Mismatch α) (write : α → Scalar)
    : Codec α where
  ofValue := (ofScalar expected read write).ofValue
  ofDraft depth
    | .array text _ _ =>
      if depth ≤ 1 then .error ⟨.tooDeep, .at text⟩
      else Mismatch.at (leaveArray text.tail) (wrongType expected .sequence)
    | .object text _ _ =>
      if depth ≤ 1 then .error ⟨.tooDeep, .at text⟩
      else Mismatch.at (leaveObject text.tail) (wrongType expected .mapping)
    | draft => (ofScalar expected read write).ofDraft depth draft
  keeps := keepsAll
  write := fun value => (write value).value

/-- Refuses every value. It stands for the cases that a codec of arrays or objects leaves over. -/
def refuse (expected : String) : Codec α :=
  ofScalar expected (fun scalar => wrongType expected scalar.found) fun _ => .null

/-- Texts. -/
def string : Codec String :=
  ofScalar "a string"
    (fun
      | .string value => .ok value
      | other => wrongType "a string" other.found)
    .string

/-- Truth values. -/
def boolean : Codec Bool :=
  ofScalar "a boolean"
    (fun
      | .boolean value => .ok value
      | other => wrongType "a boolean" other.found)
    .boolean

/-- The null value. -/
def unit : Codec Unit :=
  ofScalar "unit"
    (fun
      | .null => .ok ()
      | other => wrongType "unit" other.found)
    fun _ => .null

/-- Natural numbers up to `greatest`, of a kind that messages call `name`. -/
def natural (name : String) (greatest : Nat) (h : greatest ≤ greatestWord)
    : Codec { n : Nat // n ≤ greatest } :=
  ofScalar name
    (fun
      | .number (.integer value bounds) =>
        if fits : value.toNat ≤ greatest ∧ 0 ≤ value then .ok ⟨value.toNat, fits.1⟩
        else .error (.wrongValue (.integer value) name)
      | other => wrongType name other.found)
    fun n => .number (.integer n.val (by
      have below := n.property
      unfold greatestWord at h
      unfold leastInteger greatestInteger
      omega))

/-- What a reader of snowflakes expects. -/
def snowflakeWords : String := "a snowflake as a decimal string or unsigned integer"

/-- Snowflakes, read from a decimal numeral or an integer and written as a numeral. -/
def snowflake : Codec Snowflake :=
  ofAnyScalar snowflakeWords
    (fun
      | .number (.integer value _) =>
        if 0 ≤ value then .ok ⟨UInt64.ofNat value.toNat⟩
        else .error (.wrongValue (.integer value) snowflakeWords)
      | .string value =>
        match Snowflake.ofText? value with
        | some id => .ok id
        | none => .error (.wrongValue (.string value) snowflakeWords)
      | other => wrongType snowflakeWords other.found)
    fun id => .string id.text

/-- Arbitrary values; objects are read normalised. -/
def value : Codec Value where
  ofValue value := .ok value.normalise
  ofDraft depth draft := (draft.value? depth).map Value.normalise
  keeps := keepsAll
  write value := value

/-- Values of another type, or null for none. -/
def option (codec : Codec α) : Codec (Option α) where
  ofValue
    | .null => .ok none
    | value => (codec.ofValue value).map some
  ofDraft depth
    | .null _ => .ok none
    | draft => (codec.ofDraft depth draft).map some
  keeps := codec.keeps
  write
    | none => .null
    | some value => codec.write value

/-- The items of an array, read one after another. -/
def valuesOf (codec : Codec α) : List Value → Except Mismatch (List α)
  | [] => .ok []
  | item :: rest =>
    match codec.ofValue item with
    | .error found => .error found
    | .ok value => (valuesOf codec rest).map (value :: ·)

/-- The items of a drafted array, read one after another. -/
def draftsOf (codec : Codec α) (depth : Nat) : List Draft → Except Fault (List α)
  | [] => .ok []
  | item :: rest =>
    match codec.ofDraft depth item with
    | .error fault => .error fault
    | .ok value => (draftsOf codec depth rest).map (value :: ·)

/-- Lists of values of another type. -/
def list (codec : Codec α) : Codec (List α) where
  ofValue
    | .array items => valuesOf codec items
    | value => (refuse "a sequence").ofValue value
  ofDraft depth
    | .array text items finish =>
      if depth ≤ 1 then .error ⟨.tooDeep, .at text⟩
      else
        match draftsOf codec (depth - 1) items with
        | .error fault => .error fault
        | .ok values => finish.map fun _ => values
    | draft => (refuse "a sequence").ofDraft depth draft
  keeps := keepsAll
  write values := .array (values.map codec.write)

/-- The members of an object as texts, read one after another. -/
def textValues : List (String × Value) → Except Mismatch (List (String × String))
  | [] => .ok []
  | (key, item) :: rest =>
    match string.ofValue item with
    | .error found => .error found
    | .ok value => (textValues rest).map ((key, value) :: ·)

/-- The members of a drafted object as texts, read one after another. -/
def textDrafts (depth : Nat)
    : List (String × List Char × Draft) → Except Fault (List (String × String))
  | [] => .ok []
  | (key, _, item) :: rest =>
    match string.ofDraft depth item with
    | .error fault => .error fault
    | .ok value => (textDrafts depth rest).map ((key, value) :: ·)

/-- Maps from texts to texts; of a repeated key the last value counts. -/
def textMap : Codec TextMap where
  ofValue
    | .object members => (textValues members).map .ofEntries
    | value => (refuse "a map").ofValue value
  ofDraft depth
    | .object text members finish =>
      if depth ≤ 1 then .error ⟨.tooDeep, .at text⟩
      else
        match textDrafts (depth - 1) members with
        | .error fault => .error fault
        | .ok entries => finish.map fun _ => .ofEntries entries
    | draft => (refuse "a map").ofDraft depth draft
  keeps := keepsAll
  write map := .object (map.entries.map fun entry => (entry.1, .string entry.2))

/-- The codec of a type that another one stands for. -/
def convert (codec : Codec α) (forth : α → β) (back : β → α) : Codec β where
  ofValue value := (codec.ofValue value).map forth
  ofDraft depth draft := (codec.ofDraft depth draft).map forth
  keeps := codec.keeps
  write value := codec.write (back value)

/-- Reads a text that holds one value and nothing else. -/
def ofText (codec : Codec α) (text : String) : Except Failure α :=
  let chars := text.toList
  let draft := Draft.ofText codec.keeps chars
  let read : Except Fault α := match codec.ofDraft Draft.depthLimit draft with
    | .error fault => .error fault
    | .ok value =>
      match draft.finish with
      | .error fault => .error fault
      | .ok after => (Draft.checkEnd after).map fun _ => value
  match read with
  | .error fault => .error (fault.inText chars)
  | .ok value => .ok value

/-- Reads a text by way of a value. -/
def ofTextValue (codec : Codec α) (text : String) : Except Failure α :=
  match Codec.value.ofText text with
  | .error failure => .error failure
  | .ok value =>
    match codec.ofValue value with
    | .error found => .error (.ofMismatch found)
    | .ok value => .ok value

/-- The compact text of a value. -/
def text (codec : Codec α) (value : α) : String :=
  (codec.write value).text

/-- Whether two values are written alike, but for the sign of zero. -/
def same (codec : Codec α) (a b : α) : Bool :=
  (codec.write a).same (codec.write b)

end Codec

end DiscordRest.Json
