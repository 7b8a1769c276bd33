import DiscordRest.Json.Codec

/-!
Record layouts: the named fields of a record, each with a codec and a rule for its absence. An
open record keeps all further members of its object; a closed one drops them, and can also be
read from an array of its fields in order.
-/

namespace DiscordRest.Json

/-- A field of a record. -/
structure Field where
  /-- The key of the field. -/
  name : String
  /-- The type of the field's values. -/
  Carrier : Type
  /-- How the field's values are read and written. -/
  codec : Codec Carrier
  /-- The value of a field that is absent; none if the field is required. -/
  absent : Option Carrier
  /-- Which values are left out when the record is written. -/
  omits : Carrier → Bool

namespace Field

/-- A field that must be present. -/
def required {α : Type} (name : String) (codec : Codec α) : Field :=
  ⟨name, α, codec, none, fun _ => false⟩

/-- A field with a value for its absence; it is always written. -/
def withDefault {α : Type} (name : String) (codec : Codec α) (value : α) : Field :=
  ⟨name, α, codec, some value, fun _ => false⟩

/-- A field that may be absent or null, and is not written then. -/
def optional {α : Type} (name : String) (codec : Codec α) : Field :=
  ⟨name, Option α, codec.option, some none, Option.isNone⟩

end Field

/-- One value for each field. -/
def Cells : List Field → Type
  | [] => Unit
  | field :: fields => field.Carrier × Cells fields

/-- At most one value for each field: those that were read so far. -/
def Slots : List Field → Type
  | [] => Unit
  | field :: fields => Option field.Carrier × Slots fields

namespace Slots

/-- No value for any field. -/
def empty : (fields : List Field) → Slots fields
  | [] => ()
  | _ :: fields => (none, empty fields)

/--
Reads the value of the field named `key` into its slot; none if there is no such field. It is a
fault to read a field twice.
-/
def fill {ε : Type} (read : (field : Field) → Except ε field.Carrier) (twice : String → ε)
    (key : String) : (fields : List Field) → Slots fields → Option (Except ε (Slots fields))
  | [], _ => none
  | field :: fields, (slot, slots) =>
    if field.name = key then
      match slot with
      | some _ => some (.error (twice key))
      | none => some ((read field).map fun value => (some value, slots))
    else (fill read twice key fields slots).map fun filled =>
      filled.map fun slots => (slot, slots)

/-- The values of all fields, where an empty slot takes the value of an absent field. -/
def complete : (fields : List Field) → Slots fields → Except Mismatch (Cells fields)
  | [], _ => .ok ()
  | field :: fields, (slot, slots) =>
    match slot.or field.absent with
    | none => .error (.missingField field.name)
    | some value => (complete fields slots).map fun cells => (value, cells)

end Slots

/-- The members of an object that stand for the values of the fields. -/
def Cells.members : (fields : List Field) → Cells fields → List (String × Value)
  | [], _ => []
  | field :: fields, (value, cells) =>
    (if field.omits value then [] else [(field.name, field.codec.write value)])
      ++ members fields cells

/-- A record: its name and its fields in order. -/
structure Layout where
  /-- The name by which mismatches call the record. -/
  name : String
  /-- The fields. -/
  fields : List Field

namespace Layout

/-- What a reader of the record expects. -/
def words (layout : Layout) : String :=
  "struct " ++ layout.name

/-- What a reader of the record expects of an array of its fields. -/
def sequenceWords (layout : Layout) : String :=
  layout.words ++ " with " ++ Text.decimal layout.fields.length
    ++ (if layout.fields.length = 1 then " element" else " elements")

/-- Reads members into the slots of their fields; members without a field are listed beside. -/
def fillValues (fields : List Field) (slots : Slots fields)
    : List (String × Value) → Except Mismatch (Slots fields × List (String × Value))
  | [] => .ok (slots, [])
  | (key, item) :: rest =>
    match Slots.fill (fun field => field.codec.ofValue item) .duplicateField key fields slots with
    | none => (fillValues fields slots rest).map fun (slots, extra) => (slots, (key, item) :: extra)
    | some (.error found) => .error found
    | some (.ok slots) => fillValues fields slots rest

/-- Reads drafted members into the slots of their fields; those without a field stand beside. -/
def fillDrafts (depth : Nat) (fields : List Field) (slots : Slots fields)
    : List (String × List Char × Draft) → Except Fault (Slots fields × List (String × Value))
  | [] => .ok (slots, [])
  | (key, afterKey, item) :: rest =>
    let twice := fun name => ⟨.mismatch (.duplicateField name), leaveObject afterKey⟩
    match Slots.fill (fun field => field.codec.ofDraft depth item) twice key fields slots with
    | none =>
      match item.value? depth with
      | .error fault => .error fault
      | .ok value =>
        (fillDrafts depth fields slots rest).map fun (slots, extra) =>
          (slots, (key, value) :: extra)
    | some (.error fault) => .error fault
    | some (.ok slots) => fillDrafts depth fields slots rest

/-- Reads the members of an object. -/
def readValues (fields : List Field) (members : List (String × Value))
    : Except Mismatch (Cells fields × Object) :=
  match fillValues fields (.empty fields) members with
  | .error found => .error found
  | .ok (slots, extra) =>
    (slots.complete fields).map fun cells => (cells, .ofMembers extra)

/-- Reads the members of a drafted object, which end at `finish`. -/
def readDrafts (depth : Nat) (fields : List Field) (members : List (String × List Char × Draft))
    (finish : Except Fault (List Char)) : Except Fault (Cells fields × Object) :=
  match fillDrafts depth fields (.empty fields) members with
  | .error fault => .error fault
  | .ok (slots, extra) =>
    match finish with
    | .error fault => .error fault
    | .ok after =>
      Mismatch.at (.before after)
        ((slots.complete fields).map fun cells => (cells, .ofMembers extra))

/-- The codec of an open record: the values of its fields, and all further members. -/
def openCodec (layout : Layout) : Codec (Cells layout.fields × Object) where
  ofValue
    | .object members => readValues layout.fields members
    | value => (Codec.refuse layout.words).ofValue value
  ofDraft depth
    | .object text members finish =>
      if depth ≤ 1 then .error ⟨.tooDeep, .at text⟩
      else readDrafts (depth - 1) layout.fields members finish
    | draft => (Codec.refuse layout.words).ofDraft depth draft
  keeps := Codec.keepsAll
  write := fun (cells, extra) => .object (cells.members layout.fields ++ extra.members)

/-- Reads the fields from the items of an array; `count` fields were read before. -/
def cellsOfValues (words : String) (count : Nat)
    : (fields : List Field) → List Value → Except Mismatch (Cells fields)
  | [], [] => .ok ()
  | [], rest => .error (.wrongLength (count + rest.length) "fewer elements in array")
  | field :: fields, [] =>
    match field.absent with
    | none => .error (.wrongLength count words)
    | some value => (cellsOfValues words (count + 1) fields []).map fun cells => (value, cells)
  | field :: fields, item :: rest =>
    match field.codec.ofValue item with
    | .error found => .error found
    | .ok value => (cellsOfValues words (count + 1) fields rest).map fun cells => (value, cells)

/--
Reads the fields from the items of a drafted array that ends at `finish`; `count` fields were read
before, and `text` follows the last of them.
-/
def cellsOfDrafts (words : String) (depth count : Nat) (finish : Except Fault (List Char))
    (text : List Char)
    : (fields : List Field) → List Draft → Except Fault (Cells fields)
  | [], _ => endArray text
  | field :: fields, [] =>
    match finish with
    | .error fault => .error fault
    | .ok after =>
      match field.absent with
      | none => .error ⟨.mismatch (.wrongLength count words), .before after⟩
      | some value =>
        (cellsOfDrafts words depth (count + 1) finish text fields []).map fun cells =>
          (value, cells)
  | field :: fields, item :: rest =>
    match field.codec.ofDraft depth item with
    | .error fault => .error fault
    | .ok value =>
      match item.finish with
      | .error fault => .error fault
      | .ok after =>
        (cellsOfDrafts words depth (count + 1) finish after fields rest).map fun cells =>
          (value, cells)

/-- The codec of a closed record: the values of its fields. -/
def closedCodec (layout : Layout) : Codec (Cells layout.fields) where
  ofValue
    | .object members => (readValues layout.fields members).map Prod.fst
    | .array items => cellsOfValues layout.sequenceWords 0 layout.fields items
    | value => (Codec.refuse layout.words).ofValue value
  ofDraft depth
    | .object text members finish =>
      if depth ≤ 1 then .error ⟨.tooDeep, .at text⟩
      else (readDrafts (depth - 1) layout.fields members finish).map Prod.fst
    | .array text items finish =>
      if depth ≤ 1 then .error ⟨.tooDeep, .at text⟩
      else cellsOfDrafts layout.sequenceWords (depth - 1) 0 finish text.tail layout.fields items
    | draft => (Codec.refuse layout.words).ofDraft depth draft
  keeps := fun key => layout.fields.any fun field => field.name == key
  write := fun cells => .object (cells.members layout.fields)

end Layout

end DiscordRest.Json
