import DiscordRest.Proofs.Json.Return

/-!
What codecs accept. The meaning of a codec says which value stands for which; a schema says of the
members of an object which must be there, which may be null, and which values they may have. A
record is read from just the objects that meet its schema.
-/

namespace DiscordRest.Json

variable {α β : Type}

------------------------------------------------------------------------------------------
-- Meanings
------------------------------------------------------------------------------------------

/-- Which values of a document stand for which values of a type. -/
abbrev Means (α : Type) : Type := Value → α → Prop

namespace Means

def string : Means String :=
  fun value text => value = .string text

def boolean : Means Bool :=
  fun value truth => value = .boolean truth

def natural (greatest : Nat) : Means { n : Nat // n ≤ greatest } :=
  fun value n => ∃ bounds, value = .number (.integer n.val bounds)

/-- A snowflake is its number, or a numeral of it behind one plus sign or none. -/
def snowflake : Means Snowflake :=
  fun value id =>
    (∃ bounds, value = .number (.integer id.value.toNat bounds))
    ∨ ∃ text digits,
        value = .string text
        ∧ (text.toList = digits ∨ text.toList = '+' :: digits)
        ∧ Text.IsNumeral digits id.value.toNat

def list (means : Means α) : Means (List α) :=
  fun value xs => ∃ items, value = .array items ∧ List.Forall₂ means items xs

/-- An object that is described by its members. -/
def object (describes : List (String × Value) → α → Prop) : Means α :=
  fun value x => ∃ members, value = .object members ∧ describes members x

/-- A member that must be there. -/
def required (means : Means α) : Option Value → α → Prop
  | none, _ => False
  | some value, x => means value x

/-- A member that may be absent or null, and stands for nothing then. -/
def optional (means : Means α) : Option Value → Option α → Prop
  | none, x => x = none
  | some value, x => value = .null ∧ x = none ∨ ∃ y, means value y ∧ x = some y

/-- A member that may be absent, and stands for a given value then. -/
def withDefault (means : Means α) (default : α) : Option Value → α → Prop
  | none, x => x = default
  | some value, x => means value x

end Means

/-- The values that stand for something. -/
def Means.Admits (means : Means α) (value : Value) : Prop :=
  ∃ x, means value x

/-- What a codec reads from a normalised value is what the value stands for. -/
def Codec.Denotes (codec : Codec α) (means : Means α) : Prop :=
  ∀ value x, value.normalise = value → (codec.ofValue value = .ok x ↔ means value x)

/-- A codec reads the normalised values that are admitted, and no others. -/
def Codec.Accepts (codec : Codec α) (admits : Value → Prop) : Prop :=
  ∀ value, value.normalise = value → ((∃ x, codec.ofValue value = .ok x) ↔ admits value)

namespace Codec

variable {codec : Codec α} {means : Means α} {admits : Value → Prop}

theorem Denotes.accepts (denotes : codec.Denotes means) : codec.Accepts means.Admits :=
  fun value normal => exists_congr fun x => denotes value x normal

theorem denotes_string : string.Denotes .string := by
  intro value text _
  cases value with
  | string found => simp [string, ofScalar, Means.string]
  | number number => cases number <;> exact iff_of_false (by rintro ⟨⟩) (by rintro ⟨⟩)
  | null | boolean | array | object => exact iff_of_false (by rintro ⟨⟩) (by rintro ⟨⟩)

theorem denotes_boolean : boolean.Denotes .boolean := by
  intro value truth _
  cases value with
  | boolean found => simp [boolean, ofScalar, Means.boolean]
  | number number => cases number <;> exact iff_of_false (by rintro ⟨⟩) (by rintro ⟨⟩)
  | null | string | array | object => exact iff_of_false (by rintro ⟨⟩) (by rintro ⟨⟩)

theorem denotes_natural (name : String) (greatest : Nat) (h : greatest ≤ greatestWord)
    : (natural name greatest h).Denotes (.natural greatest) := by
  rintro value ⟨n, below⟩ -
  cases value with
  | number number =>
      cases number with
      | real _ => exact iff_of_false (by rintro ⟨⟩) (by rintro ⟨_, ⟨⟩⟩)
      | integer found bounds =>
          simp only [natural, ofScalar, Means.natural, Value.number.injEq, Number.integer.injEq]
          split
          · simp only [Except.ok.injEq, Subtype.mk.injEq]
            constructor
            · rintro rfl
              exact ⟨by omega, by omega⟩
            · rintro ⟨-, rfl⟩
              exact Int.toNat_natCast n
          · refine iff_of_false (by rintro ⟨⟩) ?_
            rintro ⟨-, rfl⟩
            omega
  | null | boolean | string | array | object =>
      exact iff_of_false (by rintro ⟨⟩) (by rintro ⟨_, ⟨⟩⟩)

theorem ofValue_snowflake_string_eq_ok_iff {text : String} {id : Snowflake}
    : snowflake.ofValue (.string text) = .ok id ↔ Snowflake.ofText? text = some id := by
  simp only [snowflake, ofAnyScalar, ofScalar]
  cases Snowflake.ofText? text with
  | some found => simp
  | none => simp

theorem denotes_snowflake : snowflake.Denotes .snowflake := by
  intro value id _
  cases value with
  | number number =>
      cases number with
      | real _ =>
          exact iff_of_false (by rintro ⟨⟩) (by rintro (⟨_, ⟨⟩⟩ | ⟨_, _, ⟨⟩, -⟩))
      | integer found bounds =>
          simp only [snowflake, ofAnyScalar, ofScalar, Means.snowflake]
          have fits : found.toNat < UInt64.size := by
            have greatest := bounds.2
            unfold greatestInteger at greatest
            show found.toNat < 18446744073709551616
            omega
          constructor
          · intro read
            split at read
            · rename_i positive
              obtain rfl := Except.ok.inj read
              refine Or.inl ?_
              rw [UInt64.toNat_ofNat_of_lt' fits, Int.toNat_of_nonneg positive]
              exact ⟨bounds, rfl⟩
            · cases read
          · rintro (⟨_, same⟩ | ⟨_, _, impossible, -⟩)
            · obtain rfl := (Number.integer.inj (Value.number.inj same))
              simp only [if_pos (Int.natCast_nonneg _), Int.toNat_natCast, UInt64.ofNat_toNat]
            · cases impossible
  | string text =>
      rw [ofValue_snowflake_string_eq_ok_iff, Snowflake.ofText?_eq_some_iff]
      constructor
      · rintro ⟨digits, shape, numeral⟩
        exact Or.inr ⟨text, digits, rfl, shape, numeral⟩
      · rintro (⟨_, impossible⟩ | ⟨_, digits, same, shape, numeral⟩)
        · cases impossible
        · obtain rfl := Value.string.inj same
          exact ⟨digits, shape, numeral⟩
  | null | boolean | array | object =>
      exact iff_of_false (by rintro ⟨⟩) (by rintro (⟨_, ⟨⟩⟩ | ⟨_, _, ⟨⟩, -⟩))

theorem Denotes.convert {forth : α → β} {back : β → α} (denotes : codec.Denotes means)
    (inverse : ∀ x, back (forth x) = x) (same : ∀ y, forth (back y) = y)
    : (codec.convert forth back).Denotes fun value y => means value (back y) := by
  intro value y normal
  refine Except.map_eq_ok_iff.trans (Iff.trans ?_ (denotes value (back y) normal))
  constructor
  · rintro ⟨x, read, rfl⟩
    rwa [inverse]
  · exact fun read => ⟨_, read, same y⟩

theorem Accepts.convert (accepts : codec.Accepts admits) (forth : α → β) (back : β → α)
    : (codec.convert forth back).Accepts admits := by
  intro value normal
  rw [← accepts value normal]
  constructor
  · rintro ⟨_, read⟩
    obtain ⟨x, read, -⟩ := Except.map_eq_ok_iff.mp read
    exact ⟨x, read⟩
  · rintro ⟨x, read⟩
    exact ⟨forth x, Except.map_eq_ok_iff.mpr ⟨x, read, rfl⟩⟩

theorem valuesOf_eq_ok_iff {items : List Value} {xs : List α}
    : valuesOf codec items = .ok xs
      ↔ List.Forall₂ (fun item x => codec.ofValue item = .ok x) items xs := by
  induction items generalizing xs with
  | nil => simp [valuesOf, eq_comm]
  | cons item rest ih =>
      rw [valuesOf_cons_eq_ok_iff, List.forall₂_cons_left_iff]
      simp only [ih]
      constructor
      · rintro ⟨first, later, read, reads, rfl⟩
        exact ⟨first, later, read, reads, rfl⟩
      · rintro ⟨first, later, read, reads, rfl⟩
        exact ⟨first, later, read, reads, rfl⟩

/-- A list is read from an array where each item is. -/
theorem ofValue_list_eq_ok_iff {value : Value} {xs : List α}
    : (list codec).ofValue value = .ok xs
      ↔ ∃ items,
          value = .array items
          ∧ List.Forall₂ (fun item x => codec.ofValue item = .ok x) items xs := by
  cases value with
  | array items => simp [list, valuesOf_eq_ok_iff]
  | number number =>
      cases number <;> exact iff_of_false (by rintro ⟨⟩) (by rintro ⟨_, ⟨⟩, -⟩)
  | null | boolean | string | object =>
      exact iff_of_false (by rintro ⟨⟩) (by rintro ⟨_, ⟨⟩, -⟩)

theorem forall₂_congr {R S : Value → α → Prop} {items : List Value} {xs : List α}
    (same : ∀ item ∈ items, ∀ x, R item x ↔ S item x)
    : List.Forall₂ R items xs ↔ List.Forall₂ S items xs := by
  induction items generalizing xs with
  | nil => simp
  | cons item rest ih =>
      obtain ⟨first, later⟩ := List.forall_mem_cons.mp same
      simp only [List.forall₂_cons_left_iff, first, ih later]

theorem Denotes.list (denotes : codec.Denotes means) : (list codec).Denotes means.list := by
  intro value xs normal
  refine ofValue_list_eq_ok_iff.trans (exists_congr fun items => and_congr_right ?_)
  rintro rfl
  exact forall₂_congr fun item inside x =>
    denotes item x (Value.normalise_of_mem_array normal inside)

end Codec

------------------------------------------------------------------------------------------
-- Fields
------------------------------------------------------------------------------------------

namespace Codec.Denotes

variable {codec : Codec α} {means : Means α} {found : Option Value} {name : String}

theorem required (denotes : codec.Denotes means) (normal : found.map Value.normalise = found)
    {x : α}
    : (Field.required name codec).Reads found x ↔ means.required found x := by
  cases found with
  | none => exact ⟨nofun, nofun⟩
  | some value => exact denotes value x (Option.some.inj normal)

theorem withDefault (denotes : codec.Denotes means) (normal : found.map Value.normalise = found)
    {default x : α}
    : (Field.withDefault name codec default).Reads found x
      ↔ means.withDefault default found x := by
  cases found with
  | none => exact Option.some_inj.trans eq_comm
  | some value => exact denotes value x (Option.some.inj normal)

theorem optional (denotes : codec.Denotes means) (normal : found.map Value.normalise = found)
    (refuses : ∀ y, codec.ofValue .null ≠ .ok y) {x : Option α}
    : (Field.optional name codec).Reads found x ↔ means.optional found x := by
  cases found with
  | none => exact Option.some_inj.trans eq_comm
  | some value =>
      have inside := fun y => denotes value y (Option.some.inj normal)
      refine Codec.ofValue_option_eq_ok_iff.trans ?_
      simp only [Means.optional, ← inside]
      cases null : value.isNull with
      | true =>
          obtain rfl := Value.eq_null_of_isNull null
          simp [refuses]
      | false =>
          have other : value ≠ .null := by
            rintro rfl
            cases null
          simp [other]

end Codec.Denotes

------------------------------------------------------------------------------------------
-- Records
------------------------------------------------------------------------------------------

/-- What a schema says of a member that is absent or null. -/
inductive Presence where
  /-- It must be there, and not null. -/
  | required
  /-- It may be absent, or null as well. -/
  | optional
  /-- It may be absent, but not null. -/
  | withDefault
  deriving DecidableEq, Repr

/-- What a schema says of one member of an object. -/
structure Demand where
  name : String
  presence : Presence
  admits : Value → Prop

/-- What is found under the name of a demand meets it. -/
def Demand.Met (demand : Demand) : Option Value → Prop
  | none => demand.presence ≠ .required
  | some value => demand.admits value ∨ demand.presence = .optional ∧ value = .null

/-- An object meets all demands, whatever its other members are. -/
def Value.Meets (demands : List Demand) (value : Value) : Prop :=
  ∃ members,
    value = .object members
    ∧ ∀ demand ∈ demands, demand.Met (Keyed.get? demand.name members)

/-- A field reads just what meets a demand. -/
structure Field.Conforms (field : Field) (demand : Demand) : Prop where
  name : field.name = demand.name
  reads
    : ∀ found : Option Value,
        found.map Value.normalise = found
        → ((∃ cell, field.Reads found cell) ↔ demand.Met found)

namespace Field

variable {codec : Codec α} {admits : Value → Prop}

theorem conforms_required (name : String) (accepts : codec.Accepts admits)
    : (required name codec).Conforms ⟨name, .required, admits⟩ where
  name := rfl
  reads found normal := by
    cases found with
    | none => simp [Reads, required, Demand.Met]
    | some value => exact (accepts value (Option.some.inj normal)).trans (by simp [Demand.Met])

theorem conforms_withDefault (name : String) (default : α) (accepts : codec.Accepts admits)
    : (withDefault name codec default).Conforms ⟨name, .withDefault, admits⟩ where
  name := rfl
  reads found normal := by
    cases found with
    | none => simp [Reads, withDefault, Demand.Met]
    | some value => exact (accepts value (Option.some.inj normal)).trans (by simp [Demand.Met])

theorem conforms_optional (name : String) (accepts : codec.Accepts admits)
    : (optional name codec).Conforms ⟨name, .optional, admits⟩ where
  name := rfl
  reads found normal := by
    cases found with
    | none => simp [Reads, optional, Demand.Met]
    | some value =>
        have inside := accepts value (Option.some.inj normal)
        have option : (∃ cell, codec.option.ofValue value = .ok cell)
            ↔ (∃ x, codec.ofValue value = .ok x) ∨ value = .null := by
          simp only [Codec.ofValue_option_eq_ok_iff]
          cases null : value.isNull with
          | true => simp [Value.eq_null_of_isNull null]
          | false =>
              have other : value ≠ .null := by
                rintro rfl
                cases null
              simp [other]
        exact option.trans (by simp [Demand.Met, inside])

/-- All fields read what stands under their names where it meets all demands. -/
theorem forall_reads_iff {fields : List Field} {demands : List Demand}
    (conforms : List.Forall₂ Conforms fields demands) {look : String → Option Value}
    (normal : ∀ name, (look name).map Value.normalise = look name)
    : (∀ field ∈ fields, ∃ cell, field.Reads (look field.name) cell)
      ↔ ∀ demand ∈ demands, demand.Met (look demand.name) := by
  induction conforms with
  | nil => simp
  | cons first _ ih =>
      rw [List.forall_mem_cons, List.forall_mem_cons, ih, first.reads _ (normal _), first.name]

end Field

theorem Cells.exists_read_iff {fields : List Field} {look : String → Option Value}
    : (∃ cells : Cells fields, cells.Read look fields)
      ↔ ∀ field ∈ fields, ∃ cell, field.Reads (look field.name) cell := by
  induction fields with
  | nil => exact ⟨nofun, fun _ => ⟨(), trivial⟩⟩
  | cons field fields ih =>
      rw [List.forall_mem_cons, ← ih]
      constructor
      · rintro ⟨⟨cell, cells⟩, here, later⟩
        exact ⟨⟨cell, here⟩, cells, later⟩
      · rintro ⟨⟨cell, here⟩, cells, later⟩
        exact ⟨(cell, cells), here, later⟩

namespace Layout

variable {layout : Layout} {value : Value}

/-- What an open record reads: each field what stands under its key, and all other members. -/
theorem denotes_openCodec (single : (fieldNames layout.fields).Nodup)
    : layout.openCodec.Denotes (.object fun members x =>
        x.1.Read (fun name => Keyed.get? name members) layout.fields
        ∧ x.2.members = others layout.fields members) := by
  rintro value ⟨cells, extra⟩ normal
  have kept : ∀ {members : List (String × Value)},
      (Value.object members).normalise = .object members
      → (readValues layout.fields members = .ok (cells, extra)
        ↔ cells.Read (fun name => Keyed.get? name members) layout.fields
          ∧ extra.members = others layout.fields members) := by
    intro members normal
    have once := (Value.ascending_of_normal normal).nodup
    refine (readValues_eq_ok_iff single once).trans (and_congr_right fun _ => ?_)
    have others := Object.members_ofMembers_filter normal fun member =>
      member.1 ∉ fieldNames layout.fields
    constructor
    · rintro rfl
      exact others
    · intro same
      rw [← extra.ofMembers_members, same]
  constructor
  · intro read
    obtain ⟨members, rfl, read⟩ := ofValue_openCodec_eq_ok read
    exact ⟨members, rfl, (kept normal).mp read⟩
  · rintro ⟨members, rfl, read⟩
    exact (kept normal).mpr read

/-- A record is read from the objects that describe it, if its fields are described there. -/
theorem denotes_convert {forth : Cells layout.fields × Object → α}
    {back : α → Cells layout.fields × Object} {describes : List (String × Value) → α → Prop}
    (inverse : ∀ x, back (forth x) = x) (same : ∀ y, forth (back y) = y)
    (single : (fieldNames layout.fields).Nodup)
    (agree
      : ∀ members y,
          (∀ name, (Keyed.get? name members).map Value.normalise = Keyed.get? name members)
          → ((back y).1.Read (fun name => Keyed.get? name members) layout.fields
              ∧ (back y).2.members = others layout.fields members
            ↔ describes members y))
    : (layout.openCodec.convert forth back).Denotes (.object describes) := by
  intro value y normal
  refine ((denotes_openCodec single).convert inverse same value y normal).trans ?_
  refine exists_congr fun members => and_congr_right ?_
  rintro rfl
  exact agree members y (Value.normalise_get? normal)

/-- An open record whose fields conform to a schema is read from just the objects that meet it. -/
theorem accepts_openCodec {demands : List Demand}
    (conforms : List.Forall₂ Field.Conforms layout.fields demands)
    (single : (fieldNames layout.fields).Nodup)
    : layout.openCodec.Accepts (Value.Meets demands) := by
  intro value normal
  constructor
  · rintro ⟨⟨cells, extra⟩, read⟩
    obtain ⟨members, rfl, reads, -⟩ := (denotes_openCodec single _ _ normal).mp read
    have each := Cells.exists_read_iff.mp ⟨cells, reads⟩
    exact ⟨members, rfl,
      (Field.forall_reads_iff conforms (Value.normalise_get? normal)).mp each⟩
  · rintro ⟨members, rfl, met⟩
    have each := (Field.forall_reads_iff conforms (Value.normalise_get? normal)).mpr met
    obtain ⟨cells, reads⟩ : ∃ cells : Cells layout.fields,
        cells.Read (fun name => Keyed.get? name members) layout.fields :=
      Cells.exists_read_iff.mpr each
    refine ⟨(cells, .ofMembers (others layout.fields members)), ?_⟩
    exact (denotes_openCodec single _ _ normal).mpr
      ⟨members, rfl, reads, Object.members_ofMembers_filter normal _⟩

end Layout

end DiscordRest.Json
