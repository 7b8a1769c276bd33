import DiscordRest.Proofs.Json.Agreement
import DiscordRest.Proofs.Json.Tidy
import DiscordRest.Proofs.Json.Whole

/-!
Texts that are read back. What a codec writes for a value is read as this value again, from the
compact text as from the written value, if it holds no floating-point numbers and nests no deeper
than a reader goes.
-/

namespace DiscordRest.Json

variable {α β : Type}

------------------------------------------------------------------------------------------
-- Codecs
------------------------------------------------------------------------------------------

/-- What is written for a value nests to a depth below `levels`, is exact, and is read back. -/
structure Codec.Returns (codec : Codec α) (levels : Nat) (x : α) : Prop where
  exact : (codec.write x).isExact = true
  shallow : (codec.write x).depth < levels
  again : codec.ofValue (codec.write x) = .ok x

namespace Codec

variable {codec : Codec α} {levels : Nat}

theorem returns_string (positive : 0 < levels) (text : String) : string.Returns levels text :=
  ⟨rfl, positive, rfl⟩

theorem returns_boolean (positive : 0 < levels) (truth : Bool) : boolean.Returns levels truth :=
  ⟨rfl, positive, rfl⟩

theorem returns_natural (positive : 0 < levels) (name : String) (greatest : Nat)
    (h : greatest ≤ greatestWord) (n : { n : Nat // n ≤ greatest })
    : (natural name greatest h).Returns levels n where
  exact := rfl
  shallow := positive
  again := by
    simp only [natural, ofScalar, Scalar.value, Int.toNat_natCast]
    rw [dif_pos ⟨n.property, Int.natCast_nonneg _⟩]

theorem returns_snowflake (positive : 0 < levels) (id : Snowflake)
    : snowflake.Returns levels id where
  exact := rfl
  shallow := positive
  again := by
    simp only [snowflake, ofAnyScalar, ofScalar, Scalar.value, Snowflake.ofText?_text]

theorem Returns.convert {forth : α → β} {back : β → α} {y : β}
    (returns : codec.Returns levels (back y)) (inverse : forth (back y) = y)
    : (codec.convert forth back).Returns levels y where
  exact := returns.exact
  shallow := returns.shallow
  again := by
    simp only [Codec.convert, returns.again]
    exact congrArg Except.ok inverse

theorem returns_list {xs : List α} (returns : ∀ x ∈ xs, codec.Returns levels x)
    (positive : 0 < levels)
    : (list codec).Returns (levels + 1) xs := by
  have inside : Value.isExact.itemsExact (xs.map codec.write) = true
      ∧ Value.depth.itemsDepth (xs.map codec.write) < levels
      ∧ valuesOf codec (xs.map codec.write) = .ok xs := by
    induction xs with
    | nil => exact ⟨rfl, positive, rfl⟩
    | cons x xs ih =>
        have first := returns x List.mem_cons_self
        obtain ⟨exact, shallow, again⟩ :=
          ih fun x member => returns x (List.mem_cons_of_mem _ member)
        refine ⟨?_, ?_, ?_⟩
        · simp [Value.isExact.itemsExact, first.exact, exact]
        · exact Nat.max_lt.mpr ⟨first.shallow, shallow⟩
        · simp only [List.map_cons, valuesOf, first.again, again]
          rfl
  exact ⟨inside.1, Nat.succ_lt_succ inside.2.1, inside.2.2⟩

end Codec

------------------------------------------------------------------------------------------
-- Records
------------------------------------------------------------------------------------------

/-- A value of a field is left out where it is the one for absence, or else is read back. -/
structure Field.Returns (field : Field) (levels : Nat) (cell : field.Carrier) : Prop where
  omitted : field.omits cell = true → field.absent = some cell
  written : field.omits cell = false → field.codec.Returns levels cell

namespace Field

variable {codec : Codec α} {levels : Nat}

theorem returns_required (name : String) {x : α} (returns : codec.Returns levels x)
    : (required name codec).Returns levels x :=
  ⟨nofun, fun _ => returns⟩

theorem returns_withDefault (name : String) (value : α) {x : α} (returns : codec.Returns levels x)
    : (withDefault name codec value).Returns levels x :=
  ⟨nofun, fun _ => returns⟩

theorem returns_optional (name : String) {x : Option α}
    (returns : ∀ y, x = some y → codec.Returns levels y)
    (refuses : ∀ y, codec.ofValue .null ≠ .ok y)
    : (optional name codec).Returns levels x where
  omitted none := congrArg some (Option.isNone_iff_eq_none.mp none).symm
  written given := by
    cases x with
    | none => cases given
    | some y =>
        have inside := returns y rfl
        refine ⟨inside.exact, inside.shallow, ?_⟩
        refine Codec.ofValue_option_eq_ok_iff.mpr (Or.inr ⟨?_, y, inside.again, rfl⟩)
        refine Bool.eq_false_iff.mpr fun null => ?_
        exact refuses y (Value.eq_null_of_isNull null ▸ inside.again)

end Field

namespace Cells

variable {levels : Nat}

/-- Each field reads its value back. -/
def Return (levels : Nat) : (fields : List Field) → Cells fields → Prop
  | [], _ => True
  | field :: fields, (cell, cells) => field.Returns levels cell ∧ Return levels fields cells

variable {fields : List Field} {cells : Cells fields}

theorem Return.written (returns : cells.Return levels fields) {member : String × Value}
    (inside : member ∈ cells.members fields)
    : member.2.isExact = true ∧ member.2.depth < levels := by
  induction fields with
  | nil => cases inside
  | cons field fields ih =>
      obtain ⟨cell, cells⟩ := cells
      rcases List.mem_append.mp inside with here | later
      · split at here
        · cases here
        · rename_i given
          obtain rfl := List.mem_singleton.mp here
          have codec := returns.1.written (Bool.eq_false_iff.mpr given)
          exact ⟨codec.exact, codec.shallow⟩
      · exact ih returns.2 later

theorem read_congr {look other : String → Option Value}
    (same : ∀ name ∈ fieldNames fields, look name = other name)
    : cells.Read look fields ↔ cells.Read other fields := by
  induction fields with
  | nil => exact Iff.rfl
  | cons field fields ih =>
      obtain ⟨cell, cells⟩ := cells
      simp only [Read, same field.name List.mem_cons_self]
      rw [ih fun name member => same name (List.mem_cons_of_mem _ member)]

/-- The members that stand for the fields are read as their values, by induction on the fields. -/
theorem Return.read (returns : cells.Return levels fields) (single : (fieldNames fields).Nodup)
    : cells.Read (fun name => Keyed.get? name (cells.members fields)) fields := by
  induction fields with
  | nil => trivial
  | cons field fields ih =>
      obtain ⟨cell, cells⟩ := cells
      obtain ⟨fresh, later⟩ := List.nodup_cons.mp single
      have unnamed : Keyed.get? field.name (cells.members fields) = none := by
        refine Keyed.get?_eq_none_iff.mpr ?_
        rintro member written same
        exact fresh (same ▸ fst_mem_of_mem_members written)
      constructor
      · simp only [members, Keyed.get?_append, unnamed, Option.or_none]
        cases omits : field.omits cell with
        | true => exact returns.1.omitted omits
        | false =>
            simpa [Keyed.get?, Field.Reads] using (returns.1.written omits).again
      · refine (read_congr ?_).mp (ih returns.2 later)
        intro name member
        have differ : field.name ≠ name := by
          rintro rfl
          exact fresh member
        simp only [members, Keyed.get?_append]
        split <;> simp [Keyed.get?, differ]

end Cells

/--
The members of a record beside its fields: none has the key of a field, and no floating-point
numbers are in them, nor arrays and objects to a depth of `levels` or more.
-/
structure Object.Beside (extra : Object) (fields : List Field) (levels : Nat) : Prop where
  apart : ∀ member ∈ extra.members, member.1 ∉ fieldNames fields
  exact : ∀ member ∈ extra.members, member.2.isExact = true
  shallow : ∀ member ∈ extra.members, member.2.depth < levels

theorem Object.ofMembers_members (object : Object) : ofMembers object.members = object := by
  obtain ⟨members, normal⟩ := object
  have sorted : Keyed.sort (Value.normalise.normaliseMembers members) = members :=
    Value.object.inj normal
  simp only [ofMembers, sorted]

namespace Layout

variable {layout : Layout} {levels : Nat} {cells : Cells layout.fields} {extra : Object}

/-- What is written of an open record is taken apart again. -/
theorem readValues_members (single : (fieldNames layout.fields).Nodup)
    (returns : cells.Return levels layout.fields)
    (apart : ∀ member ∈ extra.members, member.1 ∉ fieldNames layout.fields)
    : readValues layout.fields (cells.members layout.fields ++ extra.members)
      = .ok (cells, extra) := by
  have once : ((cells.members layout.fields ++ extra.members).map Prod.fst).Nodup :=
    Cells.nodup_members_append single apart (Value.ascending_of_normal extra.normal).nodup
  refine (readValues_eq_ok_iff single once).mpr ⟨?_, ?_⟩
  · refine (Cells.read_congr ?_).mp (returns.read single)
    intro name named
    have absent : Keyed.get? name extra.members = none := by
      refine Keyed.get?_eq_none_iff.mpr ?_
      rintro member inside rfl
      exact apart member inside named
    rw [Keyed.get?_append, absent, Option.or_none]
  · have kept : others layout.fields (cells.members layout.fields ++ extra.members)
        = extra.members := by
      rw [others, List.filter_append, List.filter_eq_nil_iff.mpr, List.nil_append,
        List.filter_eq_self.mpr]
      · exact fun member inside => decide_eq_true (apart member inside)
      · intro member inside
        simpa only [decide_eq_true_eq, not_not] using Cells.fst_mem_of_mem_members inside
    rw [kept]
    exact extra.ofMembers_members.symm

/-- An open record is read back with the members beside its fields. -/
theorem returns_openCodec (single : (fieldNames layout.fields).Nodup)
    (returns : cells.Return levels layout.fields) (positive : 0 < levels)
    (beside : extra.Beside layout.fields levels)
    : layout.openCodec.Returns (levels + 1) (cells, extra) where
  exact := by
    refine Value.membersExact_iff.mpr fun member inside => ?_
    rcases List.mem_append.mp inside with field | other
    · exact (returns.written field).1
    · exact beside.exact member other
  shallow := by
    refine Nat.succ_lt_succ ((Value.membersDepth_lt_iff positive).mpr fun member inside => ?_)
    rcases List.mem_append.mp inside with field | other
    · exact (returns.written field).2
    · exact beside.shallow member other
  again := readValues_members single returns beside.apart

/-- A closed record is read back as an open one with nothing beside its fields. -/
theorem returns_closedCodec (single : (fieldNames layout.fields).Nodup)
    (returns : cells.Return levels layout.fields) (positive : 0 < levels)
    : layout.closedCodec.Returns (levels + 1) cells := by
  have whole : layout.openCodec.Returns (levels + 1) (cells, .empty) :=
    returns_openCodec single returns positive ⟨nofun, nofun, nofun⟩
  have same : layout.openCodec.write (cells, .empty) = layout.closedCodec.write cells :=
    congrArg Value.object (List.append_nil _)
  obtain ⟨exact, shallow, again⟩ := whole
  rw [same] at exact shallow again
  exact ⟨exact, shallow, Except.map_eq_ok_iff.mpr ⟨_, again, rfl⟩⟩

end Layout

------------------------------------------------------------------------------------------
-- Texts
------------------------------------------------------------------------------------------

/-- What is read from a value is read from its text, if nothing in the text is passed over. -/
theorem Codec.ofText_text_of_ofValue {codec : Codec α} {value : Value} {x : α}
    (exact : value.isExact = true) (shallow : value.depth < Draft.depthLimit)
    (read : codec.ofValue value = .ok x) (kept : ∀ key ∈ value.keys, codec.keeps key = true)
    (agrees : ∀ draft : Draft, draft.Shows value [] → codec.AgreesOn draft)
    : codec.ofText value.text = .ok x := by
  have shown := Draft.shows_ofText exact kept
  refine Codec.ofText_eq_ok_iff.mpr ⟨?_, [], shown.finish, rfl⟩
  exact (agrees _ shown Draft.depthLimit x).mpr ⟨_, shown.value Draft.depthLimit shallow, read⟩

/-- A value that is read back as one is read back from its text. -/
theorem Codec.Returns.ofText_text {codec : Codec α} {x : α}
    (returns : codec.Returns Draft.depthLimit x)
    (kept : ∀ key ∈ (codec.write x).keys, codec.keeps key = true)
    (agrees : ∀ draft : Draft, draft.Shows (codec.write x) [] → codec.AgreesOn draft)
    : codec.ofText (codec.text x) = .ok x :=
  ofText_text_of_ofValue returns.exact returns.shallow returns.again kept agrees

theorem Draft.Shows.exists_eq_object {draft : Draft} {members : List (String × Value)}
    {rest : List Char} (shown : draft.Shows (.object members) rest)
    : ∃ text drafts finish, draft = .object text drafts finish := by
  have value := shown.value _ (Nat.lt_succ_self _)
  cases draft with
  | object text drafts finish => exact ⟨text, drafts, finish, rfl⟩
  | array text items finish =>
      obtain ⟨-, _, -, -, same⟩ := Draft.value?_array_eq_ok_iff.mp value
      cases same
  | null | boolean | number | string | skipped | faulty => cases value

/-- A closed record is read from the text of an object that has no keys but those of its fields. -/
theorem Layout.ofText_object_closedCodec {layout : Layout} {forth : Cells layout.fields → α}
    {back : α → Cells layout.fields} {members : List (String × Value)} {x : α}
    (agrees : ∀ field ∈ layout.fields, field.codec.Agrees)
    (named : ∀ member ∈ members, member.1 ∈ fieldNames layout.fields)
    (exact : (Value.object members).isExact = true)
    (shallow : (Value.object members).depth < Draft.depthLimit)
    (read : (layout.closedCodec.convert forth back).ofValue (.object members) = .ok x)
    : (layout.closedCodec.convert forth back).ofText (Value.object members).text = .ok x := by
  refine Codec.ofText_text_of_ofValue exact shallow read ?_ ?_
  · intro key written
    obtain ⟨member, inside, rfl⟩ := List.mem_map.mp written
    obtain ⟨field, known, same⟩ := List.mem_map.mp (named member inside)
    exact List.any_eq_true.mpr ⟨field, known, beq_iff_eq.mpr same⟩
  · intro draft shown
    obtain ⟨text, drafts, finish, rfl⟩ := shown.exists_eq_object
    exact (agreesOn_closedCodec agrees shown.whole).map_eq_ok_iff forth

/-- A closed record, which reads no keys but those of its fields, is read back from its text. -/
theorem Layout.ofText_text_closedCodec {layout : Layout} {forth : Cells layout.fields → α}
    {back : α → Cells layout.fields} {x : α} (inverse : forth (back x) = x)
    (single : (fieldNames layout.fields).Nodup)
    (returns : (back x).Return (Draft.depthLimit - 1) layout.fields)
    (agrees : ∀ field ∈ layout.fields, field.codec.Agrees)
    : (layout.closedCodec.convert forth back).ofText
        ((layout.closedCodec.convert forth back).text x) = .ok x := by
  have whole := (returns_closedCodec single returns (by decide)).convert inverse
  exact ofText_object_closedCodec agrees (fun _ => Cells.fst_mem_of_mem_members) whole.exact
    whole.shallow whole.again

end DiscordRest.Json
