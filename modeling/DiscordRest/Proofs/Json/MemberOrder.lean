import DiscordRest.Proofs.Json.Return
import DiscordRest.Proofs.Json.Schema

/-!
The order of members. As long as no object repeats a key, a value is read just as its normal form,
in which the members of each object stand in the order of their keys.
-/

namespace DiscordRest.Json

variable {α β : Type}

------------------------------------------------------------------------------------------
-- Keys that are not repeated
------------------------------------------------------------------------------------------

namespace Value

/-- Whether no object in a value repeats a key. -/
def isDistinct : Value → Bool
  | array items => itemsDistinct items
  | object members => decide (members.map Prod.fst).Nodup && membersDistinct members
  | _ => true
where
  /-- Whether none does in the items of an array. -/
  itemsDistinct : List Value → Bool
    | [] => true
    | item :: rest => item.isDistinct && itemsDistinct rest
  /-- Whether none does in the members of an object. -/
  membersDistinct : List (String × Value) → Bool
    | [] => true
    | (_, value) :: rest => value.isDistinct && membersDistinct rest

theorem isDistinct_array_iff {items : List Value}
    : (array items).isDistinct = true ↔ ∀ item ∈ items, item.isDistinct = true := by
  rw [isDistinct]
  induction items with
  | nil => simp [isDistinct.itemsDistinct]
  | cons item rest ih => simp [isDistinct.itemsDistinct, ih]

theorem isDistinct_object_iff {members : List (String × Value)}
    : (object members).isDistinct = true
      ↔ (members.map Prod.fst).Nodup ∧ ∀ member ∈ members, member.2.isDistinct = true := by
  have inside : isDistinct.membersDistinct members = true
      ↔ ∀ member ∈ members, member.2.isDistinct = true := by
    induction members with
    | nil => simp [isDistinct.membersDistinct]
    | cons member rest ih => simp [isDistinct.membersDistinct, ih]
  rw [isDistinct, Bool.and_eq_true, decide_eq_true_iff, inside]

theorem isDistinct_of_flat {value : Value} (flat : value.depth = 0) : value.isDistinct = true := by
  cases value with
  | null | boolean | number | string => rfl
  | array items => cases flat
  | object members => cases flat

theorem isNull_normalise (value : Value) : value.normalise.isNull = value.isNull := by
  cases value <;> rfl

end Value

namespace Draft

/-- Whether no object repeats a key, as far as a text was read. -/
def isDistinct : Draft → Bool
  | array _ items _ => itemsDistinct items
  | object _ members _ =>
    decide (members.map fun member => member.1).Nodup && membersDistinct members
  | _ => true
where
  /-- Whether none does in the items of an array. -/
  itemsDistinct : List Draft → Bool
    | [] => true
    | item :: rest => item.isDistinct && itemsDistinct rest
  /-- Whether none does in the members of an object. -/
  membersDistinct : List (String × List Char × Draft) → Bool
    | [] => true
    | (_, _, item) :: rest => item.isDistinct && membersDistinct rest

mutual

/-- The value of a draft has the keys of the draft, each as often. By induction on the draft. -/
theorem isDistinct_value? {depth : Nat} {value : Value}
    : (draft : Draft) → draft.value? depth = .ok value → value.isDistinct = draft.isDistinct
  | null _, shown => by cases shown; rfl
  | boolean _ _, shown => by cases shown; rfl
  | number _ _, shown => by cases shown; rfl
  | string _ _, shown => by cases shown; rfl
  | array _ items _, shown => by
    obtain ⟨-, values, inside, -, rfl⟩ := value?_array_eq_ok_iff.mp shown
    exact itemsDistinct_valueItems? items inside
  | object _ members _, shown => by
    obtain ⟨-, values, inside, -, rfl⟩ := value?_object_eq_ok_iff.mp shown
    obtain ⟨keys, same⟩ := membersDistinct_valueMembers? members inside
    rw [Value.isDistinct, isDistinct, keys, same]
  | skipped _, shown => by cases shown; rfl
  | faulty _, shown => by cases shown

theorem itemsDistinct_valueItems? {depth : Nat} {values : List Value}
    : (items : List Draft)
      → value?.valueItems? depth items = .ok values
      → Value.isDistinct.itemsDistinct values = isDistinct.itemsDistinct items
  | [], shown => by cases shown; rfl
  | item :: rest, shown => by
    obtain ⟨first, later, here, there, rfl⟩ := valueItems?_cons_eq_ok_iff.mp shown
    rw [Value.isDistinct.itemsDistinct, isDistinct.itemsDistinct, isDistinct_value? item here,
      itemsDistinct_valueItems? rest there]

theorem membersDistinct_valueMembers? {depth : Nat} {values : List (String × Value)}
    : (members : List (String × List Char × Draft))
      → value?.valueMembers? depth members = .ok values
      → values.map Prod.fst = members.map (fun member => member.1)
        ∧ Value.isDistinct.membersDistinct values = isDistinct.membersDistinct members
  | [], shown => by cases shown; exact ⟨rfl, rfl⟩
  | (key, _, item) :: rest, shown => by
    obtain ⟨first, later, here, there, rfl⟩ := valueMembers?_cons_eq_ok_iff.mp shown
    obtain ⟨keys, same⟩ := membersDistinct_valueMembers? rest there
    rw [List.map_cons, List.map_cons, keys, Value.isDistinct.membersDistinct,
      isDistinct.membersDistinct, isDistinct_value? item here, same]
    exact ⟨rfl, rfl⟩

end

end Draft

------------------------------------------------------------------------------------------
-- Values and their normal forms
------------------------------------------------------------------------------------------

/-- Members with different keys make one object in any order. -/
theorem Object.ofMembers_congr {members others : List (String × Value)}
    (once : (members.map Prod.fst).Nodup) (once' : (others.map Prod.fst).Nodup)
    (same
      : ∀ key,
          (Keyed.get? key members).map Value.normalise
            = (Keyed.get? key others).map Value.normalise)
    : ofMembers members = ofMembers others := by
  have equal : Keyed.sort (Value.normalise.normaliseMembers members)
      = Keyed.sort (Value.normalise.normaliseMembers others) := by
    refine (Keyed.ascending_sort _).ext (Keyed.ascending_sort _) fun key => ?_
    rw [Value.get?_normalise once, Value.get?_normalise once', same]
  simp only [ofMembers, equal]

namespace Codec

/-- Values without repeated keys are read as their normal forms. -/
def IgnoresOrder (codec : Codec α) : Prop :=
  ∀ value : Value, value.isDistinct = true → ∀ x,
    codec.ofValue value.normalise = .ok x ↔ codec.ofValue value = .ok x

variable {codec : Codec α}

theorem ignoresOrder_ofScalar (expected : String) (read : Scalar → Except Mismatch α)
    (write : α → Scalar)
    : (ofScalar expected read write).IgnoresOrder := by
  intro value _ x
  cases value with
  | null | boolean | number | string => exact Iff.rfl
  | array items => exact iff_of_false (by rintro ⟨⟩) (by rintro ⟨⟩)
  | object members => exact iff_of_false (by rintro ⟨⟩) (by rintro ⟨⟩)

theorem ignoresOrder_ofAnyScalar (expected : String) (read : Scalar → Except Mismatch α)
    (write : α → Scalar)
    : (ofAnyScalar expected read write).IgnoresOrder :=
  ignoresOrder_ofScalar expected read write

theorem ignoresOrder_string : string.IgnoresOrder :=
  ignoresOrder_ofScalar _ _ _

theorem ignoresOrder_boolean : boolean.IgnoresOrder :=
  ignoresOrder_ofScalar _ _ _

theorem ignoresOrder_natural (name : String) (greatest : Nat) (h : greatest ≤ greatestWord)
    : (natural name greatest h).IgnoresOrder :=
  ignoresOrder_ofScalar _ _ _

theorem ignoresOrder_snowflake : snowflake.IgnoresOrder :=
  ignoresOrder_ofAnyScalar _ _ _

theorem IgnoresOrder.convert (ignores : codec.IgnoresOrder) (forth : α → β) (back : β → α)
    : (codec.convert forth back).IgnoresOrder := by
  intro value distinct y
  simp only [Codec.convert, Except.map_eq_ok_iff, ignores value distinct]

theorem IgnoresOrder.option (ignores : codec.IgnoresOrder) : codec.option.IgnoresOrder := by
  intro value distinct x
  simp only [ofValue_option_eq_ok_iff, Value.isNull_normalise, ignores value distinct]

theorem IgnoresOrder.list (ignores : codec.IgnoresOrder) : (list codec).IgnoresOrder := by
  intro value distinct xs
  cases value with
  | array items =>
      have each := Value.isDistinct_array_iff.mp distinct
      simp only [ofValue_list_eq_ok_iff, Value.normalise, Value.normaliseItems_eq_map,
        Value.array.injEq, exists_eq_left', List.forall₂_map_left_iff]
      exact forall₂_congr fun item member x => ignores item (each item member) x
  | null | boolean | number | string => exact Iff.rfl
  | object members => exact iff_of_false (by rintro ⟨⟩) (by rintro ⟨⟩)

end Codec

------------------------------------------------------------------------------------------
-- Records
------------------------------------------------------------------------------------------

namespace Cells

variable {fields : List Field} {cells : Cells fields}

/-- Fields read all values of an object as their normal forms if each of them does. -/
theorem read_normalise_iff (ignores : ∀ field ∈ fields, field.codec.IgnoresOrder)
    {look : String → Option Value}
    (distinct : ∀ name value, look name = some value → value.isDistinct = true)
    : cells.Read (fun name => (look name).map Value.normalise) fields
      ↔ cells.Read look fields := by
  induction fields with
  | nil => exact Iff.rfl
  | cons field fields ih =>
      obtain ⟨cell, cells⟩ := cells
      refine and_congr ?_ (ih fun other member => ignores other (List.mem_cons_of_mem _ member))
      dsimp only
      cases found : look field.name with
      | none => exact Iff.rfl
      | some value =>
          exact ignores field List.mem_cons_self value (distinct _ value found) cell

end Cells

namespace Layout

variable {layout : Layout}

/-- An object is read as a record just as its normal form, by what stands under each key. -/
theorem readValues_normalise_iff (single : (fieldNames layout.fields).Nodup)
    (ignores : ∀ field ∈ layout.fields, field.codec.IgnoresOrder)
    {members : List (String × Value)} (distinct : (Value.object members).isDistinct = true)
    {x : Cells layout.fields × Object}
    : readValues layout.fields (Keyed.sort (Value.normalise.normaliseMembers members)) = .ok x
      ↔ readValues layout.fields members = .ok x := by
  obtain ⟨cells, extra⟩ := x
  obtain ⟨once, each⟩ := Value.isDistinct_object_iff.mp distinct
  have sorted : ((Keyed.sort (Value.normalise.normaliseMembers members)).map Prod.fst).Nodup :=
    (Keyed.ascending_sort _).nodup
  rw [readValues_eq_ok_iff single sorted, readValues_eq_ok_iff single once]
  simp only [Value.get?_normalise once]
  refine and_congr ?_ ?_
  · refine Cells.read_normalise_iff ignores fun name value held => ?_
    exact each _ (Keyed.mem_of_get? held)
  · rw [Object.ofMembers_congr (nodup_others sorted) (nodup_others once)]
    intro key
    rw [get?_others sorted, get?_others once, Value.get?_normalise once]
    split
    · rfl
    · cases Keyed.get? key members with
      | none => rfl
      | some value => simp only [Option.map_some, Value.normalise_normalise]

theorem ignoresOrder_openCodec (single : (fieldNames layout.fields).Nodup)
    (ignores : ∀ field ∈ layout.fields, field.codec.IgnoresOrder)
    : layout.openCodec.IgnoresOrder := by
  intro value distinct x
  cases value with
  | object members => exact readValues_normalise_iff single ignores distinct
  | null | boolean | number | string => exact Iff.rfl
  | array items => exact iff_of_false (by rintro ⟨⟩) (by rintro ⟨⟩)

/-- A closed record of flat values is read back from the normal form of what is written of it. -/
theorem ofValue_normalise_write_closedCodec (single : (fieldNames layout.fields).Nodup)
    (ignores : ∀ field ∈ layout.fields, field.codec.IgnoresOrder) {cells : Cells layout.fields}
    (returns : cells.Return 1 layout.fields)
    : layout.closedCodec.ofValue (layout.closedCodec.write cells).normalise = .ok cells := by
  have distinct : (Value.object (cells.members layout.fields)).isDistinct = true := by
    refine Value.isDistinct_object_iff.mpr ⟨Cells.nodup_members single, fun member inside => ?_⟩
    exact Value.isDistinct_of_flat (Nat.lt_one_iff.mp (returns.written inside).2)
  obtain ⟨x, read, same⟩ :=
    Except.map_eq_ok_iff.mp (returns_closedCodec single returns Nat.one_pos).again
  exact Except.map_eq_ok_iff.mpr ⟨x, (readValues_normalise_iff single ignores distinct).mpr read, same⟩

end Layout

end DiscordRest.Json
