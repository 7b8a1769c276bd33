import DiscordRest.Proofs.Except
import DiscordRest.Proofs.Json.Layout
import DiscordRest.Proofs.Json.Reading

/-!
Reading a draft agrees with reading a value. Where nothing of a text was passed over, a codec reads
its draft exactly as it reads the value of the draft, and fails where there is no such value.
-/

namespace DiscordRest.Json

variable {α β : Type}

theorem Mismatch.at_eq_ok_iff {spot : Spot} {read : Except Mismatch α} {x : α}
    : Mismatch.at spot read = .ok x ↔ read = .ok x := by
  cases read <;> simp [Mismatch.at]

------------------------------------------------------------------------------------------
-- Values of drafts
------------------------------------------------------------------------------------------

namespace Draft

variable {depth : Nat} {text : List Char} {finish : Except Fault (List Char)} {value : Value}

theorem value?_array_eq_ok_iff {items : List Draft}
    : (array text items finish).value? depth = .ok value
      ↔ 1 < depth
        ∧ ∃ values,
            value?.valueItems? (depth - 1) items = .ok values
            ∧ (∃ after, finish = .ok after)
            ∧ .array values = value := by
  rw [value?]
  split
  · rename_i shallow
    simp [Nat.not_lt.mpr shallow]
  · rename_i deep
    cases value?.valueItems? (depth - 1) items with
    | error fault => simp
    | ok values => simp [Nat.lt_of_not_le deep, Except.map_eq_ok_iff]

theorem value?_object_eq_ok_iff {members : List (String × List Char × Draft)}
    : (object text members finish).value? depth = .ok value
      ↔ 1 < depth
        ∧ ∃ values,
            value?.valueMembers? (depth - 1) members = .ok values
            ∧ (∃ after, finish = .ok after)
            ∧ .object values = value := by
  rw [value?]
  split
  · rename_i shallow
    simp [Nat.not_lt.mpr shallow]
  · rename_i deep
    cases value?.valueMembers? (depth - 1) members with
    | error fault => simp
    | ok values => simp [Nat.lt_of_not_le deep, Except.map_eq_ok_iff]

theorem valueItems?_cons_eq_ok_iff {item : Draft} {rest : List Draft} {values : List Value}
    : value?.valueItems? depth (item :: rest) = .ok values
      ↔ ∃ first later,
          item.value? depth = .ok first
          ∧ value?.valueItems? depth rest = .ok later
          ∧ first :: later = values := by
  rw [value?.valueItems?]
  cases item.value? depth with
  | error fault => simp
  | ok first => simp [Except.map_eq_ok_iff]

theorem valueMembers?_cons_eq_ok_iff {key : String} {after : List Char} {item : Draft}
    {rest : List (String × List Char × Draft)} {values : List (String × Value)}
    : value?.valueMembers? depth ((key, after, item) :: rest) = .ok values
      ↔ ∃ first later,
          item.value? depth = .ok first
          ∧ value?.valueMembers? depth rest = .ok later
          ∧ (key, first) :: later = values := by
  rw [value?.valueMembers?]
  cases item.value? depth with
  | error fault => simp
  | ok first => simp [Except.map_eq_ok_iff]

end Draft

namespace Codec

/-- A codec reads a draft as it reads the value of the draft. -/
def AgreesOn (codec : Codec α) (draft : Draft) : Prop :=
  ∀ depth x,
    codec.ofDraft depth draft = .ok x
    ↔ ∃ value, draft.value? depth = .ok value ∧ codec.ofValue value = .ok x

/-- A codec reads each draft as its value if nothing in it was passed over. -/
def Agrees (codec : Codec α) : Prop :=
  ∀ draft : Draft, draft.isWhole = true → codec.AgreesOn draft

variable {codec : Codec α} {draft : Draft} {text : List Char}
variable {finish : Except Fault (List Char)}

theorem AgreesOn.map_eq_ok_iff (agrees : codec.AgreesOn draft) (f : α → β) (depth : Nat) (y : β)
    : (codec.ofDraft depth draft).map f = .ok y
      ↔ ∃ value, draft.value? depth = .ok value ∧ (codec.ofValue value).map f = .ok y := by
  simp only [Except.map_eq_ok_iff, agrees depth]
  constructor
  · rintro ⟨x, ⟨value, shown, read⟩, same⟩
    exact ⟨value, shown, x, read, same⟩
  · rintro ⟨value, shown, x, read, same⟩
    exact ⟨x, ⟨value, shown, read⟩, same⟩

/-- A codec that refuses arrays agrees on their drafts. -/
theorem agreesOn_array (items : List Draft)
    (refusesDraft : ∀ depth x, codec.ofDraft depth (.array text items finish) ≠ .ok x)
    (refusesValue : ∀ values x, codec.ofValue (.array values) ≠ .ok x)
    : codec.AgreesOn (.array text items finish) := by
  intro depth x
  refine iff_of_false (refusesDraft depth x) ?_
  rintro ⟨value, shown, read⟩
  obtain ⟨-, values, -, -, rfl⟩ := Draft.value?_array_eq_ok_iff.mp shown
  exact refusesValue values x read

/-- A codec that refuses objects agrees on their drafts. -/
theorem agreesOn_object (members : List (String × List Char × Draft))
    (refusesDraft : ∀ depth x, codec.ofDraft depth (.object text members finish) ≠ .ok x)
    (refusesValue : ∀ values x, codec.ofValue (.object values) ≠ .ok x)
    : codec.AgreesOn (.object text members finish) := by
  intro depth x
  refine iff_of_false (refusesDraft depth x) ?_
  rintro ⟨value, shown, read⟩
  obtain ⟨-, values, -, -, rfl⟩ := Draft.value?_object_eq_ok_iff.mp shown
  exact refusesValue values x read

------------------------------------------------------------------------------------------
-- Scalars
------------------------------------------------------------------------------------------

section

variable (expected : String) (read : Scalar → Except Mismatch α) (write : α → Scalar)

theorem agrees_ofScalar : (ofScalar expected read write).Agrees := by
  intro draft whole
  cases draft with
  | null after => simp [AgreesOn, ofScalar, Draft.value?, Mismatch.at_eq_ok_iff]
  | boolean value after => simp [AgreesOn, ofScalar, Draft.value?, Mismatch.at_eq_ok_iff]
  | number value after => simp [AgreesOn, ofScalar, Draft.value?, Mismatch.at_eq_ok_iff]
  | string value after => simp [AgreesOn, ofScalar, Draft.value?, Mismatch.at_eq_ok_iff]
  | array text items finish => exact agreesOn_array items (by rintro _ _ ⟨⟩) (by rintro _ _ ⟨⟩)
  | object text members finish => exact agreesOn_object members (by rintro _ _ ⟨⟩) (by rintro _ _ ⟨⟩)
  | skipped after => cases whole
  | faulty fault => simp [AgreesOn, ofScalar, Draft.value?]

theorem agrees_ofAnyScalar : (ofAnyScalar expected read write).Agrees := by
  intro draft whole
  cases draft with
  | array text items finish =>
      refine agreesOn_array items ?_ (by rintro _ _ ⟨⟩)
      intro depth x
      simp only [ofAnyScalar]
      split <;> rintro ⟨⟩
  | object text members finish =>
      refine agreesOn_object members ?_ (by rintro _ _ ⟨⟩)
      intro depth x
      simp only [ofAnyScalar]
      split <;> rintro ⟨⟩
  | null | boolean | number | string | skipped | faulty =>
      exact agrees_ofScalar expected read write _ whole

theorem agrees_refuse : (refuse (α := α) expected).Agrees :=
  agrees_ofScalar _ _ _

end

theorem agrees_string : string.Agrees :=
  agrees_ofScalar _ _ _

theorem agrees_boolean : boolean.Agrees :=
  agrees_ofScalar _ _ _

theorem agrees_natural (name : String) (greatest : Nat) (h : greatest ≤ greatestWord)
    : (natural name greatest h).Agrees :=
  agrees_ofScalar _ _ _

theorem agrees_snowflake : snowflake.Agrees :=
  agrees_ofAnyScalar _ _ _

/-- A codec agrees on a draft that it leaves to the refusal of all values. -/
theorem agreesOn_of_refuse (expected : String) (whole : draft.isWhole = true)
    (ofDraft : ∀ depth, codec.ofDraft depth draft = (refuse expected).ofDraft depth draft)
    (ofValue
      : ∀ depth value,
          draft.value? depth = .ok value
          → codec.ofValue value = (refuse expected).ofValue value)
    : codec.AgreesOn draft := by
  intro depth x
  rw [ofDraft depth, agrees_refuse expected draft whole depth x]
  constructor
  · rintro ⟨value, shown, read⟩
    exact ⟨value, shown, (ofValue depth value shown).trans read⟩
  · rintro ⟨value, shown, read⟩
    exact ⟨value, shown, (ofValue depth value shown).symm.trans read⟩

------------------------------------------------------------------------------------------
-- Options, lists and other types
------------------------------------------------------------------------------------------

theorem Agrees.convert (agrees : codec.Agrees) (forth : α → β) (back : β → α)
    : (codec.convert forth back).Agrees :=
  fun draft whole => (agrees draft whole).map_eq_ok_iff forth

theorem Agrees.option (agrees : codec.Agrees) : codec.option.Agrees := by
  intro draft whole depth x
  have inside := (agrees draft whole).map_eq_ok_iff some depth x
  cases draft with
  | null after => simp [Codec.option, Draft.value?]
  | boolean value after => simpa [Codec.option, Draft.value?] using inside
  | number value after => simpa [Codec.option, Draft.value?] using inside
  | string value after => simpa [Codec.option, Draft.value?] using inside
  | array text items finish =>
      refine inside.trans (exists_congr fun value => and_congr_right fun shown => ?_)
      obtain ⟨-, values, -, -, rfl⟩ := Draft.value?_array_eq_ok_iff.mp shown
      exact Iff.rfl
  | object text members finish =>
      refine inside.trans (exists_congr fun value => and_congr_right fun shown => ?_)
      obtain ⟨-, values, -, -, rfl⟩ := Draft.value?_object_eq_ok_iff.mp shown
      exact Iff.rfl
  | skipped after => cases whole
  | faulty fault => simpa [Codec.option, Draft.value?] using inside

theorem valuesOf_cons_eq_ok_iff {value : Value} {rest : List Value} {xs : List α}
    : valuesOf codec (value :: rest) = .ok xs
      ↔ ∃ first later,
          codec.ofValue value = .ok first ∧ valuesOf codec rest = .ok later
          ∧ first :: later = xs := by
  rw [valuesOf]
  cases codec.ofValue value with
  | error found => simp
  | ok first => simp [Except.map_eq_ok_iff]

/-- Items are read one by one as their values are, by induction on them. -/
theorem Agrees.draftsOf_eq_ok_iff (agrees : codec.Agrees) {depth : Nat} {items : List Draft}
    {xs : List α} (whole : Draft.isWhole.itemsWhole items = true)
    : draftsOf codec depth items = .ok xs
      ↔ ∃ values,
          Draft.value?.valueItems? depth items = .ok values
          ∧ valuesOf codec values = .ok xs := by
  induction items generalizing xs with
  | nil => simp [draftsOf, Draft.value?.valueItems?, valuesOf]
  | cons item rest ih =>
      rw [Draft.isWhole.itemsWhole, Bool.and_eq_true] at whole
      have head : draftsOf codec depth (item :: rest) = .ok xs
          ↔ ∃ first later,
              codec.ofDraft depth item = .ok first ∧ draftsOf codec depth rest = .ok later
              ∧ first :: later = xs := by
        rw [draftsOf]
        cases codec.ofDraft depth item with
        | error fault => simp
        | ok first => simp [Except.map_eq_ok_iff]
      simp only [head, agrees item whole.1 depth, ih whole.2, Draft.valueItems?_cons_eq_ok_iff]
      constructor
      · rintro ⟨first, later, ⟨value, shown, read⟩, ⟨values, others, reads⟩, same⟩
        exact ⟨_, ⟨value, values, shown, others, rfl⟩,
          valuesOf_cons_eq_ok_iff.mpr ⟨first, later, read, reads, same⟩⟩
      · rintro ⟨_, ⟨value, values, shown, others, rfl⟩, reads⟩
        obtain ⟨first, later, read, reads, same⟩ := valuesOf_cons_eq_ok_iff.mp reads
        exact ⟨first, later, ⟨value, shown, read⟩, ⟨values, others, reads⟩, same⟩

theorem Agrees.list (agrees : codec.Agrees) : (list codec).Agrees := by
  intro draft whole
  cases draft with
  | array text items finish =>
      intro depth xs
      have inside : draftsOf codec (depth - 1) items = .ok xs
          ↔ ∃ values,
              Draft.value?.valueItems? (depth - 1) items = .ok values
              ∧ valuesOf codec values = .ok xs :=
        agrees.draftsOf_eq_ok_iff whole
      have drafts : (Codec.list codec).ofDraft depth (.array text items finish) = .ok xs
          ↔ 1 < depth
            ∧ draftsOf codec (depth - 1) items = .ok xs
            ∧ ∃ after, finish = .ok after := by
        simp only [Codec.list]
        split
        · rename_i shallow
          simp [Nat.not_lt.mpr shallow]
        · rename_i deep
          cases draftsOf codec (depth - 1) items with
          | error fault => simp
          | ok found => simp [Nat.lt_of_not_le deep, Except.map_eq_ok_iff, and_comm]
      rw [drafts, inside]
      simp only [Draft.value?_array_eq_ok_iff]
      constructor
      · rintro ⟨deep, ⟨values, shown, read⟩, ended⟩
        exact ⟨_, ⟨deep, values, shown, ended, rfl⟩, read⟩
      · rintro ⟨_, ⟨deep, values, shown, ended, rfl⟩, read⟩
        exact ⟨deep, ⟨values, shown, read⟩, ended⟩
  | object text members finish => exact agreesOn_object members (by rintro _ _ ⟨⟩) (by rintro _ _ ⟨⟩)
  | null | boolean | number | string | skipped | faulty =>
      refine agreesOn_of_refuse "a sequence" whole (fun _ => rfl) ?_
      intro depth value shown
      cases shown <;> rfl

end Codec

------------------------------------------------------------------------------------------
-- Records
------------------------------------------------------------------------------------------

section

variable {fields : List Field} {depth : Nat}

/-- A drafted member goes into the slot of its field as its value does. -/
theorem Slots.fill_draft_eq_ok_iff (agrees : ∀ field ∈ fields, field.codec.Agrees) {item : Draft}
    (whole : item.isWhole = true) {key : String} {twice : String → Fault}
    {before after : Slots fields}
    : fill (fun field => field.codec.ofDraft depth item) twice key fields before = some (.ok after)
      ↔ ∃ value,
          item.value? depth = .ok value
          ∧ fill (fun field => field.codec.ofValue value) Mismatch.duplicateField key fields before
            = some (.ok after) := by
  induction fields with
  | nil => simp [fill]
  | cons field fields ih =>
      obtain ⟨slot, befores⟩ := before
      by_cases same : field.name = key
      · cases slot with
        | some taken => simp [fill, same]
        | none =>
            simp only [fill, if_pos same, Option.some.injEq]
            exact (agrees field List.mem_cons_self item whole).map_eq_ok_iff _ depth after
      · have later := fun middle =>
          @ih (fun other member => agrees other (List.mem_cons_of_mem _ member)) befores middle
        simp only [fill, if_neg same, Option.map_eq_some_iff]
        constructor
        · rintro ⟨filled, slots, put⟩
          obtain ⟨middle, rfl, rfl⟩ := Except.map_eq_ok_iff.mp put
          obtain ⟨value, shown, slots⟩ := (later middle).mp slots
          exact ⟨value, shown, _, slots, rfl⟩
        · rintro ⟨value, shown, filled, slots, put⟩
          obtain ⟨middle, rfl, rfl⟩ := Except.map_eq_ok_iff.mp put
          exact ⟨_, (later middle).mpr ⟨value, shown, slots⟩, rfl⟩

namespace Layout

/-- Drafted members are read one by one as their values are, by induction on them. -/
theorem fillDrafts_eq_ok_iff (agrees : ∀ field ∈ fields, field.codec.Agrees)
    {members : List (String × List Char × Draft)}
    (whole : Draft.isWhole.membersWhole members = true) {before : Slots fields}
    {filled : Slots fields × List (String × Value)}
    : fillDrafts depth fields before members = .ok filled
      ↔ ∃ values,
          Draft.value?.valueMembers? depth members = .ok values
          ∧ fillValues fields before values = .ok filled := by
  induction members generalizing before filled with
  | nil => simp [fillDrafts, Draft.value?.valueMembers?, fillValues]
  | cons member rest ih =>
      obtain ⟨key, after, item⟩ := member
      rw [Draft.isWhole.membersWhole, Bool.and_eq_true] at whole
      simp only [Draft.valueMembers?_cons_eq_ok_iff]
      by_cases named : key ∈ fieldNames fields
      · constructor
        · intro read
          rw [fillDrafts] at read
          dsimp only at read
          split at read
          · rename_i unplaced
            exact absurd named (Slots.fill_eq_none_iff.mp unplaced)
          · cases read
          · rename_i middle placed
            obtain ⟨value, shown, put⟩ := (Slots.fill_draft_eq_ok_iff agrees whole.1).mp placed
            obtain ⟨values, others, reads⟩ := (ih whole.2).mp read
            refine ⟨_, ⟨value, values, shown, others, rfl⟩, ?_⟩
            simp only [fillValues, put, reads]
        · rintro ⟨_, ⟨value, values, shown, others, rfl⟩, reads⟩
          rw [fillValues] at reads
          split at reads
          · rename_i unplaced
            exact absurd named (Slots.fill_eq_none_iff.mp unplaced)
          · cases reads
          · rename_i middle put
            have placed := fun twice =>
              (@Slots.fill_draft_eq_ok_iff _ depth agrees _ whole.1 _ twice _ _).mpr
                ⟨value, shown, put⟩
            simp only [fillDrafts, placed]
            exact (ih whole.2).mpr ⟨values, others, reads⟩
      · simp only [fillDrafts, Slots.fill_eq_none_iff.mpr named]
        cases shown : item.value? depth with
        | error fault => simp
        | ok value =>
            simp only [Except.map_eq_ok_iff, ih whole.2]
            constructor
            · rintro ⟨found, ⟨values, others, reads⟩, rfl⟩
              refine ⟨_, ⟨value, values, rfl, others, rfl⟩, ?_⟩
              simp only [fillValues, Slots.fill_eq_none_iff.mpr named, reads]
              rfl
            · rintro ⟨_, ⟨_, values, same, others, rfl⟩, reads⟩
              obtain rfl := Except.ok.inj same
              simp only [fillValues, Slots.fill_eq_none_iff.mpr named, Except.map_eq_ok_iff] at reads
              obtain ⟨found, reads, rfl⟩ := reads
              exact ⟨found, ⟨values, others, reads⟩, rfl⟩

theorem readDrafts_eq_ok_iff (agrees : ∀ field ∈ fields, field.codec.Agrees)
    {members : List (String × List Char × Draft)}
    (whole : Draft.isWhole.membersWhole members = true) {finish : Except Fault (List Char)}
    {read : Cells fields × Object}
    : readDrafts depth fields members finish = .ok read
      ↔ ∃ values,
          Draft.value?.valueMembers? depth members = .ok values
          ∧ (∃ after, finish = .ok after)
          ∧ readValues fields values = .ok read := by
  have filled := fun found => @fillDrafts_eq_ok_iff _ depth agrees _ whole (.empty fields) found
  constructor
  · intro done
    unfold readDrafts at done
    split at done
    · cases done
    · rename_i slots extra placed
      obtain ⟨values, shown, reads⟩ := (filled _).mp placed
      cases finish with
      | error fault => cases done
      | ok after =>
          refine ⟨values, shown, ⟨after, rfl⟩, ?_⟩
          simp only [readValues, reads]
          exact Mismatch.at_eq_ok_iff.mp done
  · rintro ⟨values, shown, ⟨after, rfl⟩, done⟩
    unfold readValues at done
    split at done
    · cases done
    · rename_i slots extra reads
      simp only [readDrafts, (filled _).mpr ⟨values, shown, reads⟩]
      exact Mismatch.at_eq_ok_iff.mpr done

/-- A drafted object whose depth is allowed is read as a record as its value is. -/
theorem readObject_eq_ok_iff (agrees : ∀ field ∈ fields, field.codec.Agrees)
    {text : List Char} {members : List (String × List Char × Draft)}
    {finish : Except Fault (List Char)}
    (whole : (Draft.object text members finish).isWhole = true)
    {read : Cells fields × Object}
    : (if depth ≤ 1 then .error ⟨.tooDeep, .at text⟩
        else readDrafts (depth - 1) fields members finish) = .ok read
      ↔ ∃ values,
          (Draft.object text members finish).value? depth = .ok (.object values)
          ∧ readValues fields values = .ok read := by
  simp only [Draft.value?_object_eq_ok_iff, Value.object.injEq, existsAndEq, and_true]
  split
  · rename_i shallow
    simp [Nat.not_lt.mpr shallow]
  · rename_i deep
    rw [readDrafts_eq_ok_iff agrees whole]
    simp only [Nat.lt_of_not_le deep, true_and, and_assoc]

end Layout

end

namespace Layout

variable {layout : Layout}

theorem agrees_openCodec (agrees : ∀ field ∈ layout.fields, field.codec.Agrees)
    : layout.openCodec.Agrees := by
  intro draft whole
  cases draft with
  | array text items finish => exact Codec.agreesOn_array items (by rintro _ _ ⟨⟩) (by rintro _ _ ⟨⟩)
  | object text members finish =>
      intro depth read
      refine (readObject_eq_ok_iff agrees whole).trans ⟨?_, ?_⟩
      · rintro ⟨values, shown, reads⟩
        exact ⟨_, shown, reads⟩
      · rintro ⟨value, shown, reads⟩
        obtain ⟨-, values, -, -, rfl⟩ := Draft.value?_object_eq_ok_iff.mp shown
        exact ⟨values, shown, reads⟩
  | null | boolean | number | string | skipped | faulty =>
      refine Codec.agreesOn_of_refuse layout.words whole (fun _ => rfl) ?_
      intro depth value shown
      cases shown <;> rfl

/-- A closed record agrees on objects; arrays it reads by rules of their own. -/
theorem agreesOn_closedCodec (agrees : ∀ field ∈ layout.fields, field.codec.Agrees)
    {text : List Char} {members : List (String × List Char × Draft)}
    {finish : Except Fault (List Char)}
    (whole : (Draft.object text members finish).isWhole = true)
    : layout.closedCodec.AgreesOn (.object text members finish) := by
  intro depth cells
  have drafts : layout.closedCodec.ofDraft depth (.object text members finish)
      = (if depth ≤ 1 then .error ⟨.tooDeep, .at text⟩
          else readDrafts (depth - 1) layout.fields members finish).map Prod.fst := by
    simp only [closedCodec]
    split <;> rfl
  simp only [drafts, Except.map_eq_ok_iff, readObject_eq_ok_iff agrees whole]
  constructor
  · rintro ⟨read, ⟨values, shown, reads⟩, same⟩
    exact ⟨_, shown, Except.map_eq_ok_iff.mpr ⟨read, reads, same⟩⟩
  · rintro ⟨value, shown, reads⟩
    obtain ⟨-, values, -, -, rfl⟩ := Draft.value?_object_eq_ok_iff.mp shown
    obtain ⟨read, reads, same⟩ := Except.map_eq_ok_iff.mp reads
    exact ⟨read, ⟨values, shown, reads⟩, same⟩

end Layout

end DiscordRest.Json
