import DiscordRest.Proofs.Json.Generic

/-!
What a codec refuses. If a draft has a value, a codec refuses both for the same reason or reads
both alike; only the place of the fault is known from the draft alone.
-/

namespace DiscordRest.Json

variable {α β : Type}

/-- A text and a value are read alike, or refused for the same reason. -/
inductive SameReading : Except Fault α → Except Mismatch α → Prop where
  | read (x : α) : SameReading (.ok x) (.ok x)
  | refused {fault : Fault} {found : Mismatch} (cause : fault.cause = .mismatch found)
    : SameReading (.error fault) (.error found)

namespace SameReading

variable {drafted : Except Fault α} {valued : Except Mismatch α}

theorem map (same : SameReading drafted valued) (f : α → β)
    : SameReading (drafted.map f) (valued.map f) := by
  cases same with
  | read x => exact .read (f x)
  | refused cause => exact .refused cause

theorem placed (spot : Spot) (valued : Except Mismatch α)
    : SameReading (Mismatch.at spot valued) valued := by
  cases valued with
  | ok x => exact .read x
  | error found => exact .refused rfl

/-- Causes tell the same about both. -/
theorem mapError (same : SameReading drafted valued)
    : drafted.mapError Fault.cause = valued.mapError Cause.mismatch := by
  cases same with
  | read x => rfl
  | refused cause => exact congrArg Except.error cause

end SameReading

namespace Codec

/-- A codec refuses a draft for the same reason as its value, if nothing was passed over. -/
def RefusesAlike (codec : Codec α) : Prop :=
  ∀ draft : Draft, draft.isWhole = true → ∀ depth value, draft.value? depth = .ok value →
    SameReading (codec.ofDraft depth draft) (codec.ofValue value)

variable {codec : Codec α}

------------------------------------------------------------------------------------------
-- Scalars
------------------------------------------------------------------------------------------

section

variable (expected : String) (read : Scalar → Except Mismatch α) (write : α → Scalar)

theorem refusesAlike_ofScalar : (ofScalar expected read write).RefusesAlike := by
  intro draft whole depth value shown
  cases draft with
  | null | boolean | number | string =>
      cases shown
      exact .placed _ _
  | array text items finish =>
      obtain ⟨-, values, -, -, rfl⟩ := Draft.value?_array_eq_ok_iff.mp shown
      exact .refused rfl
  | object text members finish =>
      obtain ⟨-, values, -, -, rfl⟩ := Draft.value?_object_eq_ok_iff.mp shown
      exact .refused rfl
  | skipped after => cases whole
  | faulty fault => cases shown

theorem refusesAlike_ofAnyScalar : (ofAnyScalar expected read write).RefusesAlike := by
  intro draft whole depth value shown
  cases draft with
  | array text items finish =>
      obtain ⟨deep, values, -, -, rfl⟩ := Draft.value?_array_eq_ok_iff.mp shown
      simp only [ofAnyScalar, if_neg (Nat.not_le.mpr deep)]
      exact .placed _ _
  | object text members finish =>
      obtain ⟨deep, values, -, -, rfl⟩ := Draft.value?_object_eq_ok_iff.mp shown
      simp only [ofAnyScalar, if_neg (Nat.not_le.mpr deep)]
      exact .placed _ _
  | null | boolean | number | string | skipped | faulty =>
      exact refusesAlike_ofScalar expected read write _ whole depth value shown

theorem refusesAlike_refuse : (refuse (α := α) expected).RefusesAlike :=
  refusesAlike_ofScalar _ _ _

end

theorem refusesAlike_string : string.RefusesAlike :=
  refusesAlike_ofScalar _ _ _

theorem refusesAlike_boolean : boolean.RefusesAlike :=
  refusesAlike_ofScalar _ _ _

theorem refusesAlike_natural (name : String) (greatest : Nat) (h : greatest ≤ greatestWord)
    : (natural name greatest h).RefusesAlike :=
  refusesAlike_ofScalar _ _ _

theorem refusesAlike_snowflake : snowflake.RefusesAlike :=
  refusesAlike_ofAnyScalar _ _ _

------------------------------------------------------------------------------------------
-- Options, lists and other types
------------------------------------------------------------------------------------------

theorem RefusesAlike.convert (alike : codec.RefusesAlike) (forth : α → β) (back : β → α)
    : (codec.convert forth back).RefusesAlike :=
  fun draft whole depth value shown => (alike draft whole depth value shown).map forth

theorem RefusesAlike.option (alike : codec.RefusesAlike) : codec.option.RefusesAlike := by
  intro draft whole depth value shown
  have inside := (alike draft whole depth value shown).map some
  cases draft with
  | null after =>
      cases shown
      exact .read none
  | boolean | number | string =>
      cases shown
      exact inside
  | array text items finish =>
      obtain ⟨-, values, -, -, rfl⟩ := Draft.value?_array_eq_ok_iff.mp shown
      exact inside
  | object text members finish =>
      obtain ⟨-, values, -, -, rfl⟩ := Draft.value?_object_eq_ok_iff.mp shown
      exact inside
  | skipped after => cases whole
  | faulty fault => cases shown

/-- Of several items the first one that is refused counts, by induction on them. -/
theorem RefusesAlike.draftsOf (alike : codec.RefusesAlike) {depth : Nat} {items : List Draft}
    {values : List Value} (whole : Draft.isWhole.itemsWhole items = true)
    (shown : Draft.value?.valueItems? depth items = .ok values)
    : SameReading (draftsOf codec depth items) (valuesOf codec values) := by
  induction items generalizing values with
  | nil =>
      cases shown
      exact .read []
  | cons item rest ih =>
      rw [Draft.isWhole.itemsWhole, Bool.and_eq_true] at whole
      obtain ⟨first, later, here, there, rfl⟩ := Draft.valueItems?_cons_eq_ok_iff.mp shown
      have head := alike item whole.1 depth first here
      rw [Codec.draftsOf, valuesOf]
      generalize codec.ofDraft depth item = drafted at head
      generalize codec.ofValue first = valued at head
      cases head with
      | read x => exact (ih whole.2 there).map (x :: ·)
      | refused cause => exact .refused cause

theorem RefusesAlike.list (alike : codec.RefusesAlike) : (list codec).RefusesAlike := by
  intro draft whole depth value shown
  cases draft with
  | array text items finish =>
      obtain ⟨deep, values, inside, ⟨after, rfl⟩, rfl⟩ := Draft.value?_array_eq_ok_iff.mp shown
      have items := alike.draftsOf whole inside
      simp only [Codec.list, if_neg (Nat.not_le.mpr deep)]
      generalize Codec.draftsOf codec (depth - 1) _ = drafted at items
      generalize valuesOf codec values = valued at items
      cases items with
      | read xs => exact .read xs
      | refused cause => exact .refused cause
  | object text members finish =>
      obtain ⟨-, values, -, -, rfl⟩ := Draft.value?_object_eq_ok_iff.mp shown
      exact .refused rfl
  | null | boolean | number | string | skipped | faulty =>
      have refused := refusesAlike_refuse (α := List α) "a sequence" _ whole depth value shown
      cases shown <;> exact refused

end Codec

------------------------------------------------------------------------------------------
-- Records
------------------------------------------------------------------------------------------

section

variable {fields : List Field} {depth : Nat}

/-- A drafted member is put into the slot of its field, or refused there, as its value is. -/
theorem Slots.fill_alike (alike : ∀ field ∈ fields, field.codec.RefusesAlike) {item : Draft}
    (whole : item.isWhole = true) {value : Value} (shown : item.value? depth = .ok value)
    {key : String} (named : key ∈ fieldNames fields) (twice : String → Fault)
    (cause : ∀ name, (twice name).cause = .mismatch (.duplicateField name))
    (slots : Slots fields)
    : ∃ drafted valued,
        fill (fun field => field.codec.ofDraft depth item) twice key fields slots = some drafted
        ∧ fill (fun field => field.codec.ofValue value) .duplicateField key fields slots
          = some valued
        ∧ SameReading drafted valued := by
  induction fields with
  | nil => cases named
  | cons field fields ih =>
      obtain ⟨slot, slots⟩ := slots
      by_cases same : field.name = key
      · cases slot with
        | some taken =>
            refine ⟨_, _, ?_, ?_, .refused (cause key)⟩ <;> simp only [fill, if_pos same]
        | none =>
            have here := alike field List.mem_cons_self item whole depth value shown
            refine ⟨_, _, ?_, ?_, here.map fun cell => (some cell, slots)⟩
            · simp only [fill, if_pos same]
              rfl
            · simp only [fill, if_pos same]
              rfl
      · have inside : key ∈ fieldNames fields :=
          (List.mem_cons.mp named).resolve_left (Ne.symm same)
        obtain ⟨drafted, valued, first, second, later⟩ :=
          ih (fun other member => alike other (List.mem_cons_of_mem _ member)) inside slots
        refine ⟨_, _, ?_, ?_, later.map fun slots => (slot, slots)⟩
        · simp only [fill, if_neg same, first]
          rfl
        · simp only [fill, if_neg same, second]
          rfl

namespace Layout

/-- Of several members the first one that is refused counts, by induction on them. -/
theorem fillDrafts_alike (alike : ∀ field ∈ fields, field.codec.RefusesAlike)
    {members : List (String × List Char × Draft)}
    (whole : Draft.isWhole.membersWhole members = true) {values : List (String × Value)}
    (shown : Draft.value?.valueMembers? depth members = .ok values) (slots : Slots fields)
    : SameReading (fillDrafts depth fields slots members) (fillValues fields slots values) := by
  induction members generalizing values slots with
  | nil =>
      cases shown
      exact .read (slots, [])
  | cons member rest ih =>
      obtain ⟨key, after, item⟩ := member
      rw [Draft.isWhole.membersWhole, Bool.and_eq_true] at whole
      obtain ⟨first, later, here, there, rfl⟩ := Draft.valueMembers?_cons_eq_ok_iff.mp shown
      by_cases named : key ∈ fieldNames fields
      · obtain ⟨drafted, valued, left, right, same⟩ := Slots.fill_alike alike whole.1 here named
          (fun name => ⟨.mismatch (.duplicateField name), leaveObject after⟩) (fun _ => rfl) slots
        simp only [fillDrafts, fillValues, left, right]
        cases same with
        | read slots => exact ih whole.2 there slots
        | refused cause => exact .refused cause
      · simp only [fillDrafts, fillValues, Slots.fill_eq_none_iff.mpr named, here]
        exact (ih whole.2 there slots).map fun filled => (filled.1, (key, first) :: filled.2)

theorem refusesAlike_openCodec {layout : Layout}
    (alike : ∀ field ∈ layout.fields, field.codec.RefusesAlike)
    : layout.openCodec.RefusesAlike := by
  intro draft whole depth value shown
  cases draft with
  | object text members finish =>
      obtain ⟨deep, values, inside, ⟨after, rfl⟩, rfl⟩ := Draft.value?_object_eq_ok_iff.mp shown
      have filled := fillDrafts_alike alike whole inside (.empty layout.fields)
      simp only [openCodec, if_neg (Nat.not_le.mpr deep), readDrafts, readValues]
      generalize fillDrafts (depth - 1) layout.fields _ members = drafted at filled
      generalize fillValues layout.fields _ values = valued at filled
      cases filled with
      | read found => exact .placed _ _
      | refused cause => exact .refused cause
  | array text items finish =>
      obtain ⟨-, values, -, -, rfl⟩ := Draft.value?_array_eq_ok_iff.mp shown
      exact .refused rfl
  | null | boolean | number | string | skipped | faulty =>
      have refused := Codec.refusesAlike_refuse (α := Cells layout.fields × Object) layout.words
        _ whole depth value shown
      cases shown <;> exact refused

end Layout

end

------------------------------------------------------------------------------------------
-- Texts
------------------------------------------------------------------------------------------

namespace Codec

variable {codec : Codec α} {text : String} {value : Value}

/-- From the text of a document, members are refused in their order there. -/
theorem RefusesAlike.ofText_mapError (alike : codec.RefusesAlike) (all : codec.keeps = keepsAll)
    (document : IsDocument text value)
    : (codec.ofText text).mapError Failure.cause
      = (codec.ofValue value).mapError Cause.mismatch := by
  obtain ⟨shown, after, finish, ended⟩ := document
  have whole : (Draft.ofText keepsAll text.toList).isWhole = true :=
    Draft.isWhole_ofText (fun _ => rfl) text.toList
  have same := alike _ whole _ _ shown
  simp only [ofText, all]
  generalize codec.ofDraft Draft.depthLimit _ = drafted at same ⊢
  generalize codec.ofValue value = valued at same ⊢
  cases same with
  | read x =>
      simp only [finish, ended]
      rfl
  | refused cause => exact congrArg Except.error cause

/-- By way of a value, members are refused in the order of their keys. -/
theorem ofTextValue_mapError (codec : Codec α) (document : IsDocument text value)
    : (codec.ofTextValue text).mapError Failure.cause
      = (codec.ofValue value.normalise).mapError Cause.mismatch := by
  have held : Codec.value.ofText text = .ok value.normalise :=
    value_ofText_eq_ok_iff.mpr ⟨value, document, rfl⟩
  simp only [ofTextValue, held]
  cases codec.ofValue value.normalise with
  | ok x => rfl
  | error found => rfl

end Codec

end DiscordRest.Json
