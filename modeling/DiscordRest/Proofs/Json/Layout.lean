import Mathlib.Data.List.Nodup
import DiscordRest.Json.Layout
import DiscordRest.Proofs.Keyed

/-!
Reading and writing the fields of a record. An object is read as a record exactly where each field
reads what stands under its key; its other members are kept aside. What is written shows every
field that is not left out under its key.
-/

namespace DiscordRest.Json

------------------------------------------------------------------------------------------
-- One field
------------------------------------------------------------------------------------------

namespace Field

/-- A field reads what is found under its key, or takes its value for nothing. -/
def Reads (field : Field) : Option Value → field.Carrier → Prop
  | none, cell => field.absent = some cell
  | some value, cell => field.codec.ofValue value = .ok cell

/-- What is found under the key of a field goes into its slot, which must be free for it. -/
def Fills (field : Field) : Option Value → Option field.Carrier → Option field.Carrier → Prop
  | none, before, after => after = before
  | some value, before, after =>
    before = none ∧ ∃ cell, field.codec.ofValue value = .ok cell ∧ after = some cell

/-- What a field shows of its value, if it does not leave it out. -/
def shown (field : Field) (cell : field.Carrier) : Option Value :=
  if field.omits cell then none else some (field.codec.write cell).normalise

/-- A free slot that was filled holds what the field reads, or takes its value for nothing. -/
theorem reads_iff {field : Field} {found : Option Value} {cell : field.Carrier}
    : (∃ slot, field.Fills found none slot ∧ slot.or field.absent = some cell)
      ↔ field.Reads found cell := by
  cases found with
  | none => simp [Fills, Reads]
  | some value =>
      constructor
      · rintro ⟨_, ⟨_, read, same, rfl⟩, kept⟩
        obtain rfl := Option.some.inj kept
        exact same
      · intro same
        exact ⟨some cell, ⟨rfl, cell, same, rfl⟩, rfl⟩

end Field

------------------------------------------------------------------------------------------
-- Slots
------------------------------------------------------------------------------------------

/-- The names of some fields. -/
abbrev fieldNames (fields : List Field) : List String :=
  fields.map Field.name

namespace Slots

/-- What stands under the keys of all fields goes into their slots. -/
def Filled (look : String → Option Value)
    : (fields : List Field) → Slots fields → Slots fields → Prop
  | [], _, _ => True
  | field :: fields, (before, befores), (after, afters) =>
    field.Fills (look field.name) before after ∧ Filled look fields befores afters

/-- A single member, to be looked up. -/
def only (key : String) (item : Value) (name : String) : Option Value :=
  if key = name then some item else none

variable {fields : List Field} {look : String → Option Value} {key : String} {item : Value}

/-- Slots are filled alike by all that is alike under the keys of their fields. -/
theorem filled_congr {other : String → Option Value}
    (same : ∀ name ∈ fieldNames fields, look name = other name) {before after : Slots fields}
    : Filled look fields before after ↔ Filled other fields before after := by
  induction fields with
  | nil => exact Iff.rfl
  | cons field fields ih =>
      obtain ⟨slot, befores⟩ := before
      obtain ⟨slot', afters⟩ := after
      simp only [Filled, same field.name List.mem_cons_self]
      rw [ih fun name member => same name (List.mem_cons_of_mem _ member)]

/-- Where nothing is found, slots stay as they are. -/
theorem filled_none_iff {before after : Slots fields}
    : Filled (fun _ => none) fields before after ↔ after = before := by
  induction fields with
  | nil => exact ⟨fun _ => rfl, fun _ => trivial⟩
  | cons field fields ih =>
      obtain ⟨slot, befores⟩ := before
      obtain ⟨slot', afters⟩ := after
      simp only [Filled, Field.Fills, ih]
      exact Prod.mk.injEq .. ▸ Iff.rfl

/-- Slots are filled by one member and then by others as by all of them together. -/
theorem filled_cons_iff (fresh : look key = none) {before after : Slots fields}
    : (∃ middle, Filled (only key item) fields before middle ∧ Filled look fields middle after)
      ↔ Filled (fun name => if key = name then some item else look name) fields before after := by
  induction fields with
  | nil => exact ⟨fun _ => trivial, fun _ => ⟨(), trivial, trivial⟩⟩
  | cons field fields ih =>
      obtain ⟨slot, befores⟩ := before
      obtain ⟨slot', afters⟩ := after
      have head : (∃ middle, field.Fills (only key item field.name) slot middle
            ∧ field.Fills (look field.name) middle slot')
          ↔ field.Fills (if key = field.name then some item else look field.name) slot slot' := by
        by_cases same : key = field.name
        · subst same
          simp [only, fresh, Field.Fills]
        · simp [only, same, Field.Fills]
      simp only [Filled, ← ih, ← head]
      constructor
      · rintro ⟨⟨middle, middles⟩, ⟨first, firsts⟩, last, lasts⟩
        exact ⟨⟨middle, first, last⟩, middles, firsts, lasts⟩
      · rintro ⟨⟨middle, first, last⟩, middles, firsts, lasts⟩
        exact ⟨(middle, middles), ⟨first, firsts⟩, last, lasts⟩

/-- Only a member without a field goes into no slot. -/
theorem fill_eq_none_iff {ε : Type} {read : (field : Field) → Except ε field.Carrier}
    {twice : String → ε} {slots : Slots fields}
    : fill read twice key fields slots = none ↔ key ∉ fieldNames fields := by
  induction fields with
  | nil => exact iff_of_true rfl List.not_mem_nil
  | cons field fields ih =>
      obtain ⟨slot, slots⟩ := slots
      by_cases same : field.name = key
      · refine iff_of_false ?_ (not_not.mpr (List.mem_cons.mpr (Or.inl same.symm)))
        cases slot <;> simp [fill, same]
      · have here : key ∈ fieldNames (field :: fields) ↔ key ∈ fieldNames fields :=
          List.mem_cons.trans (or_iff_right (Ne.symm same))
        rw [here, ← @ih slots]
        simp only [fill, if_neg same, Option.map_eq_none_iff]

variable {twice : String → Mismatch}

/-- A member with a field goes into its slot where the field reads it and the slot is free. -/
theorem fill_eq_ok_iff (single : (fieldNames fields).Nodup) (named : key ∈ fieldNames fields)
    {before after : Slots fields}
    : fill (fun field => field.codec.ofValue item) twice key fields before = some (.ok after)
      ↔ Filled (only key item) fields before after := by
  induction fields with
  | nil => cases named
  | cons field fields ih =>
      obtain ⟨slot, befores⟩ := before
      obtain ⟨slot', afters⟩ := after
      obtain ⟨fresh, later⟩ := List.nodup_cons.mp single
      by_cases same : field.name = key
      · -- All other fields have other names.
        have others : Filled (only key item) fields befores afters ↔ afters = befores := by
          rw [← filled_none_iff]
          refine filled_congr ?_
          intro name member
          refine if_neg ?_
          rintro rfl
          exact fresh (same ▸ member)
        simp only [fill, if_pos same, Filled, others, only, if_pos same.symm]
        cases slot with
        | some value => simp [Field.Fills]
        | none =>
            cases read : field.codec.ofValue item with
            | error found => simp [Field.Fills, read, Except.map]
            | ok value =>
                simp only [Field.Fills, read, Except.map, true_and]
                constructor
                · intro filled
                  obtain ⟨rfl, rfl⟩ := Prod.mk.inj (Except.ok.inj (Option.some.inj filled))
                  exact ⟨⟨value, rfl, rfl⟩, rfl⟩
                · rintro ⟨⟨found, rightly, rfl⟩, rfl⟩
                  rw [Except.ok.inj rightly]
      · have inside : key ∈ fieldNames fields :=
          (List.mem_cons.mp named).resolve_left (Ne.symm same)
        simp only [fill, if_neg same, Filled, ← ih later inside, only, if_neg (Ne.symm same)]
        cases fill (fun field => field.codec.ofValue item) twice key fields befores with
        | none => simp
        | some filled =>
            cases filled with
            | error found => simp [Except.map]
            | ok filled =>
                simp only [Field.Fills, Option.map_some, Except.map]
                constructor
                · intro filled
                  obtain ⟨rfl, rfl⟩ := Prod.mk.inj (Except.ok.inj (Option.some.inj filled))
                  exact ⟨rfl, rfl⟩
                · rintro ⟨rfl, filled⟩
                  rw [Except.ok.inj (Option.some.inj filled)]

end Slots

------------------------------------------------------------------------------------------
-- Reading members
------------------------------------------------------------------------------------------

namespace Cells

/-- Each field reads what is found under its key. -/
def Read (look : String → Option Value) : (fields : List Field) → Cells fields → Prop
  | [], _ => True
  | field :: fields, (cell, cells) => field.Reads (look field.name) cell ∧ Read look fields cells

/-- Each field shows its value under its key. -/
def Shown (look : String → Option Value) : (fields : List Field) → Cells fields → Prop
  | [], _ => True
  | field :: fields, (cell, cells) => look field.name = field.shown cell ∧ Shown look fields cells

/-- Slots that were filled from the beginning are complete where each field reads its part. -/
theorem read_iff {fields : List Field} {look : String → Option Value} {cells : Cells fields}
    : (∃ slots, Slots.Filled look fields (.empty fields) slots
        ∧ slots.complete fields = .ok cells)
      ↔ Read look fields cells := by
  induction fields with
  | nil => exact ⟨fun _ => trivial, fun _ => ⟨(), trivial, rfl⟩⟩
  | cons field fields ih =>
      obtain ⟨cell, cells⟩ := cells
      simp only [Read, ← ih, ← Field.reads_iff]
      constructor
      · rintro ⟨⟨slot, slots⟩, ⟨filled, others⟩, whole⟩
        simp only [Slots.complete] at whole
        cases kept : slot.or field.absent with
        | none =>
            rw [kept] at whole
            contradiction
        | some value =>
            simp only [kept] at whole
            cases rest : slots.complete fields with
            | error found =>
                rw [rest] at whole
                contradiction
            | ok values =>
                rw [rest] at whole
                obtain ⟨rfl, rfl⟩ := Prod.mk.inj (Except.ok.inj whole)
                exact ⟨⟨slot, filled, kept⟩, slots, others, rest⟩
      · rintro ⟨⟨slot, filled, kept⟩, slots, others, rest⟩
        refine ⟨(slot, slots), ⟨filled, others⟩, ?_⟩
        simp only [Slots.complete, kept, rest]
        rfl

end Cells

namespace Layout

variable {fields : List Field} {members : List (String × Value)}

/-- The members of an object that have no field. -/
def others (fields : List Field) (members : List (String × Value)) : List (String × Value) :=
  members.filter fun member => member.1 ∉ fieldNames fields

/--
Members with different keys are read one by one as they are looked up all at once; those without
a field are kept. By induction on the members.
-/
theorem fillValues_eq_ok_iff (single : (fieldNames fields).Nodup)
    (once : (members.map Prod.fst).Nodup) {before after : Slots fields}
    {extra : List (String × Value)}
    : fillValues fields before members = .ok (after, extra)
      ↔ Slots.Filled (fun name => Keyed.get? name members) fields before after
        ∧ extra = others fields members := by
  induction members generalizing before extra with
  | nil =>
      rw [show (fun name => Keyed.get? name ([] : List (String × Value))) = fun _ => none from rfl,
        Slots.filled_none_iff]
      simp only [fillValues, others, List.filter_nil, Except.ok.injEq, Prod.mk.injEq]
      exact and_congr ⟨Eq.symm, Eq.symm⟩ ⟨Eq.symm, Eq.symm⟩
  | cons member rest ih =>
      obtain ⟨key, item⟩ := member
      obtain ⟨fresh, later⟩ := List.nodup_cons.mp once
      have absent : Keyed.get? key rest = none := by
        refine Keyed.get?_eq_none_iff.mpr ?_
        intro entry member same
        exact fresh (List.mem_map.mpr ⟨entry, member, same⟩)
      by_cases named : key ∈ fieldNames fields
      · have kept : others fields ((key, item) :: rest) = others fields rest :=
          List.filter_cons_of_neg (by simpa only [decide_eq_true_eq, not_not] using named)
        have filled : ∀ middle,
            Slots.fill (fun field => field.codec.ofValue item) Mismatch.duplicateField key fields
              before = some (.ok middle)
            ↔ Slots.Filled (Slots.only key item) fields before middle :=
          fun middle => Slots.fill_eq_ok_iff single named
        rw [kept, show (fun name => Keyed.get? name ((key, item) :: rest))
            = fun name => if key = name then some item else Keyed.get? name rest from rfl,
          ← Slots.filled_cons_iff absent]
        simp only [← filled, fillValues]
        cases slots : Slots.fill (fun field => field.codec.ofValue item) Mismatch.duplicateField key
            fields before with
        | none => exact absurd named (Slots.fill_eq_none_iff.mp slots)
        | some filled =>
            cases filled with
            | error found => simp
            | ok middle =>
                simp only [ih later, Option.some.injEq, Except.ok.injEq, exists_eq_left']
      · have kept : others fields ((key, item) :: rest) = (key, item) :: others fields rest :=
          List.filter_cons_of_pos (by simpa only [decide_eq_true_eq] using named)
        have same : ∀ name ∈ fieldNames fields,
            Keyed.get? name ((key, item) :: rest) = Keyed.get? name rest := by
          intro name member
          refine if_neg ?_
          rintro rfl
          exact named member
        rw [kept, Slots.filled_congr same]
        simp only [fillValues, Slots.fill_eq_none_iff.mpr named]
        constructor
        · intro mapped
          cases read : fillValues fields before rest with
          | error found =>
              rw [read] at mapped
              contradiction
          | ok found =>
              obtain ⟨slots, extras⟩ := found
              rw [read] at mapped
              obtain ⟨rfl, rfl⟩ := Prod.mk.inj (Except.ok.inj mapped)
              obtain ⟨filled, rest⟩ := (ih later).mp read
              exact ⟨filled, congrArg _ rest⟩
        · rintro ⟨filled, rfl⟩
          rw [(ih later).mpr ⟨filled, rfl⟩]
          rfl

/--
An object whose keys are different is read as a record exactly where each field reads what stands
under its key; all other members are kept.
-/
theorem readValues_eq_ok_iff (single : (fieldNames fields).Nodup)
    (once : (members.map Prod.fst).Nodup) {cells : Cells fields} {extra : Object}
    : readValues fields members = .ok (cells, extra)
      ↔ cells.Read (fun name => Keyed.get? name members) fields
        ∧ extra = .ofMembers (others fields members) := by
  rw [← Cells.read_iff]
  constructor
  · intro read
    unfold readValues at read
    cases filled : fillValues fields (.empty fields) members with
    | error found =>
        rw [filled] at read
        contradiction
    | ok found =>
        obtain ⟨slots, extras⟩ := found
        simp only [filled] at read
        obtain ⟨inside, rfl⟩ := (fillValues_eq_ok_iff single once).mp filled
        cases whole : slots.complete fields with
        | error found =>
            rw [whole] at read
            contradiction
        | ok values =>
            rw [whole] at read
            obtain ⟨rfl, rfl⟩ := Prod.mk.inj (Except.ok.inj read)
            exact ⟨⟨slots, inside, whole⟩, rfl⟩
  · rintro ⟨⟨slots, inside, whole⟩, rfl⟩
    simp only [readValues, (fillValues_eq_ok_iff single once).mpr ⟨inside, rfl⟩, whole]
    rfl

end Layout

------------------------------------------------------------------------------------------
-- Writing members
------------------------------------------------------------------------------------------

namespace Cells

variable {fields : List Field} {cells : Cells fields} {extra : List (String × Value)}

theorem fst_mem_of_mem_members {member : String × Value} (written : member ∈ cells.members fields)
    : member.1 ∈ fieldNames fields := by
  induction fields with
  | nil => cases written
  | cons field fields ih =>
      obtain ⟨cell, cells⟩ := cells
      rcases List.mem_append.mp written with here | later
      · split at here
        · cases here
        · rw [List.mem_singleton.mp here]
          exact List.mem_cons_self
      · exact List.mem_cons_of_mem _ (ih later)

theorem nodup_members (single : (fieldNames fields).Nodup)
    : ((cells.members fields).map Prod.fst).Nodup := by
  induction fields with
  | nil => exact List.nodup_nil
  | cons field fields ih =>
      obtain ⟨cell, cells⟩ := cells
      obtain ⟨fresh, later⟩ := List.nodup_cons.mp single
      simp only [members]
      split
      · exact ih later
      · refine List.nodup_cons.mpr ⟨?_, ih later⟩
        intro again
        obtain ⟨member, written, same⟩ := List.mem_map.mp again
        have named := fst_mem_of_mem_members written
        rw [same] at named
        exact fresh named

/-- Members beside those of the fields have other keys if none of them has the key of a field. -/
theorem nodup_members_append (single : (fieldNames fields).Nodup)
    (apart : ∀ member ∈ extra, member.1 ∉ fieldNames fields) (once : (extra.map Prod.fst).Nodup)
    : ((cells.members fields ++ extra).map Prod.fst).Nodup := by
  rw [List.map_append, List.nodup_append]
  refine ⟨nodup_members single, once, ?_⟩
  rintro name inside _ beside rfl
  obtain ⟨member, written, rfl⟩ := List.mem_map.mp inside
  obtain ⟨other, kept, same⟩ := List.mem_map.mp beside
  exact apart other kept (same ▸ fst_mem_of_mem_members written)

theorem shown_congr {look other : String → Option Value}
    (same : ∀ name ∈ fieldNames fields, look name = other name)
    : cells.Shown look fields ↔ cells.Shown other fields := by
  induction fields with
  | nil => exact Iff.rfl
  | cons field fields ih =>
      obtain ⟨cell, cells⟩ := cells
      simp only [Shown, same field.name List.mem_cons_self]
      rw [ih fun name member => same name (List.mem_cons_of_mem _ member)]

theorem shown_members (single : (fieldNames fields).Nodup)
    : cells.Shown (fun name => (Keyed.get? name (cells.members fields)).map Value.normalise)
        fields := by
  induction fields with
  | nil => trivial
  | cons field fields ih =>
      obtain ⟨cell, cells⟩ := cells
      obtain ⟨fresh, later⟩ := List.nodup_cons.mp single
      have unnamed : Keyed.get? field.name (cells.members fields) = none := by
        refine Keyed.get?_eq_none_iff.mpr ?_
        rintro member written same
        exact fresh (same ▸ fst_mem_of_mem_members written)
      constructor
      · simp only [members, Keyed.get?_append, unnamed, Field.shown]
        split <;> simp [Keyed.get?]
      · refine (shown_congr ?_).mp (ih later)
        intro name member
        have differ : field.name ≠ name := by
          rintro rfl
          exact fresh member
        simp only [members, Keyed.get?_append]
        split <;> simp [Keyed.get?, differ]

theorem Shown.unique {look other : String → Option Value} (first : cells.Shown look fields)
    (second : cells.Shown other fields)
    : ∀ name ∈ fieldNames fields, look name = other name := by
  induction fields with
  | nil => exact fun _ member => nomatch member
  | cons field fields ih =>
      obtain ⟨cell, cells⟩ := cells
      intro name member
      rcases List.mem_cons.mp member with rfl | later
      · exact first.1.trans second.1.symm
      · exact ih first.2 second.2 name later

end Cells

end DiscordRest.Json
