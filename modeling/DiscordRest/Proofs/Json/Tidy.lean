import Mathlib.Data.List.Forall2
import DiscordRest.Proofs.Json.Layout
import DiscordRest.Proofs.Snowflake

/-!
Records read and written again. Rules say what becomes of each member of an object: a member
under the key of a rule may change, be left out, or be put in; all others stay. A layout whose
fields obey such rules writes just what they say, and reads it back.
-/

namespace DiscordRest.Json

------------------------------------------------------------------------------------------
-- Normalised values
------------------------------------------------------------------------------------------

namespace Value

theorem eq_null_of_isNull {value : Value} (null : value.isNull = true) : value = .null := by
  cases value <;> first | rfl | cases null

theorem normaliseMembers_eq_map (members : List (String × Value))
    : normalise.normaliseMembers members
      = members.map fun member => (member.1, member.2.normalise) := by
  induction members with
  | nil => rfl
  | cons member rest ih => rw [normalise.normaliseMembers, ih, List.map_cons]

theorem normaliseItems_eq_map (items : List Value)
    : normalise.normaliseItems items = items.map normalise := by
  induction items with
  | nil => rfl
  | cons item rest ih => rw [normalise.normaliseItems, ih, List.map_cons]

variable {members : List (String × Value)}

theorem ascending_of_normal (normal : (object members).normalise = object members)
    : Keyed.Ascending members := by
  have sorted : Keyed.sort (normalise.normaliseMembers members) = members :=
    object.inj normal
  exact sorted ▸ Keyed.ascending_sort _

theorem normaliseMembers_of_normal (normal : (object members).normalise = object members)
    : normalise.normaliseMembers members = members := by
  have sorted : Keyed.sort (normalise.normaliseMembers members) = members :=
    object.inj normal
  have again := normaliseMembers_sort (normalise.normaliseMembers members)
  rwa [normaliseMembers_normaliseMembers, sorted] at again

theorem normalise_get? (normal : (object members).normalise = object members) (key : String)
    : (Keyed.get? key members).map normalise = Keyed.get? key members := by
  conv => rhs; rw [← normaliseMembers_of_normal normal, normaliseMembers_eq_map, Keyed.get?_map]

/-- Of keys that are not repeated, each stands for the normal form of what it stood for. -/
theorem get?_normalise (once : (members.map Prod.fst).Nodup) (key : String)
    : Keyed.get? key (Keyed.sort (normalise.normaliseMembers members))
      = (Keyed.get? key members).map normalise := by
  rw [normaliseMembers_eq_map, Keyed.get?_sort_of_nodup, Keyed.get?_map]
  rwa [List.map_map]

theorem normalise_of_mem_array {items : List Value}
    (normal : (array items).normalise = array items) {item : Value} (member : item ∈ items)
    : item.normalise = item := by
  have same : items.map normalise = items.map id := by
    rw [List.map_id, ← normaliseItems_eq_map]
    exact array.inj normal
  exact List.map_inj_left.mp same item member

end Value

theorem Object.members_ofMembers_filter {members : List (String × Value)}
    (normal : (Value.object members).normalise = Value.object members)
    (p : String × Value → Bool)
    : (ofMembers (members.filter p)).members = members.filter p := by
  have values : Value.normalise.normaliseMembers (members.filter p) = members.filter p := by
    have all := Value.normaliseMembers_of_normal normal
    rw [Value.normaliseMembers_eq_map] at all ⊢
    have each : ∀ member ∈ members, (member.1, member.2.normalise) = member :=
      fun member inside => List.map_inj_left.mp (all.trans (List.map_id _).symm) member inside
    exact (List.map_congr_left fun member inside =>
      each member (List.mem_of_mem_filter inside)).trans (List.map_id _)
  show Keyed.sort (Value.normalise.normaliseMembers (members.filter p)) = members.filter p
  rw [values]
  exact Keyed.sort_of_ascending ((Value.ascending_of_normal normal).filter p)

------------------------------------------------------------------------------------------
-- Rules
------------------------------------------------------------------------------------------

/-- What becomes of a value. -/
abbrev Change : Type := Value → Value

namespace Change

/-- The value stays as it is. -/
def nothing : Change := fun value => value

/-- A value that stands for a snowflake becomes the numeral of the snowflake. -/
def numeral : Change
  | .number (.integer value _) => .string (Text.decimal value.toNat)
  | .string text =>
    match Snowflake.ofText? text with
    | some id => .string id.text
    | none => .string text
  | value => value

/-- Each item of an array changes. -/
def items (change : Change) : Change
  | .array items => .array (items.map change)
  | value => value

end Change

/-- What becomes of the member under a key. -/
structure Rule where
  name : String
  /-- What a value becomes; none if it is left out. -/
  given : Value → Option Value
  /-- What is put in where there is no value. -/
  missing : Option Value

namespace Rule

/-- A value changes in some way, and there must be one. -/
def required (name : String) (change : Change) : Rule :=
  ⟨name, fun value => some (change value), none⟩

/-- A value changes in some way unless it is null, which is left out. -/
def optional (name : String) (change : Change) : Rule :=
  ⟨name, fun value => if value.isNull then none else some (change value), none⟩

/-- A value changes in some way, and one is put in where there is none. -/
def withDefault (name : String) (change : Change) (value : Value) : Rule :=
  ⟨name, fun value => some (change value), some value⟩

/-- What stands under the key afterwards. -/
def after (rule : Rule) : Option Value → Option Value
  | none => rule.missing
  | some value => rule.given value

end Rule

/-- What some rules make of what stands under a key: without a rule for it, nothing else. -/
def keptUnder (rules : List Rule) (key : String) (found : Option Value) : Option Value :=
  match rules.find? fun rule => rule.name = key with
  | none => found
  | some rule => rule.after found

/-- What some rules make of an object; any other value stays as it is. -/
def tidy (rules : List Rule) : Change
  | .object members =>
    let keys := members.map Prod.fst ++ rules.map Rule.name
    .object (Keyed.sort (keys.filterMap fun key =>
      (keptUnder rules key (Keyed.get? key members)).map (key, ·)))
  | value => value

section

variable {rules : List Rule} {key : String} {members : List (String × Value)}

theorem keptUnder_of_not_mem (other : key ∉ rules.map Rule.name) (found : Option Value)
    : keptUnder rules key found = found := by
  have none_named : rules.find? (fun rule => rule.name = key) = none := by
    refine List.find?_eq_none.mpr ?_
    intro rule member
    have differ : rule.name ≠ key := fun same => other (List.mem_map.mpr ⟨rule, member, same⟩)
    simpa using differ
  rw [keptUnder, none_named]

theorem keptUnder_of_mem (single : (rules.map Rule.name).Nodup) {rule : Rule}
    (member : rule ∈ rules) (found : Option Value)
    : keptUnder rules rule.name found = rule.after found := by
  have this_named : rules.find? (fun other => other.name = rule.name) = some rule := by
    induction rules with
    | nil => cases member
    | cons first rest ih =>
        obtain ⟨fresh, later⟩ := List.nodup_cons.mp single
        rcases List.mem_cons.mp member with rfl | inside
        · simp
        · have differ : first.name ≠ rule.name :=
            fun same => fresh (List.mem_map.mpr ⟨rule, inside, same.symm⟩)
          rw [List.find?_cons_of_neg (by simpa using differ)]
          exact ih later inside
  rw [keptUnder, this_named]

/-- A tidied object has ascending keys, and holds under each key what the rules say. -/
theorem exists_tidy_object (rules : List Rule) (members : List (String × Value))
    : ∃ tidied,
        tidy rules (.object members) = .object tidied
        ∧ Keyed.Ascending tidied
        ∧ ∀ key, Keyed.get? key tidied = keptUnder rules key (Keyed.get? key members) := by
  refine ⟨_, rfl, Keyed.ascending_sort _, ?_⟩
  intro key
  rw [Keyed.get?_sort, ← List.filterMap_reverse,
    Keyed.get?_filterMap (fun key => keptUnder rules key (Keyed.get? key members))]
  split
  · rfl
  · rename_i nowhere
    rw [List.mem_reverse, List.mem_append, not_or] at nowhere
    have absent : Keyed.get? key members = none := by
      refine Keyed.get?_eq_none_iff.mpr ?_
      intro member inside same
      exact nowhere.1 (List.mem_map.mpr ⟨member, inside, same⟩)
    rw [absent, keptUnder_of_not_mem nowhere.2]

end

------------------------------------------------------------------------------------------
-- Codecs that change what they read
------------------------------------------------------------------------------------------

/-- A codec writes a value that it read changed in some way, and reads the change as the same. -/
structure Codec.Tidies {α : Type} (codec : Codec α) (change : Change) : Prop where
  writes
    : ∀ {value x},
        value.normalise = value
        → codec.ofValue value = .ok x
        → (codec.write x).normalise = change value
  rereads
    : ∀ {value x},
        value.normalise = value
        → codec.ofValue value = .ok x
        → codec.ofValue (change value) = .ok x

/-- A field reads what is found under its key, and shows it as a rule says. -/
structure Field.Obeys (field : Field) (rule : Rule) : Prop where
  name : field.name = rule.name
  shows
    : ∀ {found cell},
        found.map Value.normalise = found
        → field.Reads found cell
        → field.shown cell = rule.after found
  rereads
    : ∀ {found cell},
        found.map Value.normalise = found
        → field.Reads found cell
        → field.Reads (field.shown cell) cell

section

variable {α : Type} {codec : Codec α} {change : Change}

theorem Field.obeys_required (name : String) (tidies : codec.Tidies change)
    : (Field.required name codec).Obeys (.required name change) where
  name := rfl
  shows {found cell} normal reads := by
    cases found with
    | none => cases reads
    | some value => exact congrArg some (tidies.writes (Option.some.inj normal) reads)
  rereads {found cell} normal reads := by
    cases found with
    | none => cases reads
    | some value =>
        show codec.ofValue (codec.write cell).normalise = .ok cell
        rw [tidies.writes (Option.some.inj normal) reads]
        exact tidies.rereads (Option.some.inj normal) reads

/-- A field with a default changes its value as its codec does, and shows the default for none. -/
theorem Field.obeys_withDefault (name : String) (tidies : codec.Tidies change) {value : α}
    {written : Value} (writes : (codec.write value).normalise = written)
    (rereads : codec.ofValue written = .ok value)
    : (Field.withDefault name codec value).Obeys (.withDefault name change written) where
  name := rfl
  shows {found cell} normal reads := by
    cases found with
    | none =>
        obtain rfl : value = cell := Option.some.inj reads
        exact congrArg some writes
    | some value => exact congrArg some (tidies.writes (Option.some.inj normal) reads)
  rereads {found cell} normal reads := by
    show codec.ofValue (codec.write cell).normalise = .ok cell
    cases found with
    | none =>
        obtain rfl : value = cell := Option.some.inj reads
        rw [writes, rereads]
    | some value =>
        rw [tidies.writes (Option.some.inj normal) reads]
        exact tidies.rereads (Option.some.inj normal) reads

theorem Codec.ofValue_option_eq_ok_iff {value : Value} {cell : Option α}
    : codec.option.ofValue value = .ok cell
      ↔ value.isNull = true ∧ cell = none
        ∨ value.isNull = false ∧ ∃ x, codec.ofValue value = .ok x ∧ cell = some x := by
  cases value with
  | null => simp [option, Value.isNull, eq_comm]
  | _ =>
      simp only [option, Value.isNull, Bool.false_eq_true, false_and, true_and,
        false_or]
      constructor
      · intro read
        cases given : codec.ofValue _ with
        | error found =>
            rw [given] at read
            cases read
        | ok x =>
            rw [given] at read
            exact ⟨x, rfl, (Except.ok.inj read).symm⟩
      · rintro ⟨x, read, rfl⟩
        rw [read]
        rfl

/-- An optional field leaves out null, and changes any other value as its codec does. -/
theorem Field.obeys_optional (name : String) (tidies : codec.Tidies change)
    (refuses : ∀ x, codec.ofValue .null ≠ .ok x)
    : (Field.optional name codec).Obeys (.optional name change) where
  name := rfl
  shows {found cell} normal reads := by
    cases found with
    | none =>
        obtain rfl : none = cell := Option.some.inj reads
        rfl
    | some value =>
        rcases Codec.ofValue_option_eq_ok_iff.mp reads with ⟨null, rfl⟩ | ⟨other, x, read, rfl⟩
        · exact (if_pos null).symm
        · refine Eq.trans ?_ (if_neg (Bool.eq_false_iff.mp other)).symm
          exact congrArg some (tidies.writes (Option.some.inj normal) read)
  rereads {found cell} normal reads := by
    cases cell with
    | none => rfl
    | some x =>
        cases found with
        | none => cases reads
        | some value =>
            rcases Codec.ofValue_option_eq_ok_iff.mp reads with ⟨_, impossible⟩ | ⟨_, y, read, same⟩
            · cases impossible
            · obtain rfl := Option.some.inj same
              have again := tidies.rereads (Option.some.inj normal) read
              show codec.option.ofValue (codec.write x).normalise = .ok (some x)
              rw [tidies.writes (Option.some.inj normal) read]
              refine Codec.ofValue_option_eq_ok_iff.mpr (Or.inr ⟨?_, x, again, rfl⟩)
              refine Bool.eq_false_iff.mpr ?_
              intro null
              exact refuses x (Value.eq_null_of_isNull null ▸ again)

end

------------------------------------------------------------------------------------------
-- Codecs of single values
------------------------------------------------------------------------------------------

namespace Codec

theorem tidies_string : string.Tidies .nothing where
  writes {value x} _ read := by
    cases value with
    | string text => exact congrArg Value.string (Except.ok.inj read).symm
    | _ => cases read
  rereads _ read := read

theorem tidies_boolean : boolean.Tidies .nothing where
  writes {value x} _ read := by
    cases value with
    | boolean truth => exact congrArg Value.boolean (Except.ok.inj read).symm
    | _ => cases read
  rereads _ read := read

theorem tidies_natural (name : String) (greatest : Nat) (h : greatest ≤ greatestWord)
    : (natural name greatest h).Tidies .nothing where
  writes {value x} _ read := by
    cases value with
    | number number =>
        cases number with
        | real _ => cases read
        | integer n bounds =>
            simp only [natural, ofScalar] at read
            split at read
            · rename_i fits
              obtain rfl := Except.ok.inj read
              show Value.number (.integer n.toNat _) = Value.number (.integer n bounds)
              congr 2
              exact Int.toNat_of_nonneg fits.2
            · cases read
    | _ => cases read
  rereads _ read := read

variable {α β : Type} {codec : Codec α} {change : Change}

theorem Tidies.convert (tidies : codec.Tidies change) {forth : α → β} {back : β → α}
    (inverse : ∀ x, back (forth x) = x)
    : (codec.convert forth back).Tidies change where
  writes {value y} normal read := by
    simp only [Codec.convert] at read
    cases given : codec.ofValue value with
    | error found =>
        rw [given] at read
        cases read
    | ok x =>
        rw [given] at read
        obtain rfl := Except.ok.inj read
        show (codec.write (back (forth x))).normalise = change value
        rw [inverse, tidies.writes normal given]
  rereads {value y} normal read := by
    simp only [Codec.convert] at read ⊢
    cases given : codec.ofValue value with
    | error found =>
        rw [given] at read
        cases read
    | ok x =>
        rw [given] at read
        rw [tidies.rereads normal given, ← read]

/-- Items are read one by one, by induction on them; each of them changes as its codec does. -/
theorem Tidies.valuesOf (tidies : codec.Tidies change) {items : List Value} {xs : List α}
    (normal : ∀ item ∈ items, item.normalise = item) (read : valuesOf codec items = .ok xs)
    : xs.map (fun x => (codec.write x).normalise) = items.map change
      ∧ Codec.valuesOf codec (items.map change) = .ok xs := by
  induction items generalizing xs with
  | nil =>
      obtain rfl := Except.ok.inj read
      exact ⟨rfl, rfl⟩
  | cons item rest ih =>
      simp only [Codec.valuesOf] at read
      cases first : codec.ofValue item with
      | error found =>
          rw [first] at read
          cases read
      | ok x =>
          simp only [first] at read
          cases others : Codec.valuesOf codec rest with
          | error found =>
              rw [others] at read
              cases read
          | ok later =>
              rw [others] at read
              obtain rfl := Except.ok.inj read
              have here := normal item List.mem_cons_self
              obtain ⟨written, again⟩ :=
                ih (fun item member => normal item (List.mem_cons_of_mem _ member)) others
              refine ⟨?_, ?_⟩
              · rw [List.map_cons, List.map_cons, tidies.writes here first, written]
              · simp only [List.map_cons, Codec.valuesOf, tidies.rereads here first, again]
                rfl

theorem Tidies.list (tidies : codec.Tidies change) : (list codec).Tidies (Change.items change) where
  writes {value xs} normal read := by
    cases value with
    | array items =>
        have items_normal := fun item (member : item ∈ items) =>
          Value.normalise_of_mem_array normal member
        show Value.array _ = Value.array _
        rw [Value.normaliseItems_eq_map, List.map_map]
        exact congrArg Value.array (tidies.valuesOf items_normal read).1
    | number number => cases number <;> cases read
    | _ => cases read
  rereads {value xs} normal read := by
    cases value with
    | array items =>
        exact (tidies.valuesOf (fun item => Value.normalise_of_mem_array normal) read).2
    | number number => cases number <;> cases read
    | _ => cases read

theorem numeral_eq {value : Value} {id : Snowflake} (read : snowflake.ofValue value = .ok id)
    : Change.numeral value = .string id.text := by
  cases value with
  | number number =>
      cases number with
      | real _ => cases read
      | integer n bounds =>
          simp only [snowflake, ofAnyScalar, ofScalar] at read
          split at read
          · obtain rfl := Except.ok.inj read
            have fits : n.toNat < 2 ^ 64 := by
              have below := bounds.2
              unfold greatestInteger at below
              omega
            rw [Snowflake.text, UInt64.toNat_ofNat_of_lt' fits]
            rfl
          · cases read
  | string text =>
      simp only [snowflake, ofAnyScalar, ofScalar] at read
      simp only [Change.numeral]
      cases found : Snowflake.ofText? text with
      | none =>
          rw [found] at read
          cases read
      | some other =>
          rw [found] at read
          obtain rfl := Except.ok.inj read
          rfl
  | _ => cases read

/-- Snowflakes become their numerals, whether they were read from a numeral or an integer. -/
theorem tidies_snowflake : snowflake.Tidies Change.numeral where
  writes _ read := (numeral_eq read).symm
  rereads {value id} _ read := by
    rw [numeral_eq read]
    simp only [snowflake, ofAnyScalar, ofScalar, Snowflake.ofText?_text]

end Codec

------------------------------------------------------------------------------------------
-- Layouts that obey rules
------------------------------------------------------------------------------------------

section

variable {fields : List Field} {rules : List Rule} {look : String → Option Value}
variable {cells : Cells fields} {members : List (String × Value)}

theorem fieldNames_of_obeys (obeys : List.Forall₂ Field.Obeys fields rules)
    : fieldNames fields = rules.map Rule.name := by
  induction obeys with
  | nil => rfl
  | cons first _ ih => exact congrArg₂ List.cons first.name ih

/-- Fields that obey rules show what the rules make of what they read. -/
theorem Cells.shown_of_read (obeys : List.Forall₂ Field.Obeys fields rules)
    (normal : ∀ name, (look name).map Value.normalise = look name)
    {after : String → Option Value}
    (ruled : ∀ rule ∈ rules, after rule.name = rule.after (look rule.name))
    (read : cells.Read look fields)
    : cells.Shown after fields := by
  induction obeys with
  | nil => trivial
  | @cons field rule fields rules first _ ih =>
      obtain ⟨cell, cells⟩ := cells
      refine ⟨?_, ih (fun rule member => ruled rule (List.mem_cons_of_mem _ member)) read.2⟩
      rw [first.shows (normal field.name) read.1, first.name]
      exact ruled rule List.mem_cons_self

/-- Fields that obey rules read what they show as what they read before. -/
theorem Cells.read_of_shown (obeys : List.Forall₂ Field.Obeys fields rules)
    (normal : ∀ name, (look name).map Value.normalise = look name)
    (read : cells.Read look fields) {after : String → Option Value}
    (shown : cells.Shown after fields)
    : cells.Read after fields := by
  induction obeys with
  | nil => trivial
  | @cons field rule fields rules first _ ih =>
      obtain ⟨cell, cells⟩ := cells
      refine ⟨?_, ih read.2 shown.2⟩
      rw [shown.1]
      exact first.rereads (normal field.name) read.1

namespace Layout

theorem nodup_others (once : (members.map Prod.fst).Nodup)
    : ((others fields members).map Prod.fst).Nodup :=
  once.sublist (List.filter_sublist.map _)

theorem get?_others (once : (members.map Prod.fst).Nodup) (key : String)
    : Keyed.get? key (others fields members)
      = if key ∈ fieldNames fields then none else Keyed.get? key members := by
  ext value
  rw [Keyed.get?_eq_some_iff (nodup_others once), others, List.mem_filter, decide_eq_true_iff]
  split
  · rename_i named
    simp [named]
  · rename_i unnamed
    rw [Keyed.get?_eq_some_iff once]
    exact and_iff_left unnamed

/-- Members that differ under keys of fields only have the same members beside. -/
theorem others_eq_of_get? {tidied : List (String × Value)} (ascending : Keyed.Ascending members)
    (ascending' : Keyed.Ascending tidied)
    (same : ∀ key, key ∉ fieldNames fields → Keyed.get? key tidied = Keyed.get? key members)
    : others fields tidied = others fields members := by
  refine Keyed.Ascending.ext (ascending'.filter _) (ascending.filter _) ?_
  intro key
  rw [get?_others ascending'.nodup, get?_others ascending.nodup]
  split
  · rfl
  · rename_i unnamed
    exact same key unnamed

/-- What is written of a record holds the fields' values and the other members, each once. -/
theorem get?_written (single : (fieldNames fields).Nodup)
    (normal : (Value.object members).normalise = Value.object members) (key : String)
    : Keyed.get? key
        (Keyed.sort (Value.normalise.normaliseMembers
          (cells.members fields ++ (Object.ofMembers (others fields members)).members)))
      = if key ∈ fieldNames fields
        then (Keyed.get? key (cells.members fields)).map Value.normalise
        else Keyed.get? key members := by
  have ascending := Value.ascending_of_normal normal
  rw [show (Object.ofMembers (others fields members)).members = others fields members from
    Object.members_ofMembers_filter normal _]
  have once : ((cells.members fields ++ others fields members).map Prod.fst).Nodup :=
    Cells.nodup_members_append single
      (fun other kept => of_decide_eq_true (List.mem_filter.mp kept).2)
      (ascending.filter _).nodup
  rw [Value.get?_normalise once, Keyed.get?_append, get?_others ascending.nodup]
  split
  · rw [Option.or_none]
  · rename_i unnamed
    have absent : Keyed.get? key (cells.members fields) = none := by
      refine Keyed.get?_eq_none_iff.mpr ?_
      rintro member written rfl
      exact unnamed (Cells.fst_mem_of_mem_members written)
    rw [absent, Option.none_or, Value.normalise_get? normal]

theorem ofValue_openCodec_eq_ok {layout : Layout} {value : Value}
    {x : Cells layout.fields × Object} (read : layout.openCodec.ofValue value = .ok x)
    : ∃ members, value = .object members ∧ readValues layout.fields members = .ok x := by
  cases value with
  | object members => exact ⟨members, rfl, read⟩
  | number value => cases value <;> cases read
  | _ => cases read

/-- The members that an open record keeps beside its fields have other keys than these. -/
theorem apart_openCodec {layout : Layout} (single : (fieldNames layout.fields).Nodup)
    {value : Value} (normal : value.normalise = value) {x : Cells layout.fields × Object}
    (read : layout.openCodec.ofValue value = .ok x)
    : ∀ member ∈ x.2.members, member.1 ∉ fieldNames layout.fields := by
  obtain ⟨cells, extra⟩ := x
  obtain ⟨members, rfl, read⟩ := ofValue_openCodec_eq_ok read
  have ascending := Value.ascending_of_normal normal
  obtain ⟨-, rfl⟩ := (readValues_eq_ok_iff single ascending.nodup).mp read
  intro member inside
  rw [show (Object.ofMembers (others layout.fields members)).members
    = others layout.fields members from Object.members_ofMembers_filter normal _] at inside
  exact of_decide_eq_true (List.mem_filter.mp inside).2

/--
A layout whose fields obey rules for different keys writes a record that it read as the rules say,
and reads the same record from that again.
-/
theorem tidies_openCodec {layout : Layout} (obeys : List.Forall₂ Field.Obeys layout.fields rules)
    (single : (rules.map Rule.name).Nodup)
    : layout.openCodec.Tidies (tidy rules) := by
  have names := fieldNames_of_obeys obeys
  have singleFields : (fieldNames layout.fields).Nodup := names ▸ single
  -- Under the keys of fields the record shows what the rules say; the rest is left as it is.
  have shows : ∀ members (cells : Cells layout.fields),
      (Value.object members).normalise = .object members
      → cells.Read (fun name => Keyed.get? name members) layout.fields
      → cells.Shown (fun name => keptUnder rules name (Keyed.get? name members)) layout.fields := by
    intro members cells normal read
    refine Cells.shown_of_read obeys (Value.normalise_get? normal) ?_ read
    exact fun rule member => keptUnder_of_mem single member _
  constructor
  · rintro value ⟨cells, extra⟩ normal read
    obtain ⟨members, rfl, read⟩ := ofValue_openCodec_eq_ok read
    have ascending := Value.ascending_of_normal normal
    obtain ⟨inside, rfl⟩ := (readValues_eq_ok_iff singleFields ascending.nodup).mp read
    obtain ⟨tidied, result, ascending', found⟩ := exists_tidy_object rules members
    rw [result]
    show Value.object (Keyed.sort _) = .object tidied
    congr 1
    refine (Keyed.ascending_sort _).ext ascending' ?_
    intro key
    rw [get?_written singleFields normal, found]
    split
    · rename_i named
      exact (Cells.shown_members singleFields).unique (shows members cells normal inside) key named
    · rename_i unnamed
      exact (keptUnder_of_not_mem (names ▸ unnamed) _).symm
  · rintro value ⟨cells, extra⟩ normal read
    obtain ⟨members, rfl, read⟩ := ofValue_openCodec_eq_ok read
    have ascending := Value.ascending_of_normal normal
    obtain ⟨inside, rfl⟩ := (readValues_eq_ok_iff singleFields ascending.nodup).mp read
    obtain ⟨tidied, result, ascending', found⟩ := exists_tidy_object rules members
    rw [result]
    refine (readValues_eq_ok_iff singleFields ascending'.nodup).mpr ⟨?_, ?_⟩
    · refine Cells.read_of_shown obeys (Value.normalise_get? normal) inside ?_
      simpa only [found] using shows members cells normal inside
    · rw [others_eq_of_get? ascending ascending']
      intro key unnamed
      rw [found, keptUnder_of_not_mem (names ▸ unnamed)]

end Layout

end

end DiscordRest.Json
