import DiscordRest.Proofs.Json.Schema

/-!
Maps of texts as objects. A map is read from the objects whose members are texts, the last one of
each key, so that the order in which its entries are written does not matter.
-/

namespace DiscordRest

/-- Entries in any order make the map that has them. -/
theorem TextMap.ofEntries_of_perm {map : TextMap} {order : List (String × String)}
    (same : order.Perm map.entries)
    : TextMap.ofEntries order = map := by
  obtain ⟨entries, ascending⟩ := map
  have once : (order.map Prod.fst).Nodup := (same.map Prod.fst).nodup_iff.mpr ascending.nodup
  have sorted : Keyed.sort order = entries := by
    refine (Keyed.ascending_sort order).ext ascending ?_
    intro key
    ext value
    rw [Keyed.get?_sort_of_nodup once, Keyed.get?_eq_some_iff once,
      Keyed.get?_eq_some_iff ascending.nodup, same.mem_iff]
  simp only [TextMap.ofEntries, sorted]

namespace Json

------------------------------------------------------------------------------------------
-- Texts and numbers
------------------------------------------------------------------------------------------

namespace Codec

theorem ofValue_string_iff {value : Value} {text : String}
    : string.ofValue value = .ok text ↔ Means.string value text := by
  cases value with
  | array | object => exact iff_of_false (by rintro ⟨⟩) (by rintro ⟨⟩)
  | null | boolean | number | string => exact denotes_string _ text rfl

theorem ofValue_natural_iff {name : String} {greatest : Nat} {h : greatest ≤ greatestWord}
    {value : Value} {n : { n : Nat // n ≤ greatest }}
    : (natural name greatest h).ofValue value = .ok n ↔ Means.natural greatest value n := by
  cases value with
  | array | object => exact iff_of_false (by rintro ⟨⟩) (by rintro ⟨_, ⟨⟩⟩)
  | null | boolean | number | string => exact denotes_natural name greatest h _ n rfl

end Codec

------------------------------------------------------------------------------------------
-- Maps
------------------------------------------------------------------------------------------

/-- Entries as the members of an object. -/
def textMembers (entries : List (String × String)) : List (String × Value) :=
  entries.map fun entry => (entry.1, .string entry.2)

/-- Texts under keys hold no floating-point numbers, and nothing nests in them. -/
theorem flat_textMembers (entries : List (String × String))
    : (Value.object (textMembers entries)).isExact = true
      ∧ (Value.object (textMembers entries)).depth < 2 := by
  constructor
  · refine Value.membersExact_iff.mpr fun member inside => ?_
    obtain ⟨entry, -, rfl⟩ := List.mem_map.mp inside
    rfl
  · refine Nat.succ_lt_succ ((Value.membersDepth_lt_iff Nat.one_pos).mpr fun member inside => ?_)
    obtain ⟨entry, -, rfl⟩ := List.mem_map.mp inside
    exact Nat.one_pos

/-- A map is an object whose members are texts; of a repeated key the last one counts. -/
def Means.textMap : Means TextMap :=
  fun value map => ∃ entries, value = .object (textMembers entries) ∧ map = .ofEntries entries

namespace Codec

theorem textValues_eq_ok_iff {members : List (String × Value)} {entries : List (String × String)}
    : textValues members = .ok entries ↔ members = textMembers entries := by
  induction members generalizing entries with
  | nil => cases entries <;> simp [textValues, textMembers]
  | cons member rest ih =>
      obtain ⟨key, item⟩ := member
      have head : textValues ((key, item) :: rest) = .ok entries
          ↔ ∃ text later,
              string.ofValue item = .ok text ∧ textValues rest = .ok later
              ∧ (key, text) :: later = entries := by
        rw [textValues]
        cases string.ofValue item with
        | error found => simp
        | ok text => simp [Except.map_eq_ok_iff]
      simp only [head, ofValue_string_iff, Means.string, ih]
      constructor
      · rintro ⟨text, later, rfl, rfl, rfl⟩
        rfl
      · intro same
        cases entries with
        | nil => cases same
        | cons entry later =>
            obtain ⟨same, rest⟩ := List.cons.inj same
            obtain ⟨rfl, rfl⟩ := Prod.mk.inj same
            exact ⟨entry.2, later, rfl, rest, rfl⟩

theorem ofValue_textMap_iff {value : Value} {map : TextMap}
    : textMap.ofValue value = .ok map ↔ Means.textMap value map := by
  cases value with
  | object members =>
      refine Except.map_eq_ok_iff.trans (exists_congr fun entries => ?_)
      rw [textValues_eq_ok_iff, Value.object.injEq, @eq_comm _ map]
  | number number =>
      cases number <;> exact iff_of_false (by rintro ⟨⟩) (by rintro ⟨_, ⟨⟩, -⟩)
  | null | boolean | string | array =>
      exact iff_of_false (by rintro ⟨⟩) (by rintro ⟨_, ⟨⟩, -⟩)

/-- Drafted members are read as texts as their values are, by induction on them. -/
theorem textDrafts_eq_ok_iff {depth : Nat} {members : List (String × List Char × Draft)}
    {entries : List (String × String)} (whole : Draft.isWhole.membersWhole members = true)
    : textDrafts depth members = .ok entries
      ↔ ∃ values,
          Draft.value?.valueMembers? depth members = .ok values
          ∧ textValues values = .ok entries := by
  induction members generalizing entries with
  | nil => simp [textDrafts, Draft.value?.valueMembers?, textValues]
  | cons member rest ih =>
      obtain ⟨key, after, item⟩ := member
      rw [Draft.isWhole.membersWhole, Bool.and_eq_true] at whole
      have head : textDrafts depth ((key, after, item) :: rest) = .ok entries
          ↔ ∃ text later,
              string.ofDraft depth item = .ok text ∧ textDrafts depth rest = .ok later
              ∧ (key, text) :: later = entries := by
        rw [textDrafts]
        cases string.ofDraft depth item with
        | error fault => simp
        | ok text => simp [Except.map_eq_ok_iff]
      simp only [head, agrees_string item whole.1 depth, ih whole.2,
        Draft.valueMembers?_cons_eq_ok_iff, textValues_eq_ok_iff, ofValue_string_iff, Means.string]
      constructor
      · rintro ⟨text, later, ⟨_, shown, rfl⟩, ⟨_, others, rfl⟩, rfl⟩
        exact ⟨_, ⟨_, _, shown, others, rfl⟩, rfl⟩
      · rintro ⟨_, ⟨value, values, shown, others, rfl⟩, same⟩
        cases entries with
        | nil => cases same
        | cons entry later =>
            obtain ⟨same, rest⟩ := List.cons.inj same
            obtain ⟨rfl, rfl⟩ := Prod.mk.inj same
            exact ⟨entry.2, later, ⟨_, shown, rfl⟩, ⟨_, others, rest⟩, rfl⟩

theorem agrees_textMap : textMap.Agrees := by
  intro draft whole
  cases draft with
  | object text members finish =>
      intro depth map
      have drafts : textMap.ofDraft depth (.object text members finish) = .ok map
          ↔ 1 < depth
            ∧ ∃ entries,
                textDrafts (depth - 1) members = .ok entries
                ∧ (∃ after, finish = .ok after)
                ∧ .ofEntries entries = map := by
        simp only [textMap]
        split
        · rename_i shallow
          simp [Nat.not_lt.mpr shallow]
        · rename_i deep
          cases textDrafts (depth - 1) members with
          | error fault => simp
          | ok entries => simp [Nat.lt_of_not_le deep, Except.map_eq_ok_iff]
      rw [drafts]
      simp only [textDrafts_eq_ok_iff whole, Draft.value?_object_eq_ok_iff]
      constructor
      · rintro ⟨deep, entries, ⟨values, shown, read⟩, ended, rfl⟩
        exact ⟨_, ⟨deep, values, shown, ended, rfl⟩,
          Except.map_eq_ok_iff.mpr ⟨entries, read, rfl⟩⟩
      · rintro ⟨_, ⟨deep, values, shown, ended, rfl⟩, read⟩
        obtain ⟨entries, read, same⟩ := Except.map_eq_ok_iff.mp read
        exact ⟨deep, entries, ⟨values, shown, read⟩, ended, same⟩
  | array text items finish => exact agreesOn_array items (by rintro _ _ ⟨⟩) (by rintro _ _ ⟨⟩)
  | null | boolean | number | string | skipped | faulty =>
      refine agreesOn_of_refuse "a map" whole (fun _ => rfl) ?_
      intro depth value shown
      cases shown <;> rfl

end Codec

end Json

end DiscordRest
