import DiscordRest.Json.Value

/-!
Objects with sorted members. Normalising a value twice is normalising it once, so the normalised
members of any object form one of these.
-/

namespace DiscordRest.Json

namespace Value

/-- Normalising the values of members goes through the placing of one member. -/
theorem normaliseMembers_put (key : String) (value : Value) (members : List (String × Value))
    : normalise.normaliseMembers (Keyed.put key value members)
      = Keyed.put key value.normalise (normalise.normaliseMembers members) := by
  induction members with
  | nil => rfl
  | cons member rest ih =>
    obtain ⟨other, kept⟩ := member
    simp only [Keyed.put, normalise.normaliseMembers]
    split
    · rfl
    · split
      · rfl
      · simp only [normalise.normaliseMembers, ih]

/-- Normalising the values of members goes through the sorting of the members. -/
theorem normaliseMembers_sort (members : List (String × Value))
    : normalise.normaliseMembers (Keyed.sort members)
      = Keyed.sort (normalise.normaliseMembers members) := by
  suffices h : ∀ sorted, normalise.normaliseMembers
      (members.foldl (fun sorted member => Keyed.put member.1 member.2 sorted) sorted)
      = (normalise.normaliseMembers members).foldl
        (fun sorted member => Keyed.put member.1 member.2 sorted)
        (normalise.normaliseMembers sorted) from h []
  induction members with
  | nil => intro sorted; rfl
  | cons member rest ih =>
    intro sorted
    simp only [List.foldl_cons, normalise.normaliseMembers, ih, normaliseMembers_put]

mutual

/-- Normalising a value twice is normalising it once. -/
theorem normalise_normalise : (value : Value) → value.normalise.normalise = value.normalise
  | null => rfl
  | boolean _ => rfl
  | number _ => rfl
  | string _ => rfl
  | array items => by
    simp only [normalise, normaliseItems_normaliseItems items]
  | object members => by
    simp only [normalise, normaliseMembers_sort, normaliseMembers_normaliseMembers members]
    rw [Keyed.sort_of_ascending (Keyed.ascending_sort _)]

/-- Normalising the items of an array twice is normalising them once. -/
theorem normaliseItems_normaliseItems : (items : List Value)
    → normalise.normaliseItems (normalise.normaliseItems items) = normalise.normaliseItems items
  | [] => rfl
  | item :: rest => by
    simp only [normalise.normaliseItems, normalise_normalise item,
      normaliseItems_normaliseItems rest]

/-- Normalising the values of members twice is normalising them once. -/
theorem normaliseMembers_normaliseMembers : (members : List (String × Value))
    → normalise.normaliseMembers (normalise.normaliseMembers members)
      = normalise.normaliseMembers members
  | [] => rfl
  | (key, value) :: rest => by
    simp only [normalise.normaliseMembers, normalise_normalise value,
      normaliseMembers_normaliseMembers rest]

end

end Value

/--
The members of an object in ascending order of their keys, each key once, and likewise in all
values in them.
-/
structure Object where
  /-- The members. -/
  members : List (String × Value)
  /-- The members are those of a normalised object. -/
  normal : (Value.object members).normalise = Value.object members

namespace Object

/-- The object with the given members, normalised. -/
def ofMembers (members : List (String × Value)) : Object :=
  ⟨Keyed.sort (Value.normalise.normaliseMembers members),
    Value.normalise_normalise (.object members)⟩

/-- The object without members. -/
def empty : Object := ⟨[], rfl⟩

/-- An object defaults to the empty one. -/
instance : Inhabited Object := ⟨empty⟩

/-- The value of a key. -/
def get? (object : Object) (key : String) : Option Value :=
  Keyed.get? key object.members

end Object

end DiscordRest.Json
