import DiscordRest.Keyed

/-! Finite maps from texts to texts, listed in ascending order of their keys. -/

namespace DiscordRest

/-- A finite map from texts to texts. -/
structure TextMap where
  /-- The entries in ascending order of their keys. -/
  entries : List (String × String)
  /-- The keys ascend strictly, so that equal maps have equal entries. -/
  ascending : Keyed.Ascending entries

namespace TextMap

/-- Maps are equal when their entries are. -/
instance : DecidableEq TextMap := fun a b =>
  decidable_of_iff (a.entries = b.entries) (by cases a; cases b; simp)

/-- The map without entries. -/
def empty : TextMap := ⟨[], List.Pairwise.nil⟩

/-- A map defaults to the empty one. -/
instance : Inhabited TextMap := ⟨empty⟩

/-- The map with an entry added, in place of one with the same key. -/
def put (map : TextMap) (key value : String) : TextMap :=
  ⟨Keyed.put key value map.entries, Keyed.ascending_put map.ascending key value⟩

/-- The map with all entries of another one added. -/
def putAll (map other : TextMap) : TextMap :=
  other.entries.foldl (fun map entry => map.put entry.1 entry.2) map

/-- The map of some entries, of each key the last one. -/
def ofEntries (entries : List (String × String)) : TextMap :=
  ⟨Keyed.sort entries, Keyed.ascending_sort entries⟩

/-- The value of a key. -/
def get? (map : TextMap) (key : String) : Option String :=
  Keyed.get? key map.entries

/-- Whether a map has no entries. -/
def isEmpty (map : TextMap) : Bool :=
  map.entries.isEmpty

end TextMap

end DiscordRest
