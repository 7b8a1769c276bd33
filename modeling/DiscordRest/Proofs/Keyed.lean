import Mathlib.Data.List.Nodup
import DiscordRest.Keyed

/-!
Looking up keys in lists of entries. Sorting keeps what is found under each key, and an ascending
list is known by what is found in it.
-/

namespace DiscordRest.Keyed

variable {α β : Type} {key : String} {entries : List (String × α)}

------------------------------------------------------------------------------------------
-- What is found
------------------------------------------------------------------------------------------

theorem get?_cons (key other : String) (value : α) (rest : List (String × α))
    : get? key ((other, value) :: rest) = if other = key then some value else get? key rest :=
  rfl

theorem get?_eq_none_iff : get? key entries = none ↔ ∀ entry ∈ entries, entry.1 ≠ key := by
  induction entries with
  | nil => simp [get?]
  | cons entry rest ih =>
      obtain ⟨other, value⟩ := entry
      by_cases same : other = key <;> simp [get?_cons, same, ih]

theorem mem_of_get? {value : α} (found : get? key entries = some value)
    : (key, value) ∈ entries := by
  induction entries with
  | nil => cases found
  | cons entry rest ih =>
      obtain ⟨other, kept⟩ := entry
      rw [get?_cons] at found
      split at found
      · rename_i same
        obtain rfl := Option.some.inj found
        exact same ▸ List.mem_cons_self
      · exact List.mem_cons_of_mem _ (ih found)

/-- Where no two entries have the same key, what is found are just the entries. -/
theorem get?_eq_some_iff (single : (entries.map Prod.fst).Nodup) {value : α}
    : get? key entries = some value ↔ (key, value) ∈ entries := by
  refine ⟨mem_of_get?, ?_⟩
  intro member
  induction entries with
  | nil => cases member
  | cons entry rest ih =>
      obtain ⟨other, kept⟩ := entry
      obtain ⟨fresh, later⟩ := List.nodup_cons.mp single
      rw [get?_cons]
      rcases List.mem_cons.mp member with first | inside
      · obtain ⟨rfl, rfl⟩ := Prod.mk.inj first
        exact if_pos rfl
      · have differ : other ≠ key := by
          intro same
          subst same
          exact fresh (List.mem_map.mpr ⟨_, inside, rfl⟩)
        rw [if_neg differ]
        exact ih later inside

theorem get?_append (key : String) (first rest : List (String × α))
    : get? key (first ++ rest) = (get? key first).or (get? key rest) := by
  induction first with
  | nil => rfl
  | cons entry first ih =>
      obtain ⟨other, value⟩ := entry
      rw [List.cons_append, get?_cons, get?_cons, ih]
      split <;> rfl

theorem get?_map (f : α → β) (key : String) (entries : List (String × α))
    : get? key (entries.map fun entry => (entry.1, f entry.2)) = (get? key entries).map f := by
  induction entries with
  | nil => rfl
  | cons entry rest ih =>
      rw [List.map_cons, get?_cons, ih]
      obtain ⟨other, value⟩ := entry
      rw [get?_cons]
      split <;> rfl

/-- Entries made for some keys hold what was made for each of these. -/
theorem get?_filterMap (f : String → Option α) (key : String) (keys : List String)
    : get? key (keys.filterMap fun name => (f name).map (name, ·))
      = if key ∈ keys then f key else none := by
  induction keys with
  | nil => rfl
  | cons name rest ih =>
      rw [List.filterMap_cons]
      cases made : f name with
      | none =>
          rw [Option.map_none, ih]
          by_cases same : key = name
          · subst same
            simp [made]
          · simp [same]
      | some value =>
          rw [Option.map_some]
          dsimp only
          rw [get?_cons, ih]
          by_cases same : name = key
          · subst same
            simp [made]
          · simp [same, Ne.symm same]

------------------------------------------------------------------------------------------
-- Sorting
------------------------------------------------------------------------------------------

/-- An entry that is put in is found under its key, and all others as before. -/
theorem get?_put (key other : String) (value : α) (entries : List (String × α))
    : get? other (put key value entries)
      = if key = other then some value else get? other entries := by
  induction entries with
  | nil => rfl
  | cons entry rest ih =>
      obtain ⟨name, kept⟩ := entry
      simp only [put]
      split
      · rfl
      · split
        · rename_i same
          subst same
          simp only [get?_cons]
          split <;> rfl
        · rename_i differ
          rw [get?_cons, ih, get?_cons]
          by_cases found : name = other
          · subst found
            simp [differ]
          · simp [found]

/-- What does not tell two values of a key apart does not tell which of them was put in. -/
theorem map_put_congr {f : String × α → β} {value other : α}
    (same : f (key, value) = f (key, other)) (entries : List (String × α))
    : (put key value entries).map f = (put key other entries).map f := by
  induction entries with
  | nil => simp [put, same]
  | cons entry rest ih =>
      obtain ⟨name, kept⟩ := entry
      simp only [put]
      split
      · simp [same]
      · split
        · simp [same]
        · rw [List.map_cons, ih, List.map_cons]

/-- Of several entries with one key, sorting keeps the last. -/
theorem get?_sort (key : String) (entries : List (String × α))
    : get? key (sort entries) = get? key entries.reverse := by
  suffices general : ∀ sorted,
      get? key (entries.foldl (fun sorted entry => put entry.1 entry.2 sorted) sorted)
        = (get? key entries.reverse).or (get? key sorted) from
    (general []).trans (Option.or_none)
  induction entries with
  | nil => exact fun _ => rfl
  | cons entry rest ih =>
      intro sorted
      rw [List.foldl_cons, ih, List.reverse_cons, get?_append, Option.or_assoc, get?_put]
      rw [show get? key [entry] = if entry.1 = key then some entry.2 else none from rfl]
      split <;> rfl

/-- Where no two entries have the same key, sorting keeps all. -/
theorem get?_sort_of_nodup (single : (entries.map Prod.fst).Nodup)
    : get? key (sort entries) = get? key entries := by
  have backwards : (entries.reverse.map Prod.fst).Nodup := by
    rw [List.map_reverse]
    exact List.nodup_reverse.mpr single
  ext value
  rw [get?_sort, get?_eq_some_iff backwards, get?_eq_some_iff single, List.mem_reverse]

theorem Ascending.nodup (ascending : Ascending entries) : (entries.map Prod.fst).Nodup := by
  refine List.pairwise_map.mpr (ascending.imp ?_)
  intro a b before same
  exact Text.Before.irrefl a.1 (same ▸ before)

theorem Ascending.filter (ascending : Ascending entries) (p : String × α → Bool)
    : Ascending (entries.filter p) :=
  List.Pairwise.filter p ascending

theorem Ascending.get?_tail {value : α} (ascending : Ascending ((key, value) :: entries))
    : get? key entries = none := by
  refine get?_eq_none_iff.mpr ?_
  intro entry member same
  exact Text.Before.irrefl key (same ▸ (List.pairwise_cons.mp ascending).1 entry member)

/-- No key before the first one is found in an ascending list. -/
theorem Ascending.get?_of_before {other : String} {value : α}
    (ascending : Ascending ((key, value) :: entries)) (before : Text.Before other key)
    : get? other ((key, value) :: entries) = none := by
  refine get?_eq_none_iff.mpr ?_
  intro entry member same
  rcases List.mem_cons.mp member with rfl | later
  · exact Text.Before.irrefl other (same ▸ before)
  · have after := before.trans ((List.pairwise_cons.mp ascending).1 entry later)
    exact Text.Before.irrefl other (same ▸ after)

/-- Ascending lists in which the same is found are the same, by induction on the first one. -/
theorem Ascending.ext {others : List (String × α)} (ascending : Ascending entries)
    (ascending' : Ascending others) (same : ∀ key, get? key entries = get? key others)
    : entries = others := by
  induction entries generalizing others with
  | nil =>
      cases others with
      | nil => rfl
      | cons entry rest => simpa [get?] using same entry.1
  | cons entry rest ih =>
      obtain ⟨key, value⟩ := entry
      cases others with
      | nil => simpa [get?] using same key
      | cons entry' rest' =>
          obtain ⟨key', value'⟩ := entry'
          have first : key = key' := by
            -- The lesser of two different first keys would be found in one of the lists only.
            by_contra differ
            by_cases before : Text.Before key key'
            · have found := same key
              rw [ascending'.get?_of_before before] at found
              simp [get?] at found
            · have found := same key'
              rw [ascending.get?_of_before (Text.Before.of_ne differ before)] at found
              simp [get?] at found
          subst first
          have head : value = value' := by simpa [get?] using same key
          subst head
          congr 1
          refine ih (List.pairwise_cons.mp ascending).2 (List.pairwise_cons.mp ascending').2 ?_
          intro other
          by_cases here : key = other
          · subst here
            rw [ascending.get?_tail, ascending'.get?_tail]
          · simpa [get?, here] using same other

end DiscordRest.Keyed
