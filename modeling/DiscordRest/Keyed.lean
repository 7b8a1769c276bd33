import DiscordRest.Text.Order

/-!
Keyed lists: entries in ascending order of their keys, every key once. Sorting a list of entries
keeps the last entry of each key, and leaves an ascending list alone.
-/

namespace DiscordRest.Keyed

variable {α : Type}

/-- Puts an entry into an ascending list, in place of one with the same key. -/
def put (key : String) (value : α) : List (String × α) → List (String × α)
  | [] => [(key, value)]
  | (other, kept) :: rest =>
    if Text.Before key other then (key, value) :: (other, kept) :: rest
    else if key = other then (key, value) :: rest
    else (other, kept) :: put key value rest

/-- The entries in ascending order of their keys, of each key the last one. -/
def sort (entries : List (String × α)) : List (String × α) :=
  entries.foldl (fun sorted entry => put entry.1 entry.2 sorted) []

/-- The value of a key, of several the first. -/
def get? (key : String) : List (String × α) → Option α
  | [] => none
  | (other, value) :: rest => if other = key then some value else get? key rest

/-- The keys of a list of entries ascend strictly. -/
def Ascending (entries : List (String × α)) : Prop :=
  entries.Pairwise fun a b => Text.Before a.1 b.1

/-- Putting an entry keeps the keys ascending, for every key has one place. -/
theorem ascending_put {entries : List (String × α)} (h : Ascending entries)
    (key : String) (value : α)
    : Ascending (put key value entries) := by
  have bound : ∀ (low : String) (rest : List (String × α)), Text.Before low key
      → (∀ entry ∈ rest, Text.Before low entry.1)
      → ∀ entry ∈ put key value rest, Text.Before low entry.1 := by
    intro low rest hlow hrest
    induction rest with
    | nil =>
      intro m hm
      exact (List.mem_singleton.1 hm) ▸ hlow
    | cons entry rest ih =>
      obtain ⟨other, kept⟩ := entry
      simp only [put]
      split
      · intro m hm
        rcases List.mem_cons.1 hm with rfl | hm
        · exact hlow
        · exact hrest m hm
      · split
        · intro m hm
          rcases List.mem_cons.1 hm with rfl | hm
          · exact hlow
          · exact hrest m (List.mem_cons_of_mem _ hm)
        · intro m hm
          rcases List.mem_cons.1 hm with rfl | hm
          · exact hrest _ List.mem_cons_self
          · exact ih (fun m hm => hrest m (List.mem_cons_of_mem _ hm)) m hm
  unfold Ascending at h ⊢
  induction entries with
  | nil => exact List.pairwise_singleton _ _
  | cons entry rest ih =>
    obtain ⟨other, kept⟩ := entry
    obtain ⟨hother, hrest⟩ := List.pairwise_cons.1 h
    simp only [put]
    split
    · rename_i hlt
      refine List.pairwise_cons.2 ⟨?_, h⟩
      intro m hm
      rcases List.mem_cons.1 hm with rfl | hm
      · exact hlt
      · exact hlt.trans (hother m hm)
    · split
      · rename_i heq
        subst heq
        exact List.pairwise_cons.2 ⟨hother, hrest⟩
      · rename_i hlt hne
        have hgt : Text.Before other key := Text.Before.of_ne hne hlt
        exact List.pairwise_cons.2 ⟨bound other rest hgt hother, ih hrest⟩

/-- The sorted entries of any list have ascending keys. -/
theorem ascending_sort (entries : List (String × α))
    : Ascending (sort entries) := by
  suffices h : ∀ sorted, Ascending sorted → Ascending
      (entries.foldl (fun sorted entry => put entry.1 entry.2 sorted) sorted) from
    h [] List.Pairwise.nil
  induction entries with
  | nil => exact fun _ h => h
  | cons entry rest ih => exact fun sorted h => ih _ (ascending_put h entry.1 entry.2)

/-- An entry above all others is put at the end. -/
theorem put_of_above {key : String} {entries : List (String × α)}
    (h : ∀ entry ∈ entries, Text.Before entry.1 key) (value : α)
    : put key value entries = entries ++ [(key, value)] := by
  induction entries with
  | nil => rfl
  | cons entry rest ih =>
    obtain ⟨other, kept⟩ := entry
    have hlt : Text.Before other key := h _ List.mem_cons_self
    have hnot : ¬ Text.Before key other := fun hgt => Text.Before.irrefl _ (hlt.trans hgt)
    have hne : key ≠ other := fun heq => Text.Before.irrefl _ (heq ▸ hlt)
    simp only [put, hnot, hne, if_false, List.cons_append]
    rw [ih fun m hm => h m (List.mem_cons_of_mem _ hm)]

/-- Entries with ascending keys are sorted already. -/
theorem sort_of_ascending {entries : List (String × α)} (h : Ascending entries)
    : sort entries = entries := by
  suffices hs : ∀ sorted, (∀ a ∈ sorted, ∀ b ∈ entries, Text.Before a.1 b.1)
      → entries.foldl (fun sorted entry => put entry.1 entry.2 sorted) sorted
        = sorted ++ entries from
    (hs [] (by simp)).trans (List.nil_append _)
  unfold Ascending at h
  induction entries with
  | nil => intro sorted _; simp
  | cons entry rest ih =>
    intro sorted hsorted
    obtain ⟨hentry, hrest⟩ := List.pairwise_cons.1 h
    rw [List.foldl_cons, put_of_above fun a ha => hsorted a ha entry List.mem_cons_self]
    rw [ih hrest]
    · simp
    · intro a ha b hb
      rcases List.mem_append.1 ha with ha | ha
      · exact hsorted a ha b (List.mem_cons_of_mem _ hb)
      · rw [List.mem_singleton.1 ha]
        exact hentry b hb

end DiscordRest.Keyed
