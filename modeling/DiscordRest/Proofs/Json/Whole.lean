import DiscordRest.Json.Codec

/-!
Lists are read as a whole or not at all: one item that is not valid makes the reading of the list
fail, and no item is left out.
-/

namespace DiscordRest.Json.Codec

variable {α : Type}

/-- The items of a drafted array are read where each of them is, by induction on the items. -/
theorem draftsOf_eq_ok_iff {codec : Codec α} {depth : Nat} {items : List Draft} {values : List α}
    : draftsOf codec depth items = .ok values
      ↔ items.map (codec.ofDraft depth) = values.map Except.ok := by
  induction items generalizing values with
  | nil => simp [draftsOf, eq_comm]
  | cons item rest ih =>
      rw [draftsOf]
      cases read : codec.ofDraft depth item with
      | error fault =>
          constructor
          · intro impossible
            contradiction
          · intro same
            cases values with
            | nil => contradiction
            | cons value values =>
                rw [List.map_cons, List.map_cons, read] at same
                cases (List.cons.inj same).1
      | ok value =>
          dsimp only
          constructor
          · intro mapped
            cases others : draftsOf codec depth rest with
            | error fault =>
                rw [others] at mapped
                contradiction
            | ok later =>
                rw [others] at mapped
                obtain rfl := Except.ok.inj mapped
                rw [List.map_cons, List.map_cons, read, ih.mp others]
          · intro same
            cases values with
            | nil => contradiction
            | cons first later =>
                rw [List.map_cons, List.map_cons, read] at same
                obtain ⟨head, tail⟩ := List.cons.inj same
                rw [ih.mpr tail, Except.ok.inj head]
                rfl

/-- A text is read as what its draft is, if nothing but blanks follows. -/
theorem ofText_eq_ok_iff {codec : Codec α} {text : String} {value : α}
    : codec.ofText text = .ok value
      ↔ codec.ofDraft Draft.depthLimit (Draft.ofText codec.keeps text.toList) = .ok value
        ∧ ∃ after,
            (Draft.ofText codec.keeps text.toList).finish = .ok after
            ∧ Draft.checkEnd after = .ok () := by
  simp only [ofText]
  cases codec.ofDraft Draft.depthLimit (Draft.ofText codec.keeps text.toList) with
  | error fault => simp
  | ok found =>
      dsimp only
      cases (Draft.ofText codec.keeps text.toList).finish with
      | error fault => simp
      | ok after =>
          cases rest : Draft.checkEnd after with
          | error fault => simp [Except.map, rest]
          | ok nothing => simp [Except.map, rest]

/--
A text is read as a list exactly where it is an array with nothing behind it and each of its items
is read: the list has all of them in order.
-/
theorem ofText_list_eq_ok_iff {codec : Codec α} {text : String} {values : List α}
    : (list codec).ofText text = .ok values
      ↔ ∃ start items after,
          Draft.ofText keepsAll text.toList = .array start items (.ok after)
          ∧ Draft.checkEnd after = .ok ()
          ∧ items.map (codec.ofDraft (Draft.depthLimit - 1)) = values.map Except.ok := by
  have deep : ¬Draft.depthLimit ≤ 1 := by decide
  rw [ofText_eq_ok_iff, show (list codec).keeps = keepsAll from rfl]
  constructor
  · rintro ⟨read, after, finish, ending⟩
    generalize Draft.ofText keepsAll text.toList = draft at read finish
    cases draft with
    | array start items finished =>
        obtain rfl : finished = .ok after := finish
        simp only [list, if_neg deep] at read
        cases drafts : draftsOf codec (Draft.depthLimit - 1) items with
        | error fault =>
            rw [drafts] at read
            contradiction
        | ok found =>
            rw [drafts] at read
            obtain rfl := Except.ok.inj read
            exact ⟨start, items, after, rfl, ending, draftsOf_eq_ok_iff.mp drafts⟩
    -- No other draft is read as a list.
    | null _ => cases read
    | boolean _ _ => cases read
    | number value _ => cases value <;> cases read
    | string _ _ => cases read
    | object _ _ _ => cases read
    | skipped _ => cases read
    | faulty _ => cases read
  · rintro ⟨start, items, after, draft, ending, drafts⟩
    rw [draft]
    refine ⟨?_, after, rfl, ending⟩
    simp only [list, if_neg deep, draftsOf_eq_ok_iff.mpr drafts]
    rfl

end DiscordRest.Json.Codec
