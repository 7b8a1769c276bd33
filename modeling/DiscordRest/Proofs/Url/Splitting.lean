import DiscordRest.Url.Domain

/-!
Texts cut at separators. The cuts of this library are those of the standard one, so that what is
known of these holds of them.
-/

namespace DiscordRest.Url

/-- A text is cut where the standard library cuts it, by induction on the text. -/
theorem splitWhere_eq_splitOnP (p : Char → Bool) (text : List Char)
    : splitWhere p text = text.splitOnP p := by
  induction text with
  | nil => rfl
  | cons c rest ih =>
      rw [splitWhere, ih, List.splitOnP_cons_eq_if_modifyHead]
      obtain ⟨first, more, cut⟩ := List.exists_cons_of_ne_nil (List.splitOnP_ne_nil p rest)
      rw [cut]
      rfl

theorem splitWhere_ne_nil (p : Char → Bool) (text : List Char) : splitWhere p text ≠ [] := by
  rw [splitWhere_eq_splitOnP]
  exact List.splitOnP_ne_nil p text

theorem splitAt_ne_nil (separator : Char) (text : List Char) : splitAt separator text ≠ [] :=
  splitWhere_ne_nil _ text

/-- The parts of a text make it up again with the separator between them. -/
theorem intercalate_splitAt (separator : Char) (text : List Char)
    : [separator].intercalate (splitAt separator text) = text := by
  rw [splitAt, splitWhere_eq_splitOnP, ← List.splitOn_eq_splitOnP]
  exact List.intercalate_splitOn separator

/-- Joined texts are cut apart again where none of them has the separator. -/
theorem splitAt_intercalate {separator : Char} {parts : List (List Char)}
    (free : ∀ part ∈ parts, separator ∉ part) (nonempty : parts ≠ [])
    : splitAt separator ([separator].intercalate parts) = parts := by
  rw [splitAt, splitWhere_eq_splitOnP, ← List.splitOn_eq_splitOnP]
  exact List.splitOn_intercalate separator free nonempty

/-- A text without the separator is one part. -/
theorem splitAt_of_not_mem {separator : Char} {text : List Char} (free : separator ∉ text)
    : splitAt separator text = [text] := by
  have parts : splitAt separator ([separator].intercalate [text]) = [text] :=
    splitAt_intercalate (by simpa using free) (by simp)
  rwa [List.intercalate_singleton] at parts

/-- A part behind a separator comes behind the parts before it. -/
theorem splitAt_append_cons (separator : Char) (text rest : List Char)
    : splitAt separator (text ++ separator :: rest)
      = splitAt separator text ++ splitAt separator rest := by
  rw [splitAt, splitAt, splitAt, splitWhere_eq_splitOnP, splitWhere_eq_splitOnP,
    splitWhere_eq_splitOnP]
  exact List.splitOnP_append_cons _ _ (by simp)

/-- The pieces of a cut text have only its characters, and none where it is cut. -/
theorem mem_and_not_of_mem_splitWhere {p : Char → Bool} {text piece : List Char} {c : Char}
    (pieces : piece ∈ splitWhere p text) (member : c ∈ piece)
    : c ∈ text ∧ p c = false := by
  induction text generalizing piece with
  | nil =>
      rw [splitWhere, List.mem_singleton] at pieces
      rw [pieces] at member
      contradiction
  | cons first rest ih =>
      have behind : ∀ other ∈ splitWhere p rest, c ∈ other → c ∈ first :: rest ∧ p c = false :=
        fun other among inside => (ih among inside).imp_left (List.mem_cons_of_mem first)
      rw [splitWhere] at pieces
      split at pieces
      · rcases List.mem_cons.mp pieces with rfl | later
        · contradiction
        · exact behind piece later member
      · rename_i inside
        have kept : first ∈ first :: rest ∧ p first = false :=
          ⟨List.mem_cons_self, Bool.eq_false_iff.mpr inside⟩
        split at pieces
        · rw [List.mem_singleton.mp pieces, List.mem_singleton] at member
          rwa [member]
        · rename_i start more cut
          rw [cut] at behind
          rcases List.mem_cons.mp pieces with rfl | later
          · rcases List.mem_cons.mp member with rfl | later
            · exact kept
            · exact behind start List.mem_cons_self later
          · exact behind piece (List.mem_cons_of_mem start later) member

theorem mem_of_mem_splitWhere {p : Char → Bool} {text piece : List Char} {c : Char}
    (pieces : piece ∈ splitWhere p text) (member : c ∈ piece)
    : c ∈ text :=
  (mem_and_not_of_mem_splitWhere pieces member).1

theorem not_of_mem_splitWhere {p : Char → Bool} {text piece : List Char} {c : Char}
    (pieces : piece ∈ splitWhere p text) (member : c ∈ piece)
    : p c = false :=
  (mem_and_not_of_mem_splitWhere pieces member).2

/-- A text is cut alike by conditions that agree on its characters, by induction on it. -/
theorem splitWhere_congr {p q : Char → Bool} {text : List Char} (agree : ∀ c ∈ text, p c = q c)
    : splitWhere p text = splitWhere q text := by
  induction text with
  | nil => rfl
  | cons c rest ih =>
      have later := ih fun d member => agree d (List.mem_cons_of_mem c member)
      rw [splitWhere, splitWhere, later, agree c List.mem_cons_self]

/-- The characters of joined texts come from the texts or from the separator. -/
theorem mem_intercalate {separator : List Char} {parts : List (List Char)} {c : Char}
    (member : c ∈ separator.intercalate parts)
    : c ∈ separator ∨ ∃ part ∈ parts, c ∈ part := by
  induction parts with
  | nil => contradiction
  | cons part rest ih =>
      cases rest with
      | nil =>
          rw [List.intercalate_singleton] at member
          exact Or.inr ⟨part, List.mem_cons_self, member⟩
      | cons next more =>
          rw [List.intercalate_cons_cons] at member
          rcases List.mem_append.mp member with before | later
          · rcases List.mem_append.mp before with first | between
            · exact Or.inr ⟨part, List.mem_cons_self, first⟩
            · exact Or.inl between
          · rcases ih later with between | ⟨other, among, inside⟩
            · exact Or.inl between
            · exact Or.inr ⟨other, List.mem_cons_of_mem part among, inside⟩

end DiscordRest.Url
