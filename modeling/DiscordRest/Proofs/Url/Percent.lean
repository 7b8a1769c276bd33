import DiscordRest.Url.Percent

/-!
Percent-encoded texts. What is encoded holds nothing that would be escaped, and such a text is
encoded as it stands.
-/

namespace DiscordRest.Url

/-- A character is written as the percent sign of its first byte, and those of further ones. -/
theorem exists_percentChar (c : Char)
    : ∃ byte more,
        Text.utf8Bytes [c] = byte :: more
        ∧ percentChar c
          = '%' :: Text.hexPair.upperHexDigit (byte.toNat / 16)
            :: Text.hexPair.upperHexDigit (byte.toNat % 16)
            :: more.flatMap fun b => '%' :: Text.hexPair b.toNat := by
  have counted := String.length_utf8EncodeChar c
  have positive := Char.utf8Size_pos c
  cases bytes : Text.utf8Bytes [c] with
  | cons byte more => exact ⟨byte, more, rfl, by rw [percentChar, bytes]; rfl⟩
  | nil =>
      rw [Text.utf8Bytes, List.flatMap_singleton] at bytes
      rw [bytes, List.length_nil] at counted
      omega

/-- A character is written as percent signs and hexadecimal digits. -/
theorem mem_percentChar {c d : Char} (member : d ∈ percentChar c)
    : d = '%' ∨ ∃ n < 16, d = Text.hexPair.upperHexDigit n := by
  obtain ⟨byte, _, written⟩ := List.mem_flatMap.mp member
  have bounded := byte.toNat_lt
  simp only [Text.hexPair, List.mem_cons, List.not_mem_nil, or_false] at written
  rcases written with rfl | rfl | rfl
  · exact Or.inl rfl
  · exact Or.inr ⟨byte.toNat / 16, by omega, rfl⟩
  · exact Or.inr ⟨byte.toNat % 16, by omega, rfl⟩

/-- Whether percent signs and hexadecimal digits stand for themselves. -/
def SparesMarks (escapes : Char → Bool) : Prop :=
  escapes '%' = false ∧ ∀ n < 16, escapes (Text.hexPair.upperHexDigit n) = false

/-- An encoded text holds nothing that would be escaped. -/
theorem escapes_of_mem_percentEncode {escapes : Char → Bool} (spares : SparesMarks escapes)
    {text : List Char} {c : Char} (member : c ∈ percentEncode escapes text)
    : escapes c = false := by
  obtain ⟨given, _, written⟩ := List.mem_flatMap.mp member
  split at written
  · rcases mem_percentChar written with rfl | ⟨n, below, rfl⟩
    · exact spares.1
    · exact spares.2 n below
  · rename_i plain
    rw [List.mem_singleton.mp written]
    exact Bool.eq_false_iff.mpr plain

/-- A text that holds nothing to escape is encoded as it stands. -/
theorem percentEncode_of_plain {escapes : Char → Bool} {text : List Char}
    (plain : ∀ c ∈ text, escapes c = false)
    : percentEncode escapes text = text := by
  induction text with
  | nil => rfl
  | cons c rest ih =>
      have later := ih fun d member => plain d (List.mem_cons_of_mem c member)
      rw [percentEncode] at later ⊢
      rw [List.flatMap_cons, later, plain c List.mem_cons_self]
      rfl

/-- The parts of users are encoded with percent signs that stand for themselves. -/
theorem sparesMarks_escapesUser : SparesMarks escapesUser := by
  unfold SparesMarks
  decide

/-- The segments of paths are, too. -/
theorem sparesMarks_escapesPath : SparesMarks escapesPath := by
  unfold SparesMarks
  decide

/-- The queries of special schemes are, too. -/
theorem sparesMarks_escapesSpecialQuery : SparesMarks escapesSpecialQuery := by
  unfold SparesMarks
  decide

/-- Fragments are, too. -/
theorem sparesMarks_escapesFragment : SparesMarks escapesFragment := by
  unfold SparesMarks
  decide

end DiscordRest.Url
