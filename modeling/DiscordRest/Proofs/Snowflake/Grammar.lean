import Mathlib.Data.List.DropRight
import DiscordRest.Proofs.Json.Snowflake

/-!
Which texts are snowflakes. Between blank characters stands a numeral below two to the power of 64,
with one plus sign before it or none; a JSON string holds the same without the blank characters.
-/

namespace DiscordRest

------------------------------------------------------------------------------------------
-- Trimming
------------------------------------------------------------------------------------------

namespace Text

/-- What is left of a text without the characters of some kind at its two ends. -/
structure IsTrim (p : Char → Bool) (text core : List Char) : Prop where
  /-- Only characters of the kind are cut off. -/
  cut
    : ∃ lead trail,
        text = lead ++ core ++ trail
        ∧ (∀ c ∈ lead, p c = true)
        ∧ ∀ c ∈ trail, p c = true
  /-- None of the kind is left at the front. -/
  first : ∀ c ∈ core.head?, p c = false
  /-- None of the kind is left at the end. -/
  last : ∀ c ∈ core.getLast?, p c = false

variable {p : Char → Bool} {text core : List Char}

theorem isTrim_trimWhile (p : Char → Bool) (text : List Char)
    : IsTrim p text (trimWhile p text) where
  cut := by
    refine ⟨text.takeWhile p, (text.dropWhile p).rtakeWhile p, ?_, ?_, ?_⟩
    · have back : trimWhile p text ++ (text.dropWhile p).rtakeWhile p = text.dropWhile p :=
        List.rdropWhile_append_rtakeWhile
      rw [List.append_assoc, back, List.takeWhile_append_dropWhile]
    · exact fun _ member => List.mem_takeWhile_imp member
    · exact fun _ member => List.mem_rtakeWhile_imp member
  first := by
    intro c found
    have kept : trimWhile p text <+: text.dropWhile p := List.rdropWhile_prefix p _
    obtain ⟨rest, whole⟩ := kept
    have front : (text.dropWhile p).head? = some c := by
      rw [← whole, List.head?_append, Option.mem_def.mp found]
      rfl
    have stopped := List.head?_dropWhile_not p text
    rwa [front] at stopped
  last := by
    intro c found
    obtain ⟨nonempty, rfl⟩ := List.mem_getLast?_eq_getLast found
    exact Bool.eq_false_iff.mpr (List.rdropWhile_last_not p _ nonempty)

/-- Characters of the kind at both ends of a text are all that trimming takes away. -/
theorem IsTrim.trimWhile_eq (trim : IsTrim p text core) : trimWhile p text = core := by
  obtain ⟨lead, trail, rfl, before, behind⟩ := trim.cut
  have front : (lead ++ core ++ trail).dropWhile p = (core ++ trail).dropWhile p := by
    rw [List.append_assoc, List.dropWhile_append_of_pos before]
  rw [trimWhile, front]
  cases core with
  | nil =>
      have nothing : trail.dropWhile p = [] := List.dropWhile_eq_nil_iff.mpr behind
      rw [List.nil_append, nothing]
      rfl
  | cons c rest =>
      have stays : (c :: rest ++ trail).dropWhile p = c :: rest ++ trail :=
        List.dropWhile_cons_of_neg (by simp [trim.first c rfl])
      have back : trail.reverse.dropWhile p = [] := by simpa using behind
      have whole : (c :: rest).rdropWhile p = c :: rest := by
        refine List.rdropWhile_eq_self_iff.mpr fun nonempty => ?_
        simp [trim.last _ (List.getLast?_eq_some_getLast nonempty)]
      rw [stays, dropEndWhile, List.reverse_append, List.dropWhile_append, back]
      exact whole

theorem trimWhile_eq_iff : trimWhile p text = core ↔ IsTrim p text core :=
  ⟨fun same => same ▸ isTrim_trimWhile p text, IsTrim.trimWhile_eq⟩

end Text

------------------------------------------------------------------------------------------
-- The grammar of snowflakes
------------------------------------------------------------------------------------------

namespace Snowflake

open Json

/-- A text is a numeral of a number, with any zeros in front, behind one plus sign or none. -/
def Spells (text : List Char) (n : Nat) : Prop :=
  ∃ digits, (text = digits ∨ text = '+' :: digits) ∧ Text.IsNumeral digits n

/-- What stands between the blank characters of a text spells a number. -/
def SpellsTrimmed (text : List Char) (n : Nat) : Prop :=
  ∃ core, Text.IsTrim Text.isBlank text core ∧ Spells core n

/-- The numbers below two to the power of 64 are those of the snowflakes. -/
theorem exists_toNat_eq_iff {n : Nat} {kept : Nat → Prop}
    : (∃ id : Snowflake, kept id.value.toNat ∧ id.value.toNat = n) ↔ n < twoTo 64 ∧ kept n := by
  constructor
  · rintro ⟨id, holds, rfl⟩
    exact ⟨id.value.toNat_lt, holds⟩
  · rintro ⟨fits, holds⟩
    have same : (UInt64.ofNat n).toNat = n := UInt64.toNat_ofNat_of_lt' fits
    exact ⟨⟨.ofNat n⟩, same.symm ▸ holds, same⟩

theorem spellsTrimmed_iff {text : List Char} {n : Nat}
    : SpellsTrimmed text n ↔ Spells (Text.trimBlank text) n := by
  constructor
  · rintro ⟨core, trim, spells⟩
    rwa [← trim.trimWhile_eq] at spells
  · exact fun spells => ⟨_, Text.isTrim_trimWhile Text.isBlank text, spells⟩

theorem parse?_eq_some_iff {text : String} {id : Snowflake}
    : parse? text = some id ↔ SpellsTrimmed text.toList id.value.toNat := by
  rw [parse?, ofText?_eq_some_iff, String.toList_ofList, spellsTrimmed_iff]
  rfl

theorem read_eq_ok_iff {text : String} {id : Snowflake}
    : read text = .ok id ↔ SpellsTrimmed text.toList id.value.toNat := by
  rw [← parse?_eq_some_iff, read]
  cases parse? text with
  | some found => simp
  | none => simp

/-- A text that is no snowflake is told as it stands, with its blank characters. -/
theorem read_eq_error_iff {text : String} {error : Error}
    : read text = .error error
      ↔ (∀ id, read text ≠ .ok id) ∧ error = .invalidSnowflake text := by
  unfold read
  cases parse? text with
  | some found => simp
  | none => simp [eq_comm]

theorem ofValue_string_eq_ok_iff {text : String} {id : Snowflake}
    : Codec.snowflake.ofValue (.string text) = .ok id ↔ Spells text.toList id.value.toNat :=
  Codec.ofValue_snowflake_string_eq_ok_iff.trans ofText?_eq_some_iff

/-- A JSON text that holds a string is read as this string is, by way of a value or not. -/
theorem ofText_eq_ok_iff_of_string {quoted text : String} {id : Snowflake}
    (held : Codec.value.ofText quoted = .ok (.string text))
    : (Codec.snowflake.ofText quoted = .ok id ↔ Codec.snowflake.ofValue (.string text) = .ok id)
      ∧ (Codec.snowflake.ofTextValue quoted = .ok id
        ↔ Codec.snowflake.ofValue (.string text) = .ok id) := by
  have byValue : Codec.snowflake.ofTextValue quoted = .ok id
      ↔ Codec.snowflake.ofValue (.string text) = .ok id := by
    rw [Codec.ofTextValue_eq_ok_iff, held]
    simp
  exact ⟨Codec.ofText_snowflake_eq_ok_iff.trans byValue, byValue⟩

/--
A text is read as the snowflake of a number exactly where this number fits into 64 bits and is
spelled between the blank characters of the text; every other text is refused as it stands. A JSON
string, as a value or in a text, is read where it spells the number itself. So a text is read where
the string without its blank characters is, and as the same snowflake.
-/
theorem read_iff_spells (text : String)
    : (∀ n,
        (∃ id, read text = .ok id ∧ id.value.toNat = n)
        ↔ n < twoTo 64 ∧ SpellsTrimmed text.toList n)
      ∧ ((∀ n, SpellsTrimmed text.toList n → twoTo 64 ≤ n)
        ↔ read text = .error (.invalidSnowflake text))
      ∧ (∀ n,
        (∃ id, Codec.snowflake.ofValue (.string text) = .ok id ∧ id.value.toNat = n)
        ↔ n < twoTo 64 ∧ Spells text.toList n)
      ∧ (∀ quoted id,
        Codec.value.ofText quoted = .ok (.string text)
        → (Codec.snowflake.ofText quoted = .ok id
            ↔ Codec.snowflake.ofValue (.string text) = .ok id)
          ∧ (Codec.snowflake.ofTextValue quoted = .ok id
            ↔ Codec.snowflake.ofValue (.string text) = .ok id))
      ∧ ∀ (core : String) id,
        Text.IsTrim Text.isBlank text.toList core.toList
        → (read text = .ok id ↔ Codec.snowflake.ofValue (.string core) = .ok id) := by
  refine ⟨?_, ?_, ?_, ?_, ?_⟩
  · intro n
    simp only [read_eq_ok_iff]
    exact exists_toNat_eq_iff
  · rw [read_eq_error_iff]
    simp only [and_true, ne_eq, read_eq_ok_iff]
    constructor
    · intro great id spells
      exact Nat.not_lt.mpr (great _ spells) id.value.toNat_lt
    · intro refused n spells
      refine Nat.not_lt.mp fun fits => ?_
      obtain ⟨id, found, -⟩ := exists_toNat_eq_iff.mpr ⟨fits, spells⟩
      exact refused id found
  · intro n
    simp only [ofValue_string_eq_ok_iff]
    exact exists_toNat_eq_iff
  · exact fun quoted id held => ofText_eq_ok_iff_of_string held
  · intro core id trim
    rw [read_eq_ok_iff, spellsTrimmed_iff, Text.trimBlank, trim.trimWhile_eq,
      ofValue_string_eq_ok_iff]

/--
A numeral with a plus sign and zeros is read between an em space and a line feed; as a JSON string
it is read without them only.
-/
theorem read_iff_spells_of_padded
    : let padded := "\u2003+007\n"
      Text.IsTrim Text.isBlank padded.toList "+007".toList
      ∧ read padded = .ok ⟨7⟩
      ∧ Codec.snowflake.ofText "\x22+007\x22" = .ok ⟨7⟩
      ∧ Codec.snowflake.ofValue (.string padded) ≠ .ok ⟨7⟩ := by
  intro padded
  have trim : Text.IsTrim Text.isBlank padded.toList "+007".toList :=
    Text.trimWhile_eq_iff.mp (by decide)
  have quoted : Codec.value.ofText "\x22+007\x22" = .ok (.string "+007") := by rfl
  have bare : Codec.snowflake.ofValue (.string "+007") = .ok ⟨7⟩ := by rfl
  obtain ⟨-, -, -, -, trimmed⟩ := read_iff_spells padded
  obtain ⟨-, -, -, texts, -⟩ := read_iff_spells "+007"
  exact ⟨trim, (trimmed "+007" ⟨7⟩ trim).mpr bare, (texts _ ⟨7⟩ quoted).1.mpr bare, by decide⟩

end Snowflake

end DiscordRest
