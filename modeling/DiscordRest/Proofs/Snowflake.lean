import DiscordRest.Snowflake
import DiscordRest.Proofs.Text.Numeral

/-!
Snowflakes and their numerals. A snowflake is read from all numerals of its value, and its own text
is the shortest of them.
-/

namespace DiscordRest

theorem Text.trimWhile_of_forall {p : Char → Bool} {text : List Char}
    (none : ∀ c ∈ text, p c = false)
    : trimWhile p text = text := by
  have kept : ∀ list : List Char, (∀ c ∈ list, p c = false) → list.dropWhile p = list := by
    intro list stops
    cases list with
    | nil => rfl
    | cons c rest => exact List.dropWhile_cons_of_neg (by simp [stops c List.mem_cons_self])
  rw [trimWhile, dropEndWhile, kept text none, kept, List.reverse_reverse]
  exact fun c member => none c (List.mem_reverse.mp member)

namespace Snowflake

theorem toList_text (id : Snowflake) : id.text.toList = Nat.toDigits 10 id.value.toNat :=
  String.toList_ofList

theorem head?_toList_text {id : Snowflake} (zero : id.text.toList.head? = some '0')
    : id.text = "0" := by
  have none : id.value.toNat = 0 := by
    refine Nat.eq_zero_of_not_pos fun positive => ?_
    rw [toList_text] at zero
    exact Text.head?_toDigits_ne_zero (by decide) (by decide) positive zero
  rw [text, none]
  rfl

theorem le_iff_toNat_le {a b : Snowflake} : a ≤ b ↔ a.value.toNat ≤ b.value.toNat :=
  UInt64.le_iff_toNat_le

theorem lt_iff_toNat_lt {a b : Snowflake} : a < b ↔ a.value.toNat < b.value.toNat :=
  UInt64.lt_iff_toNat_lt

theorem toNat_le_greatestWord (id : Snowflake) : id.value.toNat ≤ greatestWord := by
  have below := id.value.toNat_lt
  unfold greatestWord
  omega

/-- A snowflake is read from its numerals, with one plus sign before them or none. -/
theorem ofText?_eq_some_iff {text : String} {id : Snowflake}
    : ofText? text = some id
      ↔ ∃ digits,
          (text.toList = digits ∨ text.toList = '+' :: digits)
          ∧ Text.IsNumeral digits id.value.toNat := by
  constructor
  · intro read
    unfold ofText? at read
    split at read
    · rename_i value found
      obtain rfl := Option.some.inj read
      obtain ⟨digits, shape, numeral, fits⟩ := Text.readUnsigned_eq_ok_iff.mp found
      refine ⟨digits, shape, ?_⟩
      rwa [UInt64.toNat_ofNat_of_lt' (Nat.lt_succ_of_le fits)]
    · cases read
  · rintro ⟨digits, shape, numeral⟩
    have read : Text.readUnsigned 10 greatestWord text.toList = .ok id.value.toNat :=
      Text.readUnsigned_eq_ok_iff.mpr ⟨digits, shape, numeral, id.toNat_le_greatestWord⟩
    simp only [ofText?, read]
    exact congrArg some (congrArg mk UInt64.ofNat_toNat)

/-- The text of a snowflake is read as this snowflake. -/
theorem ofText?_text (id : Snowflake) : ofText? id.text = some id :=
  ofText?_eq_some_iff.mpr ⟨_, Or.inl rfl, id.toList_text ▸ Text.isNumeral_toDigits _⟩

theorem parse?_text (id : Snowflake) : parse? id.text = some id := by
  have visible : ∀ n < 10, Text.isBlank (Nat.digitChar n) = false := by decide
  have kept : Text.trimBlank id.text.toList = id.text.toList := by
    refine Text.trimWhile_of_forall fun c member => ?_
    rw [toList_text] at member
    obtain ⟨digit, below, rfl⟩ := Text.mem_toDigits (by decide) member
    exact visible digit below
  rw [parse?, kept, String.ofList_toList, ofText?_text]

end Snowflake

end DiscordRest
