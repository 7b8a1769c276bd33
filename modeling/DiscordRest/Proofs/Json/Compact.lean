import DiscordRest.Json.Value
import DiscordRest.Proofs.Text.Numeral

/-!
Compact texts are single lines. A quoted text escapes its control characters, and all other parts of
a compact text are words, numerals and marks; so no control character stands in it.
-/

namespace DiscordRest

------------------------------------------------------------------------------------------
-- Texts without control characters
------------------------------------------------------------------------------------------

namespace Text

/-- No control character stands in a text. -/
def NoControls (text : List Char) : Prop :=
  ∀ c ∈ text, 32 ≤ c.toNat

@[simp]
theorem noControls_nil : NoControls [] :=
  fun _ => nofun

@[simp]
theorem noControls_cons {c : Char} {rest : List Char}
    : NoControls (c :: rest) ↔ 32 ≤ c.toNat ∧ NoControls rest :=
  List.forall_mem_cons

@[simp]
theorem noControls_append {first rest : List Char}
    : NoControls (first ++ rest) ↔ NoControls first ∧ NoControls rest :=
  List.forall_mem_append

theorem NoControls.of_subset {text part : List Char} (clean : NoControls text)
    (inside : part ⊆ text)
    : NoControls part :=
  fun c member => clean c (inside member)

theorem NoControls.not_mem_lineFeed {text : List Char} (clean : NoControls text) : '\n' ∉ text :=
  fun member => absurd (clean _ member) (by decide)

theorem noControls_toDigits {base : Nat} (two : 1 < base) (small : base ≤ 16) (n : Nat)
    : NoControls (Nat.toDigits base n) := by
  have digits : ∀ digit < 16, decide (32 ≤ (Nat.digitChar digit).toNat) = true := by decide
  intro c member
  have clean := forall_mem_toDigits (p := fun c => decide (32 ≤ c.toNat)) two small digits member
  exact of_decide_eq_true clean

theorem noControls_decimal (n : Nat) : NoControls (decimal n).toList := by
  rw [decimal, String.toList_ofList]
  exact noControls_toDigits (by decide) (by decide) n

theorem noControls_decimalInt (n : Int) : NoControls (decimalInt n).toList := by
  unfold decimalInt
  split
  · rw [String.toList_append, noControls_append]
    exact ⟨by simp, noControls_decimal _⟩
  · exact noControls_decimal _

end Text

open Text

------------------------------------------------------------------------------------------
-- Numbers
------------------------------------------------------------------------------------------

theorem Binary64.noControls_decimalOf (digits : Nat) (power : Int)
    : NoControls (decimalOf digits power).digits := by
  refine (noControls_toDigits (by decide : 1 < 10) (by decide) digits).of_subset ?_
  intro c member
  exact List.mem_reverse.mp ((List.dropWhile_sublist _).subset (List.mem_reverse.mp member))

/-- Every decimal that the search for the shortest one ends at is made of digits. -/
theorem Binary64.Interval.noControls_shortest (i : Interval) (point : Int) (count steps : Nat)
    : NoControls (i.shortest point count steps).digits := by
  induction steps generalizing count with
  | zero => exact noControls_decimalOf _ _
  | succ steps ih =>
      simp only [Interval.shortest]
      split
      · split
        · exact noControls_decimalOf _ _
        · split <;> exact noControls_decimalOf _ _
      · exact noControls_decimalOf _ _
      · exact noControls_decimalOf _ _
      · exact ih (count + 1)

theorem Text.noControls_replicate_zero (count : Nat) : NoControls (List.replicate count '0') := by
  intro c member
  rw [(List.mem_replicate.mp member).2]
  decide

theorem Decimal.noControls_positional {d : Decimal} (clean : NoControls d.digits)
    : NoControls d.positional.toList := by
  have before := clean.of_subset (List.take_subset d.point.toNat d.digits)
  have after := clean.of_subset (List.drop_subset d.point.toNat d.digits)
  unfold Decimal.positional
  dsimp only
  split
  · simp [clean, noControls_replicate_zero]
  · split <;> simp [before, after, noControls_replicate_zero]

namespace Json

theorem Number.noControls_realText (x : Binary64) : NoControls (realText x).toList := by
  have digits : NoControls x.shortest.digits :=
    Binary64.Interval.noControls_shortest _ _ _ _
  have sign : NoControls (if x.negative then "-" else "").toList := by split <;> simp
  unfold realText
  dsimp only
  split
  · simp [sign]
  · split
    · simp [sign, Decimal.noControls_positional digits]
    · simp only [String.toList_append, String.toList_ofList, noControls_append]
      refine ⟨⟨⟨sign, ?_⟩, by split <;> simp⟩, noControls_decimal _⟩
      split
      · simp
      · rename_i only same
        rwa [same] at digits
      · rename_i first more _ same
        rw [same, noControls_cons] at digits
        simp [digits.1, digits.2]

theorem Number.noControls_text (number : Number) : NoControls number.text.toList := by
  cases number with
  | integer value _ => exact noControls_decimalInt value
  | real value => exact noControls_realText value

------------------------------------------------------------------------------------------
-- Quoted texts
------------------------------------------------------------------------------------------

theorem noControls_escapeChar (c : Char) : NoControls (escapeChar c) := by
  unfold escapeChar
  iterate 7
    split
    · simp
  split
  · have digits := noControls_toDigits (by decide : 1 < 16) (by decide) c.toNat
    unfold controlDigits hexadecimal
    split <;> simp [digits]
  · simpa using Nat.not_lt.mp ‹_›

theorem noControls_quoteText (text : String) : NoControls (quoteText text) := by
  have inside : NoControls (text.toList.flatMap escapeChar) := by
    intro c member
    obtain ⟨written, _, escaped⟩ := List.mem_flatMap.mp member
    exact noControls_escapeChar written c escaped
  simp [quoteText, inside]

------------------------------------------------------------------------------------------
-- Values
------------------------------------------------------------------------------------------

namespace Value

mutual

/-- No control character stands in the compact text of a value, by induction on the value. -/
theorem noControls_chars : (value : Value) → NoControls value.chars
  | null => by simp [chars]
  | boolean true => by simp [chars]
  | boolean false => by simp [chars]
  | number value => value.noControls_text
  | string value => noControls_quoteText value
  | array items => by simp [chars, noControls_itemsChars true items]
  | object members => by simp [chars, noControls_membersChars true members]

theorem noControls_itemsChars (first : Bool)
    : (items : List Value) → NoControls (chars.itemsChars first items)
  | [] => by simp [chars.itemsChars]
  | item :: rest => by
    cases first <;>
      simp [chars.itemsChars, noControls_chars item, noControls_itemsChars false rest]

theorem noControls_membersChars (first : Bool)
    : (members : List (String × Value)) → NoControls (chars.membersChars first members)
  | [] => by simp [chars.membersChars]
  | (key, value) :: rest => by
    cases first <;>
      simp [chars.membersChars, noControls_quoteText key, noControls_chars value,
        noControls_membersChars false rest]

end

end Value

end Json

end DiscordRest
