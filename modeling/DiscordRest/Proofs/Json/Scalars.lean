import DiscordRest.Json.Reader.Draft
import DiscordRest.Proofs.Text.Numeral

/-!
Quoted texts and integers are read back from their compact text. A reader is told of the text that
follows only so much that it knows where to stop: a quoted text ends at its quote, and an integer
before any character that could not continue it.
-/

namespace DiscordRest.Json.Reader

------------------------------------------------------------------------------------------
-- Quoted texts
------------------------------------------------------------------------------------------

/-- The four digits that stand for a control character are read as its code point. -/
theorem hexUnit?_controlDigits {code : Nat} (control : code < 32)
    : ∃ a b c d,
        controlDigits (Char.ofNat code) = [a, b, c, d] ∧ hexUnit? a b c d = some code := by
  have all : ∀ n < 32,
      controlDigits (Char.ofNat n) = ['0', '0', Nat.digitChar (n / 16), Nat.digitChar (n % 16)]
      ∧ hexUnit? '0' '0' (Nat.digitChar (n / 16)) (Nat.digitChar (n % 16)) = some n := by
    decide
  exact ⟨_, _, _, _, all code control⟩

/-- What is written for a character inside quotes is read as this character. -/
theorem readString_escapeChar (c : Char) (rest : List Char)
    : readString (escapeChar c ++ rest) = consChar c (readString rest) := by
  unfold escapeChar
  -- Seven characters have an escape of a single letter or mark.
  iterate 7
    split
    · subst c
      simp [readString, simpleEscape?]
  split
  · rename_i control
    obtain ⟨a, b, d, e, digits, unit⟩ := hexUnit?_controlDigits control
    rw [Char.ofNat_toNat] at digits
    have leading : isLeading c.toNat = false := by
      simp only [isLeading, Bool.and_eq_false_iff, decide_eq_false_iff_not]
      omega
    have trailing : isTrailing c.toNat = false := by
      simp only [isTrailing, Bool.and_eq_false_iff, decide_eq_false_iff_not]
      omega
    simp [digits, readString, unit, leading, trailing]
  · rename_i quote backslash _ _ _ _ _ visible
    simp [readString, quote, backslash, visible]

/-- A quoted text is read back up to its quote, by induction on the text. -/
theorem readString_flatMap_escapeChar (text rest : List Char)
    : readString (text.flatMap escapeChar ++ '\x22' :: rest) = .ok (text, rest) := by
  induction text with
  | nil => simp [readString]
  | cons c text ih =>
      rw [List.flatMap_cons, List.append_assoc, readString_escapeChar, ih]
      rfl

/-- A quoted text is read back behind its first quote. -/
theorem exists_quoteText_eq_cons (text : String) (rest : List Char)
    : ∃ inside,
        quoteText text ++ rest = '\x22' :: inside
        ∧ readString inside = .ok (text.toList, rest) := by
  refine ⟨text.toList.flatMap escapeChar ++ '\x22' :: rest, ?_, ?_⟩
  · simp [quoteText]
  · exact readString_flatMap_escapeChar text.toList rest

------------------------------------------------------------------------------------------
-- Integers
------------------------------------------------------------------------------------------

/-- Nothing at the start of a text could continue an integer. -/
structure EndsInteger (rest : List Char) : Prop where
  digit : startsWithDigit rest = false
  exponent : startsWithExponent rest = false
  point : rest.head? ≠ some '.'

theorem EndsInteger.nil : EndsInteger [] :=
  ⟨rfl, rfl, nofun⟩

/-- Digits are taken as the number that they make, if this fits into 64 bits. -/
theorem takeDigits_append {value n : Nat} {digits rest : List Char}
    (all : ∀ c ∈ digits, Text.isDigit c = true)
    (read : Text.readDigitsFrom 10 value digits = some n) (fits : n ≤ greatestWord)
    (ends : startsWithDigit rest = false) (taken : Nat)
    : takeDigits value taken (digits ++ rest) = (n, taken + digits.length, rest) := by
  induction digits generalizing value taken with
  | nil =>
      obtain rfl := Option.some.inj read
      cases rest with
      | nil => rfl
      | cons c rest =>
          have stop : Text.isDigit c = false := ends
          simp [takeDigits, stop]
  | cons c digits ih =>
      have digit := all c List.mem_cons_self
      rw [Text.readDigitsFrom, Text.digitOf?_of_isDigit digit] at read
      have bound : value * 10 + (c.toNat - 48) ≤ greatestWord :=
        Nat.le_trans (Text.le_of_readDigitsFrom (by decide) read) fits
      have later := ih (fun d member => all d (List.mem_cons_of_mem c member)) read (taken + 1)
      rw [List.cons_append, takeDigits, if_pos (by simp [digit, bound]), later, List.length_cons]
      congr 2
      omega

theorem readTail_of_endsInteger {rest : List Char} (ends : EndsInteger rest) (negative : Bool)
    (significand : Nat)
    : readTail negative significand rest = .ok (wholeNumber negative significand, rest) := by
  unfold readTail
  split
  · rename_i rest
    exact absurd rfl ends.point
  · rw [if_neg (Bool.eq_false_iff.mp ends.exponent)]

/-- The numeral of an integer of 64 bits is read back behind its sign. -/
theorem readNumber_toDigits {n : Nat} (fits : n ≤ greatestWord) {rest : List Char}
    (ends : EndsInteger rest) (negative : Bool)
    : readNumber negative (Nat.toDigits 10 n ++ rest) = .ok (wholeNumber negative n, rest) := by
  have read := Text.readDigitsFrom_toDigits (by decide : 1 < 10) (by decide) n
  have all : ∀ c ∈ Nat.toDigits 10 n, Text.isDigit c = true :=
    fun c member => Text.isDigit_of_mem_toDigits member
  obtain ⟨c, more, digits⟩ := List.exists_cons_of_ne_nil (Nat.toDigits_ne_nil (n := n) (b := 10))
  rw [digits] at read all ⊢
  have first := all c List.mem_cons_self
  have value : Text.readDigitsFrom 10 (c.toNat - 48) more = some n := by
    rw [Text.readDigitsFrom, Text.digitOf?_of_isDigit first] at read
    simpa using read
  have taken := takeDigits_append (fun d member => all d (List.mem_cons_of_mem c member)) value
    fits ends.digit 0
  rw [List.cons_append]
  unfold readNumber
  split
  · rename_i none
    cases none
  · -- A numeral that starts with a zero is that of zero.
    rename_i after same
    obtain ⟨rfl, rfl⟩ := List.cons.inj same
    obtain rfl : n = 0 := by
      refine Nat.eq_zero_of_not_pos fun positive => ?_
      have head := Text.head?_toDigits_ne_zero (by decide : 1 < 10) (by decide) positive
      rw [digits] at head
      exact head rfl
    obtain rfl : more = [] := (List.cons.inj digits.symm).2
    rw [List.nil_append, if_neg (Bool.eq_false_iff.mp ends.digit)]
    exact readTail_of_endsInteger ends negative 0
  · rename_i other same
    obtain ⟨rfl, rfl⟩ := List.cons.inj same
    rw [if_pos first, taken]
    simp only [ends.digit]
    exact readTail_of_endsInteger ends negative n

/-- A number that is written without a fraction is an integer, in 64 bits with or without sign. -/
theorem wholeNumber_natAbs {value : Int} (bounds : leastInteger ≤ value ∧ value ≤ greatestInteger)
    : wholeNumber (decide (value < 0)) value.natAbs = .integer value bounds := by
  have same : (if decide (value < 0) = true then -(value.natAbs : Int) else value.natAbs)
      = value := by
    split <;> rename_i sign <;> simp only [decide_eq_true_eq] at sign <;> omega
  have sign : (decide (value < 0) && value.natAbs == 0) = false := by
    simp only [Bool.and_eq_false_iff, decide_eq_false_iff_not, beq_eq_false_iff_ne]
    omega
  simp only [wholeNumber, same, sign, Number.ofInt?, dif_pos bounds]
  rfl

end DiscordRest.Json.Reader
