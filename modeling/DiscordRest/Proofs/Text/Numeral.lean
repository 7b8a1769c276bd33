import DiscordRest.Text.Numeral

/-!
Numerals are read back as the numbers that they were written for, in every base up to sixteen.
-/

namespace DiscordRest.Text

------------------------------------------------------------------------------------------
-- Digits
------------------------------------------------------------------------------------------

theorem digitOf?_digitChar {base digit : Nat} (small : base ≤ 16) (below : digit < base)
    : digitOf? base digit.digitChar = some digit := by
  have value : ∀ n < 16, digitValue? (Nat.digitChar n) = some n := by decide
  simp only [digitOf?, value digit (Nat.lt_of_lt_of_le below small), below, if_true]

/-- A decimal digit is read by its code point. -/
theorem digitOf?_of_isDigit {c : Char} (digit : isDigit c = true)
    : digitOf? 10 c = some (c.toNat - 48) := by
  have range : '0' ≤ c ∧ c ≤ '9' := by simpa [isDigit] using digit
  have below : c.toNat ≤ 57 := UInt32.le_iff_toNat_le.mp range.2
  have value : digitValue? c = some (c.toNat - 48) := if_pos digit
  simp only [digitOf?, value, if_pos (by omega : c.toNat - 48 < 10)]

theorem isDigit_eq (c : Char) : c.isDigit = isDigit c := by rfl

/-- What is read as a decimal digit is one: the letters have greater values. -/
theorem isDigit_of_digitOf? {c : Char} {digit : Nat} (read : digitOf? 10 c = some digit)
    : isDigit c = true := by
  refine Decidable.byContradiction fun letter => ?_
  have lower : 'a' ≤ c → 97 ≤ c.toNat := fun above => UInt32.le_iff_toNat_le.mp above
  have upper : 'A' ≤ c → 65 ≤ c.toNat := fun above => UInt32.le_iff_toNat_le.mp above
  unfold isDigit at letter
  simp only [digitOf?, digitValue?, if_neg letter] at read
  grind

/-- The characters of a numeral are digits below the base, by induction from its end. -/
theorem mem_toDigits {base : Nat} (two : 1 < base) {c : Char} {n : Nat}
    (member : c ∈ Nat.toDigits base n)
    : ∃ digit < base, c = digit.digitChar := by
  induction n using Nat.strongRecOn with
  | ind n ih =>
      rw [Nat.toDigits_eq_if two] at member
      split at member
      · rename_i below
        exact ⟨n, below, List.mem_singleton.mp member⟩
      · rename_i notBelow
        rcases List.mem_append.mp member with earlier | last
        · exact ih (n / base) (Nat.div_lt_self (by omega) two) earlier
        · exact ⟨n % base, Nat.mod_lt n (by omega), List.mem_singleton.mp last⟩

/-- What holds of all digits below sixteen holds of all characters of a numeral. -/
theorem forall_mem_toDigits {base : Nat} (two : 1 < base) (small : base ≤ 16)
    {p : Char → Bool} (digits : ∀ digit < 16, p (Nat.digitChar digit) = true) {n : Nat} {c : Char}
    (member : c ∈ Nat.toDigits base n)
    : p c = true := by
  obtain ⟨digit, below, rfl⟩ := mem_toDigits two member
  exact digits digit (Nat.lt_of_lt_of_le below small)

theorem isDigit_of_mem_toDigits {n : Nat} {c : Char} (member : c ∈ Nat.toDigits 10 n)
    : isDigit c = true := by
  obtain ⟨digit, below, rfl⟩ := mem_toDigits (by decide) member
  have all : ∀ n < 10, isDigit (Nat.digitChar n) = true := by decide
  exact all digit below

/-- A numeral of more than one digit does not start with a zero, by induction from its end. -/
theorem head?_toDigits_ne_zero {base : Nat} (two : 1 < base) (small : base ≤ 16) {n : Nat}
    (positive : 0 < n)
    : (Nat.toDigits base n).head? ≠ some '0' := by
  induction n using Nat.strongRecOn with
  | ind n ih =>
      rw [Nat.toDigits_eq_if two]
      split
      · rename_i below
        have nonzero : ∀ n < 16, 0 < n → [Nat.digitChar n].head? ≠ some '0' := by decide
        exact nonzero n (by omega) positive
      · rename_i notBelow
        have first := ih (n / base) (Nat.div_lt_self positive two)
          (Nat.div_pos (by omega) (by omega))
        obtain ⟨c, rest, digits⟩ := List.exists_cons_of_ne_nil (Nat.toDigits_ne_nil (n := n / base))
        rw [digits] at first ⊢
        exact first

------------------------------------------------------------------------------------------
-- Reading
------------------------------------------------------------------------------------------

/-- A numeral is read piece after piece. -/
theorem readDigitsFrom_append (base value : Nat) (first rest : List Char)
    : readDigitsFrom base value (first ++ rest)
      = (readDigitsFrom base value first).bind fun value => readDigitsFrom base value rest := by
  induction first generalizing value with
  | nil => rfl
  | cons c first ih =>
      simp only [List.cons_append, readDigitsFrom]
      cases digitOf? base c with
      | none => rfl
      | some digit => exact ih (value * base + digit)

/-- A numeral is read as the number that it was written for, by induction from its end. -/
theorem readDigitsFrom_toDigits {base : Nat} (two : 1 < base) (small : base ≤ 16) (n : Nat)
    : readDigitsFrom base 0 (Nat.toDigits base n) = some n := by
  induction n using Nat.strongRecOn with
  | ind n ih =>
      rw [Nat.toDigits_eq_if two]
      split
      · rename_i below
        simp only [readDigitsFrom, digitOf?_digitChar small below, Nat.zero_mul, Nat.zero_add]
      · rename_i notBelow
        have last := digitOf?_digitChar small (Nat.mod_lt n (by omega : 0 < base))
        rw [readDigitsFrom_append, ih (n / base) (Nat.div_lt_self (by omega) two)]
        simp only [Option.bind_some, readDigitsFrom, last]
        rw [Nat.mul_comm, Nat.div_add_mod]

/-- A numeral, which has a digit, is read as the number that it was written for. -/
theorem readDigits?_toDigits {base : Nat} (two : 1 < base) (small : base ≤ 16) (n : Nat)
    : readDigits? base (Nat.toDigits base n) = some n := by
  have value := readDigitsFrom_toDigits two small n
  cases digits : Nat.toDigits base n with
  | nil => exact absurd digits Nat.toDigits_ne_nil
  | cons c rest =>
      rw [digits] at value
      exact value

/-- Digits that are read make a number no smaller. -/
theorem le_of_readDigitsFrom {base value n : Nat} (positive : 0 < base) {text : List Char}
    (read : readDigitsFrom base value text = some n)
    : value ≤ n := by
  induction text generalizing value with
  | nil => exact Nat.le_of_eq (Option.some.inj read)
  | cons c rest ih =>
      rw [readDigitsFrom] at read
      cases digit : digitOf? base c with
      | none =>
          rw [digit] at read
          contradiction
      | some digit =>
          simp only [digit] at read
          have grown := Nat.le_mul_of_pos_right value positive
          exact Nat.le_trans (Nat.le_add_right_of_le grown) (ih read)

/-- A bound that a number keeps is kept at each of its digits. -/
theorem readBoundedFrom_of_le {base greatest value n : Nat} (positive : 0 < base)
    {text : List Char} (read : readDigitsFrom base value text = some n) (fits : n ≤ greatest)
    : readBoundedFrom base greatest value text = .ok n := by
  induction text generalizing value with
  | nil => exact congrArg _ (Option.some.inj read)
  | cons c rest ih =>
      rw [readDigitsFrom] at read
      cases digit : digitOf? base c with
      | none =>
          rw [digit] at read
          contradiction
      | some digit =>
          simp only [digit] at read
          have bound := Nat.le_trans (le_of_readDigitsFrom positive read) fits
          simp only [readBoundedFrom, digit, if_pos bound]
          exact ih read

------------------------------------------------------------------------------------------
-- Decimal numerals
------------------------------------------------------------------------------------------

/-- A numeral of a number: decimal digits, one or more, that make the number. -/
structure IsNumeral (digits : List Char) (n : Nat) : Prop where
  some : digits ≠ []
  all : ∀ c ∈ digits, c.isDigit = true
  value : Nat.ofDigitChars 10 digits 0 = n

theorem readDigitsFrom_eq_some_iff {value n : Nat} {text : List Char}
    : readDigitsFrom 10 value text = some n
      ↔ (∀ c ∈ text, c.isDigit = true) ∧ Nat.ofDigitChars 10 text value = n := by
  induction text generalizing value with
  | nil => simp [readDigitsFrom, Nat.ofDigitChars]
  | cons c rest ih =>
      rw [readDigitsFrom, List.forall_mem_cons, Nat.ofDigitChars_cons]
      by_cases digit : isDigit c = true
      · have same : 10 * value + (c.toNat - '0'.toNat) = value * 10 + (c.toNat - 48) := by
          rw [Nat.mul_comm]
          rfl
        simp only [digitOf?_of_isDigit digit, ih, isDigit_eq, digit, true_and, same]
      · have unread : digitOf? 10 c = none := by
          refine Option.eq_none_iff_forall_ne_some.mpr fun digit' read => ?_
          exact digit (isDigit_of_digitOf? read)
        simp [unread, isDigit_eq, digit]

theorem readBoundedFrom_eq_ok_iff {greatest value n : Nat} (below : value ≤ greatest)
    {text : List Char}
    : readBoundedFrom 10 greatest value text = .ok n
      ↔ readDigitsFrom 10 value text = some n ∧ n ≤ greatest := by
  refine ⟨fun read => ?_, fun ⟨read, fits⟩ => readBoundedFrom_of_le (by decide) read fits⟩
  induction text generalizing value with
  | nil =>
      obtain rfl := Except.ok.inj read
      exact ⟨rfl, below⟩
  | cons c rest ih =>
      rw [readBoundedFrom] at read
      split at read
      · rename_i digit found
        split at read
        · rename_i fits
          simp only [readDigitsFrom, found]
          exact ih fits read
        · cases read
      · cases read

theorem readBounded_eq_ok_iff {greatest n : Nat} {text : List Char}
    : readBounded 10 greatest text = .ok n ↔ IsNumeral text n ∧ n ≤ greatest := by
  cases text with
  | nil => exact ⟨nofun, fun read => absurd rfl read.1.some⟩
  | cons c rest =>
      rw [readBounded, readBoundedFrom_eq_ok_iff (Nat.zero_le _), readDigitsFrom_eq_some_iff]
      refine and_congr_left fun _ => ?_
      exact ⟨fun read => ⟨nofun, read.1, read.2⟩, fun read => ⟨read.all, read.value⟩⟩

/-- An unsigned number is a numeral within the bounds, with one plus sign before it or none. -/
theorem readUnsigned_eq_ok_iff {greatest n : Nat} {text : List Char}
    : readUnsigned 10 greatest text = .ok n
      ↔ ∃ digits, (text = digits ∨ text = '+' :: digits) ∧ IsNumeral digits n ∧ n ≤ greatest := by
  constructor
  · intro read
    unfold readUnsigned at read
    split at read
    · cases read
    · rename_i rest
      exact ⟨rest, Or.inr rfl, readBounded_eq_ok_iff.mp read⟩
    · exact ⟨text, Or.inl rfl, readBounded_eq_ok_iff.mp read⟩
  · rintro ⟨digits, rfl | rfl, read⟩
    · unfold readUnsigned
      split
      · exact absurd rfl read.1.some
      · rename_i rest
        exact absurd (read.1.all '+' List.mem_cons_self) (by decide)
      · exact readBounded_eq_ok_iff.mpr read
    · exact readBounded_eq_ok_iff.mpr read

/--
A signed number is a numeral within the bounds, with one sign before it or none; behind a minus
sign it counts downwards from zero.
-/
theorem readSigned_eq_ok_iff {least greatest : Nat} {n : Int} {text : List Char}
    : readSigned 10 least greatest text = .ok n
      ↔ ∃ digits m,
          IsNumeral digits m
          ∧ ((text = digits ∨ text = '+' :: digits) ∧ m ≤ greatest ∧ n = m
            ∨ text = '-' :: digits ∧ m ≤ least ∧ n = -m) := by
  have upward : ∀ digits, (readBounded 10 greatest digits).map Int.ofNat = .ok n
      ↔ ∃ m, IsNumeral digits m ∧ m ≤ greatest ∧ n = m := by
    intro digits
    simp only [← and_assoc, ← readBounded_eq_ok_iff]
    cases readBounded 10 greatest digits <;> simp [Except.map, eq_comm]
  constructor
  · intro read
    unfold readSigned at read
    split at read
    · cases read
    · rename_i rest
      split at read
      · rename_i m found
        have numeral := readBounded_eq_ok_iff.mp found
        exact ⟨rest, m, numeral.1, .inr ⟨rfl, numeral.2, (Except.ok.inj read).symm⟩⟩
      · cases read
      · cases read
    · rename_i rest
      obtain ⟨m, numeral, fits⟩ := (upward rest).mp read
      exact ⟨rest, m, numeral, .inl ⟨.inr rfl, fits⟩⟩
    · obtain ⟨m, numeral, fits⟩ := (upward text).mp read
      exact ⟨text, m, numeral, .inl ⟨.inl rfl, fits⟩⟩
  · rintro ⟨digits, m, numeral, ⟨rfl | rfl, fits⟩ | ⟨rfl, fits, rfl⟩⟩
    · have read := (upward _).mpr ⟨m, numeral, fits⟩
      unfold readSigned
      split
      · exact absurd rfl numeral.some
      · exact absurd (numeral.all '-' List.mem_cons_self) (by decide)
      · exact absurd (numeral.all '+' List.mem_cons_self) (by decide)
      · exact read
    · exact (upward _).mpr ⟨m, numeral, fits⟩
    · simp only [readSigned, readBounded_eq_ok_iff.mpr ⟨numeral, fits⟩]

theorem isNumeral_toDigits (n : Nat) : IsNumeral (Nat.toDigits 10 n) n where
  some := Nat.toDigits_ne_nil
  all _ member := Nat.isDigit_of_mem_toDigits (by decide : 0 < 10) (by decide) member
  value := Nat.ofDigitChars_toDigits (by decide : 1 < 10) (by decide)

end DiscordRest.Text
