import DiscordRest.Text.Numeral

/-!
Characters by their code points. What is asked of the characters below a bound can be decided from
the code points there; letters and digits are among the first 128.
-/

namespace DiscordRest.Text

/-- What holds of all code points below a bound holds of the characters there. -/
theorem forall_toNat_lt {bound : Nat} {p : Char → Prop}
    (codes : ∀ code < bound, p (Char.ofNat code)) (c : Char) (below : c.toNat < bound)
    : p c := by
  have found := codes c.toNat below
  rwa [Char.ofNat_toNat] at found

theorem toNat_lt_of_isAlphanum {c : Char} (letter : c.isAlphanum = true) : c.toNat < 128 := by
  have ranges : ((decide ('A'.val ≤ c.val ∧ c.val ≤ 'Z'.val)
        || decide ('a'.val ≤ c.val) && decide (c.val ≤ 'z'.val))
      || decide ('0'.val ≤ c.val) && decide (c.val ≤ '9'.val)) = true :=
    letter
  simp only [Bool.or_eq_true, Bool.and_eq_true, decide_eq_true_eq,
    UInt32.le_iff_toNat_le] at ranges
  have code : c.toNat = c.val.toNat := rfl
  have bounds : 'Z'.val.toNat = 90 ∧ 'z'.val.toNat = 122 ∧ '9'.val.toNat = 57 := by decide
  omega

theorem toNat_lt_of_isHexDigit {c : Char} (digit : isHexDigit c = true) : c.toNat < 128 := by
  have below : ∀ {d : Char}, c ≤ d → d.toNat < 128 → c.toNat < 128 := fun le =>
    Nat.lt_of_le_of_lt (UInt32.le_iff_toNat_le.mp (Char.le_def.mp le))
  unfold isHexDigit digitValue? at digit
  split at digit
  · rename_i bounds
    exact below (of_decide_eq_true (Bool.and_eq_true_iff.mp bounds).2) (by decide)
  split at digit
  · rename_i bounds
    exact below (of_decide_eq_true (Bool.and_eq_true_iff.mp bounds).2) (by decide)
  split at digit
  · rename_i bounds
    exact below (of_decide_eq_true (Bool.and_eq_true_iff.mp bounds).2) (by decide)
  · cases digit

end DiscordRest.Text
