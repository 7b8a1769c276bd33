/-!
The order of texts: the first character in which two texts differ decides by its code point, and
a text comes before all longer ones that begin with it. It is the order of their bytes in UTF-8.
-/

namespace DiscordRest.Text

/-- Whether a list of characters comes strictly before another one. -/
def comesBefore : List Char → List Char → Bool
  | _, [] => false
  | [], _ :: _ => true
  | a :: as, b :: bs => if a = b then comesBefore as bs else decide (a.toNat < b.toNat)

/-- A text comes strictly before another one. -/
def Before (a b : String) : Prop :=
  comesBefore a.toList b.toList = true

/-- The order of two texts can be decided. -/
instance (a b : String) : Decidable (Before a b) :=
  inferInstanceAs (Decidable (comesBefore a.toList b.toList = true))

/-- Different characters have different code points. -/
theorem toNat_ne_of_ne {a b : Char} (h : a ≠ b)
    : a.toNat ≠ b.toNat :=
  fun same => h (Char.ext (UInt32.toNat_inj.1 same))

/-- No list comes before itself. -/
theorem comesBefore_self (a : List Char)
    : comesBefore a a = false := by
  induction a with
  | nil => rfl
  | cons c rest ih => simpa only [comesBefore, if_true] using ih

/-- A list that comes before a second one comes before all that the second one comes before. -/
theorem comesBefore_trans {a b c : List Char} (hab : comesBefore a b = true)
    (hbc : comesBefore b c = true)
    : comesBefore a c = true := by
  induction a generalizing b c with
  | nil =>
    cases c with
    | nil => cases b <;> simp only [comesBefore, Bool.false_eq_true] at hbc
    | cons z c => rfl
  | cons x a ih =>
    cases b with
    | nil => simp only [comesBefore, Bool.false_eq_true] at hab
    | cons y b =>
      cases c with
      | nil => simp only [comesBefore, Bool.false_eq_true] at hbc
      | cons z c =>
        simp only [comesBefore] at hab hbc ⊢
        by_cases hxy : x = y
        · subst hxy
          by_cases hxz : x = z
          · simp only [hxz, if_true] at hab hbc ⊢
            exact ih hab hbc
          · simp only [hxz, if_false] at hbc ⊢
            exact hbc
        · simp only [hxy, if_false] at hab
          by_cases hyz : y = z
          · subst hyz
            simp only [hxy, if_false]
            exact hab
          · simp only [hyz, if_false] at hbc
            have hlt : x.toNat < z.toNat :=
              Nat.lt_trans (of_decide_eq_true hab) (of_decide_eq_true hbc)
            have hxz : x ≠ z := fun same => Nat.lt_irrefl _ (same ▸ hlt)
            simp only [hxz, if_false]
            exact decide_eq_true hlt

/-- Of two different lists one comes before the other. -/
theorem comesBefore_of_ne {a b : List Char} (hne : a ≠ b) (h : comesBefore a b = false)
    : comesBefore b a = true := by
  induction a generalizing b with
  | nil =>
    cases b with
    | nil => exact absurd rfl hne
    | cons y b => simp only [comesBefore, Bool.true_eq_false] at h
  | cons x a ih =>
    cases b with
    | nil => rfl
    | cons y b =>
      simp only [comesBefore] at h ⊢
      by_cases hxy : x = y
      · subst hxy
        simp only [if_true] at h ⊢
        exact ih (fun same => hne (same ▸ rfl)) h
      · simp only [hxy, if_false] at h
        simp only [Ne.symm hxy, if_false]
        have hle : ¬ x.toNat < y.toNat := of_decide_eq_false h
        have hdiffer := toNat_ne_of_ne hxy
        exact decide_eq_true (by omega)

namespace Before

/-- No text comes before itself. -/
theorem irrefl (a : String)
    : ¬ Before a a :=
  fun h => Bool.false_ne_true ((comesBefore_self a.toList).symm.trans h)

/-- The order of texts is transitive. -/
theorem trans {a b c : String} (hab : Before a b) (hbc : Before b c)
    : Before a c :=
  comesBefore_trans hab hbc

/-- Of two different texts one comes before the other. -/
theorem of_ne {a b : String} (hne : a ≠ b) (h : ¬ Before a b)
    : Before b a :=
  comesBefore_of_ne (fun same => hne (String.toList_inj.1 same)) (Bool.eq_false_iff.2 h)

end Before

end DiscordRest.Text
