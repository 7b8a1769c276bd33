import DiscordRest.Proofs.Text.Ascii
import DiscordRest.Proofs.Url.Splitting

/-!
Domain names as they are written: whatever script a name comes from, it ends up in small letters
of ASCII, and a name that is so already stays as it is.
-/

namespace DiscordRest.Url

------------------------------------------------------------------------------------------
-- Small characters
------------------------------------------------------------------------------------------

/-- Whether a character belongs to ASCII and is no capital letter. -/
def isSmall (c : Char) : Bool :=
  Domain.isAscii c && c.toLower == c

/-- What holds of all code points of ASCII holds of its characters. -/
theorem of_isAscii {p : Char → Bool} (codes : ∀ code < 0x80, p (Char.ofNat code) = true) {c : Char}
    (ascii : Domain.isAscii c = true)
    : p c = true := by
  have all : ∀ c : Char, c.toNat < 0x80 → p c = true := Text.forall_toNat_lt codes
  exact all c (by simpa [Domain.isAscii] using ascii)

theorem isSmall_toLower {c : Char} (ascii : Domain.isAscii c = true)
    : isSmall c.toLower = true :=
  of_isAscii (p := fun c => isSmall c.toLower) (by decide +kernel) ascii

theorem isAscii_of_isSmall {c : Char} (small : isSmall c = true) : Domain.isAscii c = true :=
  (Bool.and_eq_true_iff.mp small).1

theorem toLower_of_isSmall {c : Char} (small : isSmall c = true) : c.toLower = c :=
  eq_of_beq (Bool.and_eq_true_iff.mp small).2

namespace Punycode

theorem isSmall_digit {n : Nat} (below : n < base) : isSmall (digit n) = true := by
  have all : ∀ n < base, isSmall (digit n) = true := by decide +kernel
  exact all n below

theorem threshold_le (place bias : Nat) : threshold place bias ≤ 26 := by
  unfold threshold
  split <;> omega

theorem threshold_pos (place bias : Nat) : 0 < threshold place bias := by
  unfold threshold
  split <;> omega

/-- Numbers are written small, when as many steps are allowed for as the number says. -/
theorem isSmall_of_mem_writeNumber {bias steps place number : Nat} (enough : number ≤ steps)
    {c : Char} (member : c ∈ writeNumber bias steps place number)
    : isSmall c = true := by
  induction steps generalizing place number with
  | zero =>
      rw [writeNumber, List.mem_singleton] at member
      rw [member]
      exact isSmall_digit (by unfold base; omega)
  | succ steps ih =>
      have positive := threshold_pos place bias
      have bounded := threshold_le place bias
      rw [writeNumber] at member
      split at member
      · rename_i below
        rw [List.mem_singleton.mp member]
        exact isSmall_digit (by unfold base; omega)
      · rename_i notBelow
        rcases List.mem_cons.mp member with rfl | later
        · have digit_lt := Nat.mod_lt (number - threshold place bias)
            (show 0 < base - threshold place bias by unfold base; omega)
          exact isSmall_digit (by unfold base at *; omega)
        · have smaller := Nat.div_le_self (number - threshold place bias)
            (base - threshold place bias)
          exact ih (by omega) later

/-- Placing a code point writes small characters. -/
theorem isSmall_of_mem_placeAll {code : Nat} {progress : Progress} {text : List Char}
    (before : ∀ c ∈ progress.digits, isSmall c = true)
    : ∀ c ∈ (placeAll code progress text).digits, isSmall c = true := by
  induction text generalizing progress with
  | nil => exact before
  | cons next rest ih =>
      rw [placeAll]
      split
      · exact ih before
      · split
        · refine ih ?_
          intro c member
          rcases List.mem_append.mp member with earlier | written
          · exact before c earlier
          · exact isSmall_of_mem_writeNumber (Nat.le_refl _) written
        · exact ih before

/-- Placing all code points writes small characters. -/
theorem isSmall_of_mem_placeCodes {text : List Char} {last : Nat} {progress : Progress}
    {codes : List Nat} (before : ∀ c ∈ progress.digits, isSmall c = true)
    : ∀ c ∈ (placeCodes text last progress codes).digits, isSmall c = true := by
  induction codes generalizing last progress with
  | nil => exact before
  | cons code rest ih =>
      rw [placeCodes]
      exact ih (isSmall_of_mem_placeAll before)

/-- A text is written small if its characters in ASCII are. -/
theorem isSmall_of_mem_encode {text : List Char}
    (plain : ∀ c ∈ text, Domain.isAscii c = true → isSmall c = true) {c : Char}
    (member : c ∈ encode text)
    : isSmall c = true := by
  rw [encode] at member
  rcases List.mem_append.mp member with before | digits
  · rcases List.mem_append.mp before with ascii | separator
    · obtain ⟨given, below⟩ := List.mem_filter.mp ascii
      exact plain c given below
    · split at separator
      · contradiction
      · rw [List.mem_singleton.mp separator]
        decide
  · exact isSmall_of_mem_placeCodes (by simp) c digits

end Punycode

------------------------------------------------------------------------------------------
-- Names
------------------------------------------------------------------------------------------

theorem toNat_ofNat {code : Nat} (valid : code < 0xD800) : (Char.ofNat code).toNat = code := by
  have isValid : code.isValidChar := Or.inl valid
  rw [Char.ofNat, dif_pos isValid]
  rfl

/-- No letter beyond ASCII has a small form in ASCII. -/
theorem le_toNat_lowerCase {c : Char} (beyond : 0x80 ≤ c.toNat)
    : 0x80 ≤ (Text.lowerCase c).toNat := by
  have ranges : ∀ range ∈ Text.caseRanges,
      0x80 ≤ (range.1 : Int) + range.2.2.2 ∧ (range.2.1 : Int) + range.2.2.2 < 0xD800 := by
    decide +kernel
  rw [Text.lowerCase, if_neg (by omega)]
  split
  · exact beyond
  · rename_i first last step distance found
    obtain ⟨low, high⟩ := ranges _ (List.mem_of_find?_eq_some found)
    dsimp only at low high
    have inside := List.find?_some found
    simp only [Bool.and_eq_true, Nat.ble_eq] at inside
    rw [toNat_ofNat (by omega)]
    omega

namespace Domain

/-- A name has a character in ASCII only in lower case. -/
theorem isSmall_of_mem_fold? {c d : Char} {folded : List Char} (fold : fold? c = some folded)
    (member : d ∈ folded) (ascii : isAscii d = true)
    : isSmall d = true := by
  unfold fold? at fold
  split at fold
  · obtain rfl := Option.some.inj fold
    contradiction
  split at fold
  · obtain rfl := Option.some.inj fold
    rw [List.mem_singleton.mp member]
    decide
  split at fold
  · rename_i wide
    obtain rfl := Option.some.inj fold
    rw [List.mem_singleton.mp member]
    simp only [isWide, Bool.and_eq_true, decide_eq_true_iff] at wide
    refine isSmall_toLower ?_
    rw [isAscii, toNat_ofNat (by omega)]
    exact decide_eq_true (by omega)
  split at fold
  · rename_i small
    obtain rfl := Option.some.inj fold
    rw [List.mem_singleton.mp member]
    exact isSmall_toLower small
  split at fold
  · contradiction
  · -- What is left lies beyond ASCII, and its small form does too.
    rename_i beyond _
    obtain rfl := Option.some.inj fold
    rw [List.mem_singleton.mp member] at ascii
    simp only [isAscii, decide_eq_true_iff, Nat.not_lt] at beyond ascii
    have := le_toNat_lowerCase beyond
    omega

/-- A label is written small if its characters in ASCII are. -/
theorem isSmall_of_mem_label? {label written : List Char} (labels : label? label = some written)
    (plain : ∀ c ∈ label, isAscii c = true → isSmall c = true) {c : Char} (member : c ∈ written)
    : isSmall c = true := by
  unfold label? at labels
  split at labels
  · rename_i all
    obtain rfl := Option.some.inj labels
    exact plain c member (List.all_eq_true.mp all c member)
  split at labels
  · contradiction
  · obtain rfl := Option.some.inj labels
    rcases List.mem_append.mp member with marked | encoded
    · have small : mark.all isSmall = true := by decide
      exact List.all_eq_true.mp small c marked
    · exact Punycode.isSmall_of_mem_encode plain encoded

end Domain

/-- The values that a map over a list gives come from its items. -/
theorem exists_of_mem_mapM {α β : Type} {f : α → Option β} {items : List α} {values : List β}
    (mapped : items.mapM f = some values) {value : β} (member : value ∈ values)
    : ∃ item ∈ items, f item = some value := by
  induction items generalizing values with
  | nil =>
      obtain rfl := Option.some.inj mapped
      contradiction
  | cons item rest ih =>
      rw [List.mapM_cons] at mapped
      obtain ⟨first, given, others⟩ := Option.bind_eq_some_iff.mp mapped
      obtain ⟨later, rests, same⟩ := Option.bind_eq_some_iff.mp others
      obtain rfl := Option.some.inj same
      rcases List.mem_cons.mp member with rfl | further
      · exact ⟨item, List.mem_cons_self, given⟩
      · obtain ⟨found, among, gives⟩ := ih rests further
        exact ⟨found, List.mem_cons_of_mem item among, gives⟩

namespace Domain

/-- A name is written in small characters, whatever it was read from. -/
theorem isSmall_of_mem_ofText? {text name : List Char} (read : ofText? text = some name) {c : Char}
    (member : c ∈ name)
    : isSmall c = true := by
  unfold ofText? at read
  split at read
  · rename_i ascii
    obtain rfl := Option.some.inj read
    obtain ⟨given, among, rfl⟩ := List.mem_map.mp member
    exact isSmall_toLower (List.all_eq_true.mp ascii given among)
  · obtain ⟨folded, folds, labelled⟩ := Option.bind_eq_some_iff.mp read
    obtain ⟨labels, written, joined⟩ := Option.bind_eq_some_iff.mp labelled
    obtain rfl := Option.some.inj joined
    rcases mem_intercalate member with point | ⟨label, among, inside⟩
    · rw [List.mem_singleton.mp point]
      decide
    · obtain ⟨raw, rawAmong, labels⟩ := exists_of_mem_mapM written among
      refine isSmall_of_mem_label? labels ?_ inside
      intro d dInside ascii
      obtain ⟨piece, pieceAmong, dPiece⟩ :=
        List.mem_flatten.mp (mem_of_mem_splitWhere rawAmong dInside)
      obtain ⟨source, _, fold⟩ := exists_of_mem_mapM folds pieceAmong
      exact isSmall_of_mem_fold? fold dPiece ascii

/-- A name in small characters stays as it is. -/
theorem ofText?_of_isSmall {name : List Char} (small : ∀ c ∈ name, isSmall c = true)
    : ofText? name = some name := by
  have ascii : name.all isAscii = true :=
    List.all_eq_true.mpr fun c member => isAscii_of_isSmall (small c member)
  rw [ofText?, if_pos ascii]
  congr 1
  exact (List.map_congr_left fun c member => toLower_of_isSmall (small c member)).trans
    (List.map_id name)

end Domain

end DiscordRest.Url
