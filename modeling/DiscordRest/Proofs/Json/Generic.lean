import Mathlib.Data.List.TakeWhile
import DiscordRest.Proofs.Json.Agreement
import DiscordRest.Proofs.Json.Whole

/-!
Texts as the values they hold. Where all keys are read nothing of a text is passed over, so that a
type whose values are told by any value of a text is read from both alike.
-/

namespace DiscordRest.Json

variable {α : Type}

------------------------------------------------------------------------------------------
-- Nothing is passed over
------------------------------------------------------------------------------------------

namespace Reader

theorem isWhole_draftOf {read : Except Fault α} {make : α → Draft}
    (whole : ∀ part, (make part).isWhole = true)
    : (draftOf read make).isWhole = true := by
  cases read with
  | error fault => rfl
  | ok part => exact whole part

/-- Nothing is passed over where all keys are read, by induction on the fuel. -/
theorem isWhole_read (fuel : Nat)
    : (∀ keeps text, (∀ key, keeps key = true) → (readValue keeps fuel text).isWhole = true)
      ∧ (∀ first text, Draft.isWhole.itemsWhole (readItems fuel first text).1 = true)
      ∧ ∀ keeps first text, (∀ key, keeps key = true)
        → Draft.isWhole.membersWhole (readMembers keeps fuel first text).1 = true := by
  induction fuel with
  | zero => exact ⟨fun _ _ _ => rfl, fun _ _ => rfl, fun _ _ _ _ => rfl⟩
  | succ fuel ih =>
      obtain ⟨value, items, members⟩ := ih
      refine ⟨?_, ?_, ?_⟩
      · intro keeps text all
        rw [readValue]
        split
        case h_1 => rfl
        case h_7 => exact items true _
        case h_8 => exact members keeps true _ all
        case h_9 =>
          split
          · exact isWhole_draftOf fun _ => rfl
          · rfl
        all_goals exact isWhole_draftOf fun _ => rfl
      · intro first text
        rw [readItems]
        split
        · rfl
        · rfl
        · have here := fun rest => value (fun _ => true) rest fun _ => rfl
          dsimp only
          split <;> simp [Draft.isWhole.itemsWhole, here, items]
      · intro keeps first text all
        rw [readMembers]
        split
        · rfl
        · rfl
        · split
          · rfl
          · -- Behind the key stand a colon and the value, or a fault.
            simp only [all, if_true]
            split <;>
              simp only [Draft.isWhole.membersWhole, members keeps false _ all, Bool.and_true]
            all_goals
              split
              · rfl
              · exact value _ _ fun _ => rfl

end Reader

theorem Draft.isWhole_ofText {keeps : String → Bool} (all : ∀ key, keeps key = true)
    (text : List Char)
    : (Draft.ofText keeps text).isWhole = true :=
  (Reader.isWhole_read _).1 keeps text all

------------------------------------------------------------------------------------------
-- Reading by way of a value
------------------------------------------------------------------------------------------

/--
A text is one value and nothing else, as far as readers go: not too deep, and no number out of
range. The members of the value stand in the order of the text.
-/
def IsDocument (text : String) (value : Value) : Prop :=
  (Draft.ofText Codec.keepsAll text.toList).value? Draft.depthLimit = .ok value
  ∧ ∃ after,
      (Draft.ofText Codec.keepsAll text.toList).finish = .ok after
      ∧ Draft.checkEnd after = .ok ()

namespace Codec

variable {codec : Codec α} {text : String} {x : α}

theorem ofTextValue_eq_ok_iff
    : codec.ofTextValue text = .ok x
      ↔ ∃ held, Codec.value.ofText text = .ok held ∧ codec.ofValue held = .ok x := by
  unfold ofTextValue
  cases Codec.value.ofText text with
  | error failure => simp
  | ok held => cases read : codec.ofValue held <;> simp [read]

theorem value_ofText_eq_ok_iff {held : Value}
    : Codec.value.ofText text = .ok held
      ↔ ∃ value, IsDocument text value ∧ value.normalise = held := by
  rw [Codec.ofText_eq_ok_iff]
  constructor
  · rintro ⟨read, ended⟩
    obtain ⟨value, shown, same⟩ := Except.map_eq_ok_iff.mp read
    exact ⟨value, ⟨shown, ended⟩, same⟩
  · rintro ⟨value, ⟨shown, ended⟩, same⟩
    exact ⟨Except.map_eq_ok_iff.mpr ⟨value, shown, same⟩, ended⟩

/-- By way of a value, members are read in the order of their keys. -/
theorem ofTextValue_eq_ok_iff_document
    : codec.ofTextValue text = .ok x
      ↔ ∃ value, IsDocument text value ∧ codec.ofValue value.normalise = .ok x := by
  simp only [ofTextValue_eq_ok_iff, value_ofText_eq_ok_iff]
  constructor
  · rintro ⟨_, ⟨value, document, rfl⟩, read⟩
    exact ⟨value, document, read⟩
  · rintro ⟨value, document, read⟩
    exact ⟨_, ⟨value, document, rfl⟩, read⟩

/-- From a text itself, members are read in their order there. -/
theorem Agrees.ofText_eq_ok_iff_document (agrees : codec.Agrees) (all : codec.keeps = keepsAll)
    : codec.ofText text = .ok x
      ↔ ∃ value, IsDocument text value ∧ codec.ofValue value = .ok x := by
  have whole : (Draft.ofText keepsAll text.toList).isWhole = true :=
    Draft.isWhole_ofText (fun _ => rfl) text.toList
  rw [Codec.ofText_eq_ok_iff, all, agrees _ whole]
  constructor
  · rintro ⟨⟨value, shown, read⟩, ended⟩
    exact ⟨value, ⟨shown, ended⟩, read⟩
  · rintro ⟨value, ⟨shown, ended⟩, read⟩
    exact ⟨⟨value, shown, read⟩, ended⟩

/-- What reads all of a text, and values as their normal forms, may go by way of a value. -/
theorem Agrees.ofText_eq_ok_iff (agrees : codec.Agrees) (all : codec.keeps = keepsAll)
    (normal : ∀ value : Value, codec.ofValue value.normalise = codec.ofValue value)
    : codec.ofText text = .ok x ↔ codec.ofTextValue text = .ok x := by
  rw [agrees.ofText_eq_ok_iff_document all, ofTextValue_eq_ok_iff_document]
  simp only [normal]

end Codec

theorem Value.ofText_text {value : Value} (exact : value.isExact = true)
    (shallow : value.depth < Draft.depthLimit)
    : Codec.value.ofText value.text = .ok value.normalise := by
  have shown : (Draft.ofText Codec.keepsAll value.text.toList).Shows value [] :=
    Draft.shows_ofText exact fun _ _ => rfl
  refine Codec.ofText_eq_ok_iff.mpr ⟨?_, [], shown.finish, rfl⟩
  exact Except.map_eq_ok_iff.mpr ⟨value, shown.value _ shallow, rfl⟩

------------------------------------------------------------------------------------------
-- Integers of more than 64 bits
------------------------------------------------------------------------------------------

namespace Reader

/-- Digits of a number that does not fit into 64 bits are not all taken. -/
theorem exists_takeDigits_of_lt {value n : Nat} {digits : List Char}
    (all : ∀ c ∈ digits, Text.isDigit c = true)
    (read : Text.readDigitsFrom 10 value digits = some n) (below : value ≤ greatestWord)
    (above : greatestWord < n) (taken : Nat)
    : ∃ significand count c rest,
        takeDigits value taken digits = (significand, count, c :: rest)
        ∧ ∀ d ∈ c :: rest, Text.isDigit d = true := by
  induction digits generalizing value taken with
  | nil =>
      obtain rfl := Option.some.inj read
      exact absurd above (Nat.not_lt.mpr below)
  | cons c digits ih =>
      have digit := all c List.mem_cons_self
      rw [Text.readDigitsFrom, Text.digitOf?_of_isDigit digit] at read
      rw [takeDigits]
      split
      · rename_i fits
        simp only [Bool.and_eq_true, decide_eq_true_eq] at fits
        exact ih (fun d member => all d (List.mem_cons_of_mem c member)) read fits.2 _
      · exact ⟨_, _, _, _, rfl, all⟩

/-- The numeral of a number of more than 64 bits is that of a real number, if it is any. -/
theorem readNumber_toDigits_of_lt {n : Nat} (above : greatestWord < n) (negative : Bool)
    : ∃ significand exponent,
        readNumber negative (Nat.toDigits 10 n) = scaled negative significand exponent [] := by
  have read := Text.readDigitsFrom_toDigits (by decide : 1 < 10) (by decide) n
  have all : ∀ c ∈ Nat.toDigits 10 n, Text.isDigit c = true :=
    fun c member => Text.isDigit_of_mem_toDigits member
  have head := Text.head?_toDigits_ne_zero (by decide : 1 < 10) (by decide)
    (Nat.zero_lt_of_lt above)
  obtain ⟨c, more, digits⟩ := List.exists_cons_of_ne_nil (Nat.toDigits_ne_nil (n := n) (b := 10))
  rw [digits] at read all head ⊢
  have first := all c List.mem_cons_self
  rw [Text.readDigitsFrom, Text.digitOf?_of_isDigit first] at read
  have small : c.toNat - 48 ≤ greatestWord := by
    have below : c.toNat < 2 ^ 32 := c.val.toNat_lt
    unfold greatestWord
    omega
  obtain ⟨significand, count, d, rest, taken, left⟩ := exists_takeDigits_of_lt
    (fun d member => all d (List.mem_cons_of_mem c member)) (by simpa using read) small above 0
  have dropped : dropDigits (d :: rest) = [] := List.dropWhile_eq_nil_iff.mpr left
  refine ⟨significand, (d :: rest).length, ?_⟩
  unfold readNumber
  split
  · rename_i none
    cases none
  · rename_i same
    obtain ⟨rfl, -⟩ := List.cons.inj same
    exact absurd rfl head
  · rename_i other same
    obtain ⟨rfl, rfl⟩ := List.cons.inj same
    have goesOn : startsWithDigit (d :: rest) = true := left d List.mem_cons_self
    rw [if_pos first, taken]
    dsimp only
    rw [if_pos goesOn, dropped, List.length_nil, Nat.sub_zero]
    have ended : startsWithExponent [] = false := rfl
    simp only [readLongTail, readScale, ended, Bool.false_eq_true, if_false]

/-- The numeral of an integer that does not fit into 64 bits is that of a real number, if any. -/
theorem exists_real_of_readNumber {value : Int}
    (outside : ¬(leastInteger ≤ value ∧ value ≤ greatestInteger)) {number : Number}
    {rest : List Char}
    (read : readNumber (decide (value < 0)) (Nat.toDigits 10 value.natAbs) = .ok (number, rest))
    : ∃ x, number = .real x := by
  by_cases fits : value.natAbs ≤ greatestWord
  · have negative : value < 0 := by
      unfold leastInteger greatestInteger at outside
      unfold greatestWord at fits
      omega
    have whole := readNumber_toDigits fits .nil true
    rw [List.append_nil] at whole
    rw [decide_eq_true negative, whole] at read
    obtain ⟨rfl, rfl⟩ := Prod.mk.inj (Except.ok.inj read)
    have same : -(value.natAbs : Int) = value := by omega
    have nonzero : (value.natAbs == 0) = false := beq_eq_false_iff_ne.mpr (by omega)
    simp only [wholeNumber, if_true, same, nonzero, Bool.and_false, Number.ofInt?,
      dif_neg outside]
    exact ⟨_, rfl⟩
  · obtain ⟨significand, exponent, same⟩ :=
      readNumber_toDigits_of_lt (Nat.lt_of_not_le fits) (decide (value < 0))
    rw [same] at read
    unfold scaled at read
    split at read
    · obtain ⟨rfl, rfl⟩ := Prod.mk.inj (Except.ok.inj read)
      exact ⟨_, rfl⟩
    · cases read

end Reader

/-- The numeral of an integer that does not fit into 64 bits holds a real number, if anything. -/
theorem Value.exists_real_of_ofText {z : Int}
    (outside : ¬(leastInteger ≤ z ∧ z ≤ greatestInteger)) {value : Value}
    (held : Codec.value.ofText (Text.decimalInt z) = .ok value)
    : ∃ x, value = .number (.real x) := by
  obtain ⟨drafted, -⟩ := Codec.ofText_eq_ok_iff.mp held
  have draft := Reader.readValue_decimalInt Codec.keepsAll
    (3 * (Text.decimalInt z).toList.length + 2) z []
  rw [List.append_nil, List.append_nil] at draft
  obtain ⟨inside, shown, rfl⟩ := Except.map_eq_ok_iff.mp drafted
  rw [show Draft.ofText Codec.value.keeps (Text.decimalInt z).toList = _ from draft] at shown
  cases read : Reader.readNumber (decide (z < 0)) (Nat.toDigits 10 z.natAbs) with
  | error fault =>
      rw [read] at shown
      cases shown
  | ok found =>
      obtain ⟨number, rest⟩ := found
      obtain ⟨x, rfl⟩ := Reader.exists_real_of_readNumber outside read
      rw [read] at shown
      obtain rfl := Except.ok.inj shown
      exact ⟨x, rfl⟩

end DiscordRest.Json
