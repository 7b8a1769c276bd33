import DiscordRest.Text.Utf8

/-!
Texts as bytes. The bytes of a text are decoded to the same text; in ASCII each character is one
byte.
-/

namespace DiscordRest.Text

------------------------------------------------------------------------------------------
-- ASCII
------------------------------------------------------------------------------------------

/-- A character of ASCII is one byte. -/
theorem utf8Bytes_cons {c : Char} (ascii : c.toNat < 0x80) (rest : List Char)
    : utf8Bytes (c :: rest) = UInt8.ofNat c.toNat :: utf8Bytes rest := by
  have single : String.utf8EncodeChar c = [UInt8.ofNat c.toNat] := by
    have low : c.toNat ≤ 0x7F := Nat.le_of_lt_succ ascii
    simp [String.utf8EncodeChar, Nat.not_lt.mpr low]
  simp only [utf8Bytes, List.flatMap_cons, single, List.singleton_append]

/-- A byte below 128 is a character by itself. -/
theorem decodeChar_ofNat {code : Nat} (ascii : code < 0x80) (rest : List UInt8)
    : decodeChar (UInt8.ofNat code) rest = (some (Char.ofNat code), 1) := by
  have lead : leadRange? (UInt8.ofNat code) = some (1, 0, 0) := by
    have all : ∀ n < 0x80, leadRange? (UInt8.ofNat n) = some (1, 0, 0) := by decide +kernel
    exact all code ascii
  have same : (UInt8.ofNat code).toNat = code := by
    rw [UInt8.toNat_ofNat']
    omega
  simp only [decodeChar, lead, same]

/-- Bytes below 128 are decoded one after another, given enough steps. -/
theorem go_utf8Bytes {text : List Char} (ascii : ∀ c ∈ text, c.toNat < 0x80) {steps : Nat}
    (enough : text.length ≤ steps)
    : decodeStrict?.go steps (utf8Bytes text) = some text := by
  induction text generalizing steps with
  | nil => cases steps <;> rfl
  | cons c rest ih =>
      cases steps with
      | zero => contradiction
      | succ steps =>
          have first := ascii c List.mem_cons_self
          have later := ih (fun d member => ascii d (List.mem_cons_of_mem c member))
            (Nat.le_of_succ_le_succ enough)
          rw [utf8Bytes_cons first, decodeStrict?.go]
          simp only [decodeChar_ofNat first, Nat.sub_self, List.drop_zero, later, Option.map_some,
            Char.ofNat_toNat]

/-- A text has as many bytes as characters in ASCII. -/
theorem length_utf8Bytes {text : List Char} (ascii : ∀ c ∈ text, c.toNat < 0x80)
    : (utf8Bytes text).length = text.length := by
  induction text with
  | nil => rfl
  | cons c rest ih =>
      rw [utf8Bytes_cons (ascii c List.mem_cons_self), List.length_cons, List.length_cons,
        ih fun d member => ascii d (List.mem_cons_of_mem c member)]

theorem decodeStrict?_utf8Bytes {text : List Char} (ascii : ∀ c ∈ text, c.toNat < 0x80)
    : decodeStrict? (utf8Bytes text) = some text :=
  go_utf8Bytes ascii (Nat.le_of_eq (length_utf8Bytes ascii).symm)

------------------------------------------------------------------------------------------
-- All characters
------------------------------------------------------------------------------------------

theorem takeContinuations_append {tail : List UInt8} (continues : ∀ b ∈ tail, isContinuation b = true)
    (rest : List UInt8)
    : takeContinuations tail.length (tail ++ rest) = tail := by
  induction tail with
  | nil => rfl
  | cons b tail ih =>
      have first := continues b List.mem_cons_self
      have later := ih fun d member => continues d (List.mem_cons_of_mem b member)
      rw [List.length_cons, List.cons_append, takeContinuations, if_pos first, later]

theorem isContinuation_ofNat (n : Nat) : isContinuation (UInt8.ofNat (n % 64 + 128)) = true := by
  have all : ∀ n < 64, isContinuation (UInt8.ofNat (n + 128)) = true := by decide +kernel
  exact all (n % 64) (Nat.mod_lt n (by decide))

/-- A first byte and as many continuation bytes as it asks for are a character. -/
theorem decodeChar_of_leadRange? {lead second low high : UInt8} (more : List UInt8) {c : Char}
    (range : leadRange? lead = some (more.length + 2, low, high))
    (inRange : low ≤ second ∧ second ≤ high)
    (continues : ∀ b ∈ more, isContinuation b = true)
    (code : codeOf lead (second :: more) = c.toNat) (rest : List UInt8)
    : decodeChar lead (second :: more ++ rest) = (some c, more.length + 2) := by
  have taken := takeContinuations_append continues rest
  simp only [decodeChar, range, List.cons_append, inRange.1, inRange.2, decide_true, Bool.and_self,
    if_true, Nat.add_sub_cancel, taken, List.length_cons, code, Char.ofNat_toNat]

theorem toNat_ofNat_of_lt {n : Nat} (small : n < 256) : (UInt8.ofNat n).toNat = n := by
  rw [UInt8.toNat_ofNat']
  omega

theorem inRange_ofNat {n low high : Nat} (above : low ≤ n) (below : n ≤ high ∧ high < 256)
    : UInt8.ofNat low ≤ UInt8.ofNat n ∧ UInt8.ofNat n ≤ UInt8.ofNat high := by
  simp only [UInt8.le_iff_toNat_le, UInt8.toNat_ofNat']
  omega

/-- A code point that is no character's is not between the two surrogate marks. -/
theorem not_surrogate (c : Char) : c.toNat < 0xD800 ∨ 0xDFFF < c.toNat ∧ c.toNat < 0x110000 :=
  c.valid

/-- The bytes of a character are decoded to it, by how many they are. -/
theorem decodeChar_utf8EncodeChar (c : Char) (rest : List UInt8)
    : ∃ lead tail,
        String.utf8EncodeChar c = lead :: tail
        ∧ decodeChar lead (tail ++ rest) = (some c, tail.length + 1) := by
  have valid := not_surrogate c
  have value : c.val.toNat = c.toNat := rfl
  rw [String.utf8EncodeChar]
  simp only [value]
  split
  · rename_i low
    exact ⟨_, [], rfl, by
      rw [decodeChar_ofNat (by omega), Char.ofNat_toNat]
      rfl⟩
  split
  · rename_i above two
    refine ⟨_, [_], rfl, ?_⟩
    have lead : ∀ n < 32, 2 ≤ n → leadRange? (UInt8.ofNat (n + 192))
        = some (2, UInt8.ofNat 0x80, UInt8.ofNat 0xBF) := by
      decide +kernel
    refine decodeChar_of_leadRange? [] (lead (c.toNat / 64 % 32) (by omega) (by omega))
      (inRange_ofNat (by omega) (by omega)) (by simp) ?_ rest
    simp only [codeOf, List.length_cons, List.length_nil, List.foldl_cons, List.foldl_nil]
    rw [toNat_ofNat_of_lt (by omega), toNat_ofNat_of_lt (by omega)]
    omega
  split
  · rename_i above two three
    refine ⟨_, [_, _], rfl, ?_⟩
    have lead : ∀ n < 16, leadRange? (UInt8.ofNat (n + 224))
        = some (3, UInt8.ofNat (if n = 0 then 0xA0 else 0x80),
            UInt8.ofNat (if n = 13 then 0x9F else 0xBF)) := by
      decide +kernel
    refine decodeChar_of_leadRange? [_] (lead (c.toNat / 4096 % 16) (by omega))
      (inRange_ofNat (by split <;> omega) (by split <;> omega))
      (List.forall_mem_singleton.mpr (isContinuation_ofNat _)) ?_ rest
    simp only [codeOf, List.length_cons, List.length_nil, List.foldl_cons, List.foldl_nil]
    rw [toNat_ofNat_of_lt (by omega), toNat_ofNat_of_lt (by omega), toNat_ofNat_of_lt (by omega)]
    omega
  · rename_i above two three
    refine ⟨_, [_, _, _], rfl, ?_⟩
    have lead : ∀ n < 5, leadRange? (UInt8.ofNat (n + 240))
        = some (4, UInt8.ofNat (if n = 0 then 0x90 else 0x80),
            UInt8.ofNat (if n = 4 then 0x8F else 0xBF)) := by
      decide +kernel
    refine decodeChar_of_leadRange? [_, _] (lead (c.toNat / 262144 % 8) (by omega))
      (inRange_ofNat (by split <;> omega) (by split <;> omega))
      (List.forall_mem_cons.mpr ⟨isContinuation_ofNat _,
        List.forall_mem_singleton.mpr (isContinuation_ofNat _)⟩) ?_ rest
    simp only [codeOf, List.length_cons, List.length_nil, List.foldl_cons, List.foldl_nil]
    rw [toNat_ofNat_of_lt (by omega), toNat_ofNat_of_lt (by omega), toNat_ofNat_of_lt (by omega),
      toNat_ofNat_of_lt (by omega)]
    omega

/-- Bytes of a text are decoded to it, given enough steps; one character costs one step. -/
theorem go_decodeLenient_utf8Bytes {text : List Char} {steps : Nat} (enough : text.length ≤ steps)
    : decodeLenient.go steps (utf8Bytes text) = text := by
  induction text generalizing steps with
  | nil => cases steps <;> rfl
  | cons c rest ih =>
      cases steps with
      | zero => contradiction
      | succ steps =>
          have later := ih (Nat.le_of_succ_le_succ enough)
          obtain ⟨lead, tail, bytes, found⟩ := decodeChar_utf8EncodeChar c (utf8Bytes rest)
          have whole : utf8Bytes (c :: rest) = lead :: (tail ++ utf8Bytes rest) := by
            rw [utf8Bytes, List.flatMap_cons, bytes]
            rfl
          rw [whole, decodeLenient.go, found]
          simp only [Option.getD_some, Nat.add_sub_cancel, List.drop_left, later]

theorem length_le_length_utf8Bytes (text : List Char) : text.length ≤ (utf8Bytes text).length := by
  induction text with
  | nil => exact Nat.le_refl 0
  | cons c rest ih =>
      have positive := Char.utf8Size_pos c
      rw [utf8Bytes, List.flatMap_cons, List.length_append, String.length_utf8EncodeChar,
        List.length_cons]
      rw [utf8Bytes] at ih
      omega

/-- The bytes of a text are decoded to this text. -/
theorem decodeLenient_utf8Bytes (text : List Char) : decodeLenient (utf8Bytes text) = text :=
  go_decodeLenient_utf8Bytes (length_le_length_utf8Bytes text)

------------------------------------------------------------------------------------------
-- Bytes of ASCII
------------------------------------------------------------------------------------------

/-- A byte of a character is the character itself or none of ASCII, by how many bytes there are. -/
theorem eq_or_le_of_mem_utf8EncodeChar {c : Char} {b : UInt8}
    (member : b ∈ String.utf8EncodeChar c)
    : b.toNat = c.toNat ∨ 0x80 ≤ b.toNat := by
  have value : c.val.toNat = c.toNat := rfl
  rw [String.utf8EncodeChar] at member
  simp only [value] at member
  split at member
  · rename_i low
    rw [List.mem_singleton.mp member, toNat_ofNat_of_lt (by omega)]
    exact Or.inl rfl
  · right
    split at member
    · simp only [List.mem_cons, List.not_mem_nil, or_false] at member
      rcases member with rfl | rfl <;> rw [toNat_ofNat_of_lt (by omega)] <;> omega
    · split at member
      · simp only [List.mem_cons, List.not_mem_nil, or_false] at member
        rcases member with rfl | rfl | rfl <;> rw [toNat_ofNat_of_lt (by omega)] <;> omega
      · simp only [List.mem_cons, List.not_mem_nil, or_false] at member
        rcases member with rfl | rfl | rfl | rfl <;> rw [toNat_ofNat_of_lt (by omega)] <;> omega

/-- The byte of an ASCII character stands for this character only. -/
theorem mem_of_mem_utf8Bytes {text : List Char} {c : Char} (ascii : c.toNat < 0x80)
    (member : UInt8.ofNat c.toNat ∈ utf8Bytes text)
    : c ∈ text := by
  obtain ⟨written, inside, byte⟩ := List.mem_flatMap.mp member
  have found := eq_or_le_of_mem_utf8EncodeChar byte
  rw [toNat_ofNat_of_lt (by omega)] at found
  have same : c.toNat = written.toNat := found.resolve_right (by omega)
  have equal : c = written := Char.ext (UInt32.toNat_inj.mp same)
  exact equal ▸ inside

theorem utf8Bytes_injective : Function.Injective utf8Bytes :=
  Function.LeftInverse.injective decodeLenient_utf8Bytes

end DiscordRest.Text
