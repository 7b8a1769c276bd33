import DiscordRest.Proofs.Text.Utf8
import DiscordRest.Proofs.Url.Address
import DiscordRest.Proofs.Url.Domain

/-!
Hosts of special schemes as they are written: the text of a host that was read is read as this
host again.
-/

namespace DiscordRest.Url.Host

------------------------------------------------------------------------------------------
-- Plain names
------------------------------------------------------------------------------------------

/-- Whether a character may stand in a domain name as it is written. -/
def isNameChar (c : Char) : Bool :=
  isSmall c && !forbiddenInDomain c

theorem toNat_lt_of_isNameChar {c : Char} (plain : isNameChar c = true) : c.toNat < 0x80 := by
  have ascii := isAscii_of_isSmall (Bool.and_eq_true_iff.mp plain).1
  simpa [Domain.isAscii] using ascii

/-- A character of a name is no other than these. -/
theorem ne_of_isNameChar {c : Char} (plain : isNameChar c = true)
    : c ≠ '%' ∧ c ≠ '[' ∧ c ≠ ']' ∧ c ≠ ':' ∧ c ≠ '@' ∧ c ≠ '/' ∧ c ≠ '\\' ∧ c ≠ '?' ∧ c ≠ '#'
      ∧ 0x20 < c.toNat := by
  refine ⟨?_, ?_, ?_, ?_, ?_, ?_, ?_, ?_, ?_, ?_⟩
  case refine_10 =>
    have allowed := (Bool.and_eq_true_iff.mp plain).2
    simp only [forbiddenInDomain, Bool.not_or, Bool.and_eq_true, Bool.not_eq_true',
      decide_eq_false_iff_not] at allowed
    omega
  all_goals
    rintro rfl
    exact absurd plain (by decide)

/-- A text without percent signs stands for its own bytes. -/
theorem percentDecode_of_not_mem {text : List Char} (free : '%' ∉ text)
    : percentDecode text = Text.utf8Bytes text := by
  induction text with
  | nil => rfl
  | cons c rest ih =>
      have first : c ≠ '%' := fun same => free (same ▸ List.mem_cons_self)
      have later := ih fun member => free (List.mem_cons_of_mem c member)
      rw [percentDecode, later]
      · simp [Text.utf8Bytes]
      · rintro _ _ _ rfl
        contradiction

/-- A plain name is read as a domain name or as an address, by how it ends. -/
theorem readDomain_of_isNameChar {name : List Char} (plain : ∀ c ∈ name, isNameChar c = true)
    (nonempty : name ≠ [])
    : readDomain name = if endsInNumber name then readIpv4 name else .ok (.name name) := by
  have noBracket : name.head? ≠ some '[' := by
    intro bracket
    exact (ne_of_isNameChar (plain '[' (List.mem_of_mem_head? bracket))).2.1 rfl
  have noPercent : '%' ∉ name := fun member => (ne_of_isNameChar (plain '%' member)).1 rfl
  have decoded : Text.decodeStrict? (percentDecode name) = some name := by
    rw [percentDecode_of_not_mem noPercent]
    exact Text.decodeStrict?_utf8Bytes fun c member => toNat_lt_of_isNameChar (plain c member)
  have small : ∀ c ∈ name, isSmall c = true :=
    fun c member => (Bool.and_eq_true_iff.mp (plain c member)).1
  have allowed : name.any forbiddenInDomain = false := by
    refine List.any_eq_false.mpr fun c member => ?_
    simpa using (Bool.and_eq_true_iff.mp (plain c member)).2
  have present : name.isEmpty = false := by simpa using nonempty
  simp only [readDomain, if_neg noBracket, decoded, Domain.ofText?_of_isSmall small, allowed,
    present, Bool.false_eq_true, if_false]

------------------------------------------------------------------------------------------
-- Hosts as they are written
------------------------------------------------------------------------------------------

/-- A host as reading it from a special URL gives it. -/
def IsCanonical : Host → Prop
  | name text => text ≠ [] ∧ (∀ c ∈ text, isNameChar c = true) ∧ endsInNumber text = false
  | ipv4 _ => True
  | ipv6 pieces => pieces.length = 8

/-- The host of a special URL is canonical. -/
theorem isCanonical_of_readDomain {text : List Char} {host : Host}
    (read : readDomain text = .ok host)
    : host.IsCanonical := by
  unfold readDomain at read
  -- Brackets hold an address of 128 bits; else the name decides between an address and a name.
  split at read
  · unfold readBracketed at read
    split at read
    · obtain ⟨pieces, rfl, eight⟩ := length_of_readIpv6 read
      exact eight
    · contradiction
  split at read
  · contradiction
  split at read
  · contradiction
  · rename_i domain named
    split at read
    · contradiction
    split at read
    · contradiction
    rename_i allowed nonempty
    split at read
    · unfold readIpv4 at read
      split at read
      · contradiction
      split at read
      · contradiction
      · obtain rfl := Except.ok.inj read
        trivial
    · rename_i noNumber
      obtain rfl := Except.ok.inj read
      refine ⟨by simpa using nonempty, ?_, Bool.eq_false_iff.mpr noNumber⟩
      intro c member
      have small := Domain.isSmall_of_mem_ofText? named member
      have free := List.any_eq_false.mp (Bool.eq_false_iff.mpr allowed) c member
      simp [isNameChar, small, free]

theorem isNameChar_of_mem_ipv4Text {address : UInt32} {c : Char}
    (member : c ∈ ipv4Text address)
    : isNameChar c = true := by
  rcases mem_ipv4Text member with rfl | digit
  · decide
  · have ascii : Domain.isAscii c = true := by
      simp only [Text.isDigit, Bool.and_eq_true, decide_eq_true_iff] at digit
      have high : c.toNat ≤ '9'.toNat := digit.2
      exact decide_eq_true (Nat.lt_of_le_of_lt high (by decide))
    have all := of_isAscii (p := fun c => !Text.isDigit c || isNameChar c) (by decide +kernel) ascii
    simpa [digit] using all

/-- A canonical host is read from its text. -/
theorem IsCanonical.readDomain_text {host : Host} (canonical : host.IsCanonical)
    : readDomain host.text = .ok host := by
  cases host with
  | name given =>
      obtain ⟨nonempty, plain, noNumber⟩ := canonical
      show readDomain given = _
      rw [readDomain_of_isNameChar plain nonempty, noNumber, if_neg Bool.false_ne_true]
  | ipv4 address =>
      have nonempty : ipv4Text address ≠ [] := by
        intro empty
        have last := endsInNumber_ipv4Text address
        rw [empty] at last
        contradiction
      show readDomain (ipv4Text address) = _
      rw [readDomain_of_isNameChar (fun _ member => isNameChar_of_mem_ipv4Text member) nonempty,
        endsInNumber_ipv4Text, if_pos rfl, readIpv4_ipv4Text]
  | ipv6 pieces =>
      have bracket : (ipv6 pieces).text = '[' :: (ipv6Text pieces ++ [']']) := rfl
      have closed : ('[' :: (ipv6Text pieces ++ [']'])).getLast? = some ']' := by
        rw [← List.cons_append, List.getLast?_append]
        rfl
      rw [bracket, readDomain, List.head?_cons, if_pos rfl, readBracketed, if_pos closed,
        List.drop_one, List.tail_cons, List.dropLast_concat]
      exact readIpv6_ipv6Text canonical

/-- A canonical host names a machine. -/
theorem IsCanonical.isPresent {host : Host} (canonical : host.IsCanonical)
    : host.isPresent = true := by
  cases host with
  | name text => simpa [Host.isPresent] using canonical.1
  | ipv4 _ => rfl
  | ipv6 _ => rfl

/-- A hexadecimal digit may stand in an address between brackets, and ends no part of a URL. -/
theorem ne_of_isHexDigit {c : Char} (digit : Text.isHexDigit c = true)
    : c ≠ '[' ∧ c ≠ ']' ∧ c ≠ '@' ∧ c ≠ '/' ∧ c ≠ '\\' ∧ c ≠ '?' ∧ c ≠ '#' ∧ 0x20 < c.toNat := by
  refine ⟨?_, ?_, ?_, ?_, ?_, ?_, ?_, ?_⟩
  case refine_8 =>
    refine Nat.lt_of_not_le fun low => ?_
    have none : ∀ c : Char, c.toNat < 0x21 → Text.isHexDigit c = false :=
      Text.forall_toNat_lt (by decide +kernel)
    rw [none c (Nat.lt_succ_of_le low)] at digit
    cases digit
  all_goals
    rintro rfl
    exact absurd digit (by decide)

/-- The text of a canonical host ends no part of a URL before it. -/
theorem IsCanonical.ne_of_mem_text {host : Host} (canonical : host.IsCanonical) {c : Char}
    (member : c ∈ host.text)
    : c ≠ '@' ∧ c ≠ '/' ∧ c ≠ '\\' ∧ c ≠ '?' ∧ c ≠ '#' ∧ 0x20 < c.toNat := by
  have plain : isNameChar c = true
      → c ≠ '@' ∧ c ≠ '/' ∧ c ≠ '\\' ∧ c ≠ '?' ∧ c ≠ '#' ∧ 0x20 < c.toNat :=
    fun named => (ne_of_isNameChar named).2.2.2.2
  cases host with
  | name given => exact plain (canonical.2.1 c member)
  | ipv4 address => exact plain (isNameChar_of_mem_ipv4Text member)
  | ipv6 pieces =>
      have inside : c = '[' ∨ c ∈ ipv6Text pieces ∨ c = ']' := by
        simpa [text, or_assoc] using member
      rcases inside with rfl | written | rfl
      · decide
      · rcases mem_ipv6Text written with rfl | digit
        · decide
        · exact (ne_of_isHexDigit digit).2.2
      · decide

end DiscordRest.Url.Host
