import DiscordRest.Proofs.Text.Numeral
import DiscordRest.Proofs.Url.Splitting
import DiscordRest.Url.Host

/-!
Addresses as they are written: the text of an address of 32 or of 128 bits is read as this address,
the run of zeros that it leaves out included.
-/

namespace DiscordRest.Url.Host

------------------------------------------------------------------------------------------
-- Addresses of 32 bits
------------------------------------------------------------------------------------------

/-- The four bytes of an address. -/
def bytes (address : UInt32) : List Nat :=
  let n := address.toNat
  [n / 16777216, n / 65536 % 256, n / 256 % 256, n % 256]

/-- An address is written as its bytes between points. -/
theorem ipv4Text_eq (address : UInt32)
    : ipv4Text address = ['.'].intercalate ((bytes address).map (Nat.toDigits 10)) := by
  simp [ipv4Text, bytes, Text.decimal]

theorem point_not_mem_toDigits (n : Nat) : '.' ∉ Nat.toDigits 10 n := by
  intro member
  exact absurd (Text.isDigit_of_mem_toDigits member) (by decide)

theorem splitAt_ipv4Text (address : UInt32)
    : splitAt '.' (ipv4Text address) = (bytes address).map (Nat.toDigits 10) := by
  rw [ipv4Text_eq]
  refine splitAt_intercalate ?_ (by simp [bytes])
  intro part member
  obtain ⟨n, _, rfl⟩ := List.mem_map.mp member
  exact point_not_mem_toDigits n

/-- No byte of a written address is empty. -/
theorem dropEmptyEnd_bytes (address : UInt32)
    : dropEmptyEnd ((bytes address).map (Nat.toDigits 10))
      = (bytes address).map (Nat.toDigits 10) := by
  rw [dropEmptyEnd, if_neg]
  simp [bytes, Nat.toDigits_ne_nil]

/-- A decimal numeral is read as a number; it has no leading zero that would make it octal. -/
theorem ipv4Number?_toDigits (n : Nat) : ipv4Number? (Nat.toDigits 10 n) = some n := by
  rcases Nat.eq_zero_or_pos n with rfl | positive
  · rfl
  · have first : (Nat.toDigits 10 n).head? ≠ some '0' :=
      Text.head?_toDigits_ne_zero (by decide) (by decide) positive
    have value : Text.readDigits? 10 (Nat.toDigits 10 n) = some n :=
      Text.readDigits?_toDigits (by decide) (by decide) n
    obtain ⟨c, rest, digits⟩ := List.exists_cons_of_ne_nil (Nat.toDigits_ne_nil (b := 10) (n := n))
    rw [digits] at first value ⊢
    unfold ipv4Number?
    split
    · contradiction
    · rename_i same
      exact absurd (congrArg List.head? same) first
    · rename_i same
      exact absurd (congrArg List.head? same) first
    · rename_i same
      exact absurd (congrArg List.head? same) first
    · exact value

theorem endsInNumber_ipv4Text (address : UInt32) : endsInNumber (ipv4Text address) = true := by
  have number : (ipv4Number? (Nat.toDigits 10 (address.toNat % 256))).isSome = true := by
    rw [ipv4Number?_toDigits]
    rfl
  have last : (dropEmptyEnd (splitAt '.' (ipv4Text address))).getLast?
      = some (Nat.toDigits 10 (address.toNat % 256)) := by
    rw [splitAt_ipv4Text, dropEmptyEnd_bytes]
    rfl
  simp only [endsInNumber, last, number, Bool.or_true]

/-- Four bytes make up a number. -/
theorem ipv4Value?_four {a b c d : Nat} (first : a < 256) (second : b < 256) (third : c < 256)
    (last : d < 256)
    : ipv4Value? [a, b, c, d] = some (((a * 256 + b) * 256 + c) * 256 + d) := by
  have small : ¬(255 < c ∨ 255 < b ∨ 255 < a) := by omega
  simp [ipv4Value?, Nat.not_le.mpr last]
  omega

/-- The bytes of an address make up the address. -/
theorem ipv4Value?_bytes (address : UInt32)
    : ipv4Value? (bytes address) = some address.toNat := by
  have bounded := address.toNat_lt
  rw [bytes, ipv4Value?_four (by omega) (by omega) (by omega) (by omega)]
  congr 1
  omega

/-- A written address of 32 bits is read as this address. -/
theorem readIpv4_ipv4Text (address : UInt32)
    : readIpv4 (ipv4Text address) = .ok (.ipv4 address) := by
  have numbers : ((bytes address).map (Nat.toDigits 10)).mapM ipv4Number?
      = some (bytes address) := by
    simp [bytes, ipv4Number?_toDigits]
  simp only [readIpv4, splitAt_ipv4Text, dropEmptyEnd_bytes, numbers, ipv4Value?_bytes,
    UInt32.ofNat_toNat]

theorem mem_ipv4Text {address : UInt32} {c : Char} (member : c ∈ ipv4Text address)
    : c = '.' ∨ Text.isDigit c = true := by
  rw [ipv4Text_eq] at member
  rcases mem_intercalate member with point | ⟨part, among, inside⟩
  · exact Or.inl (List.mem_singleton.mp point)
  · obtain ⟨n, _, rfl⟩ := List.mem_map.mp among
    exact Or.inr (Text.isDigit_of_mem_toDigits inside)

------------------------------------------------------------------------------------------
-- Runs of zeros
------------------------------------------------------------------------------------------

/-- A list starts with as many zeros as it is said to, by induction on the list. -/
theorem take_leadingZeros (pieces : List UInt16)
    : pieces.take (leadingZeros pieces) = List.replicate (leadingZeros pieces) 0 := by
  induction pieces with
  | nil => rfl
  | cons piece rest ih =>
      cases zero : piece == 0 with
      | false => simp [leadingZeros, zero]
      | true =>
          have count : leadingZeros (piece :: rest) = leadingZeros rest + 1 := by
            simp [leadingZeros, zero]
          rw [count, List.take_succ_cons, ih, List.replicate_succ, eq_of_beq zero]

/-- A run of zeros in a list: where it starts and how long it is. -/
def IsRun (pieces : List UInt16) (run : Nat × Nat) : Prop :=
  pieces = pieces.take run.1 ++ List.replicate run.2 0 ++ pieces.drop (run.1 + run.2)

/-- The zeros at the start of what is left of a list are a run of it. -/
theorem isRun_leadingZeros (pieces : List UInt16) (start : Nat)
    : IsRun pieces (start, leadingZeros (pieces.drop start)) := by
  rw [IsRun, ← take_leadingZeros, List.append_assoc, ← List.drop_drop, List.take_append_drop,
    List.take_append_drop]

/-- The longest run of zeros is one. -/
theorem isRun_longestZeros (pieces : List UInt16) : IsRun pieces (longestZeros pieces) := by
  have search : ∀ (starts : List Nat) (best : Nat × Nat),
      IsRun pieces best
      → IsRun pieces (starts.foldl
          (fun best start =>
            let length := leadingZeros (pieces.drop start)
            if best.2 < length then (start, length) else best)
          best) := by
    intro starts
    induction starts with
    | nil => exact fun _ run => run
    | cons start rest ih =>
        intro best run
        refine ih _ ?_
        dsimp only
        split
        · exact isRun_leadingZeros pieces start
        · exact run
  -- The search begins with an empty run, and every better one is a run as well.
  refine search _ (0, 0) ?_
  simp [IsRun]

------------------------------------------------------------------------------------------
-- Addresses of 128 bits
------------------------------------------------------------------------------------------

/-- The numerals of pieces. -/
def numerals (pieces : List UInt16) : List (List Char) :=
  pieces.map fun piece => Nat.toDigits 16 piece.toNat

/-- Pieces are written as numerals between colons. -/
theorem piecesText_eq (pieces : List UInt16)
    : piecesText pieces = [':'].intercalate (numerals pieces) := by
  simp [piecesText, numerals, Text.hexadecimal, Function.comp_def]

/-- A hexadecimal numeral has neither colons nor points. -/
theorem ne_of_mem_numerals {pieces : List UInt16} {part : List Char}
    (among : part ∈ numerals pieces) {c : Char} (member : c ∈ part)
    : c ≠ ':' ∧ c ≠ '.' := by
  obtain ⟨piece, _, rfl⟩ := List.mem_map.mp among
  have digits := Text.forall_mem_toDigits (p := fun c => c != ':' && c != '.') (by decide)
    (by decide) (by decide) member
  simpa using digits

theorem ne_nil_of_mem_numerals {pieces : List UInt16} {part : List Char}
    (among : part ∈ numerals pieces)
    : part ≠ [] := by
  obtain ⟨piece, _, rfl⟩ := List.mem_map.mp among
  exact Nat.toDigits_ne_nil

theorem piece?_toDigits (piece : UInt16)
    : piece? (Nat.toDigits 16 piece.toNat) = some piece.toNat := by
  have short : (Nat.toDigits 16 piece.toNat).length ≤ 4 :=
    (Nat.length_toDigits_le_iff (by decide) (by decide)).mpr piece.toNat_lt
  rw [piece?, if_neg (Nat.not_lt.mpr short),
    Text.readDigits?_toDigits (by decide) (by decide)]

/-- Pieces are read from their numerals, by induction on the pieces. -/
theorem go_numerals (embeds : Bool) (pieces : List UInt16)
    : pieces?.go embeds (numerals pieces) = some (pieces.map UInt16.toNat) := by
  induction pieces with
  | nil => rfl
  | cons piece rest ih =>
      cases rest with
      | nil =>
          have noPoint : (Nat.toDigits 16 piece.toNat).contains '.' = false := by
            refine Bool.eq_false_iff.mpr fun point => ?_
            have member := List.contains_iff_mem.mp point
            have among : Nat.toDigits 16 piece.toNat ∈ numerals [piece] := List.mem_cons_self
            exact (ne_of_mem_numerals among member).2 rfl
          simp only [numerals, List.map_cons, List.map_nil, pieces?.go, noPoint, Bool.and_false,
            piece?_toDigits, Option.map_some]
          rfl
      | cons next more =>
          have later : pieces?.go embeds
              (Nat.toDigits 16 next.toNat :: more.map fun piece => Nat.toDigits 16 piece.toNat)
              = some ((next :: more).map UInt16.toNat) :=
            ih
          simp only [numerals, List.map_cons, pieces?.go, piece?_toDigits]
          rw [later]
          rfl

theorem pieces?_piecesText (embeds : Bool) (pieces : List UInt16)
    : pieces? embeds (piecesText pieces) = some (pieces.map UInt16.toNat) := by
  cases pieces with
  | nil => rfl
  | cons piece rest =>
      have parts : splitAt ':' (piecesText (piece :: rest)) = numerals (piece :: rest) := by
        rw [piecesText_eq]
        refine splitAt_intercalate ?_ (List.cons_ne_nil _ _)
        intro part among member
        exact (ne_of_mem_numerals among member).1 rfl
      have nonempty : (piecesText (piece :: rest)).isEmpty = false := by
        refine Bool.eq_false_iff.mpr fun empty => ?_
        rw [List.isEmpty_iff.mp empty] at parts
        exact Nat.toDigits_ne_nil (List.cons.inj parts).1.symm
      rw [pieces?, nonempty, parts]
      exact go_numerals embeds (piece :: rest)

/-- No pair of colons starts at a character that is no colon. -/
theorem splitColons_cons {c : Char} (noColon : c ≠ ':') (rest : List Char)
    : splitColons (c :: rest) = (splitColons rest).map fun parts => (c :: parts.1, parts.2) := by
  rw [splitColons]
  rintro _ rfl
  contradiction

/-- No pair of colons starts at a single colon. -/
theorem splitColons_colon {c : Char} (noColon : c ≠ ':') (rest : List Char)
    : splitColons (':' :: c :: rest)
      = (splitColons (c :: rest)).map fun parts => (':' :: parts.1, parts.2) := by
  rw [splitColons]
  rintro _ _ same
  exact absurd (List.cons.inj same).1 noColon

/-- A text without colons is passed over. -/
theorem splitColons_append {text : List Char} (free : ∀ c ∈ text, c ≠ ':') (rest : List Char)
    : splitColons (text ++ rest)
      = (splitColons rest).map fun parts => (text ++ parts.1, parts.2) := by
  induction text with
  | nil => simp
  | cons c text ih =>
      rw [List.cons_append, splitColons_cons (free c List.mem_cons_self),
        ih fun d member => free d (List.mem_cons_of_mem c member), Option.map_map]
      rfl

/-- Written pieces are passed over: between them no two colons stand side by side. -/
theorem splitColons_piecesText_append (pieces : List UInt16) (rest : List Char)
    : splitColons (piecesText pieces ++ rest)
      = (splitColons rest).map fun parts => (piecesText pieces ++ parts.1, parts.2) := by
  rw [piecesText_eq]
  have plain : ∀ part ∈ numerals pieces, part ≠ [] ∧ ∀ c ∈ part, c ≠ ':' :=
    fun part among =>
      ⟨ne_nil_of_mem_numerals among, fun c member => (ne_of_mem_numerals among member).1⟩
  generalize numerals pieces = parts at plain
  induction parts with
  | nil => simp
  | cons part others ih =>
      have first := (plain part List.mem_cons_self).2
      cases others with
      | nil =>
          rw [List.intercalate_singleton]
          exact splitColons_append first rest
      | cons next more =>
          have later := ih fun part among => plain part (List.mem_cons_of_mem _ among)
          obtain ⟨nonempty, free⟩ := plain next (List.mem_cons_of_mem _ List.mem_cons_self)
          -- The colon between two pieces is followed by a digit.
          obtain ⟨c, digits, text⟩
            : ∃ c digits, [':'].intercalate (next :: more) = c :: digits ∧ c ≠ ':' := by
            obtain ⟨c, digits, rfl⟩ := List.exists_cons_of_ne_nil nonempty
            exact ⟨c, _, List.intercalate_cons_cons_left, free c List.mem_cons_self⟩
          rw [List.intercalate_cons_cons, List.append_assoc, List.append_assoc,
            splitColons_append first, text.1, List.singleton_append, List.cons_append,
            splitColons_colon text.2, ← List.cons_append, ← text.1, later, Option.map_map,
            Option.map_map]
          simp [Function.comp_def]

/-- The numbers of pieces make up the pieces. -/
theorem map_ofNat_map_toNat (pieces : List UInt16)
    : (pieces.map UInt16.toNat).map UInt16.ofNat = pieces := by
  rw [List.map_map]
  refine (List.map_congr_left ?_).trans (List.map_id pieces)
  intro piece _
  exact UInt16.ofNat_toNat

/-- A written address of 128 bits is read as this address, its run of zeros put back in. -/
theorem readIpv6_ipv6Text {pieces : List UInt16} (eight : pieces.length = 8)
    : readIpv6 (ipv6Text pieces) = .ok (.ipv6 pieces) := by
  have run := isRun_longestZeros pieces
  unfold ipv6Text
  generalize longestZeros pieces = zeros at run
  obtain ⟨start, length⟩ := zeros
  dsimp only
  split
  · have noPair := splitColons_piecesText_append pieces []
    rw [List.append_nil] at noPair
    rw [readIpv6, noPair]
    simp only [splitColons, Option.map_none, pieces?_piecesText, Option.bind_some,
      List.length_map, eight, if_true, map_ofNat_map_toNat]
  · rename_i long
    -- What is missing from eight pieces is just the run that was left out.
    rw [IsRun] at run
    dsimp only at run
    have count := congrArg List.length run
    rw [List.length_append, List.length_append, List.length_replicate] at count
    have pair : splitColons (piecesText (pieces.take start) ++ [':', ':']
        ++ piecesText (pieces.drop (start + length)))
        = some (piecesText (pieces.take start), piecesText (pieces.drop (start + length))) := by
      rw [List.append_assoc, splitColons_piecesText_append]
      simp [splitColons]
    have room : (pieces.take start).length + (pieces.drop (start + length)).length ≤ 7 := by
      omega
    have missing : 8 - (pieces.take start).length - (pieces.drop (start + length)).length
        = length := by
      omega
    rw [readIpv6, pair]
    simp only [pieces?_piecesText, List.length_map, room, if_true, missing]
    rw [List.map_append, List.map_append, map_ofNat_map_toNat, map_ofNat_map_toNat,
      List.map_replicate]
    exact congrArg (fun pieces => Except.ok (Host.ipv6 pieces)) run.symm

/-- An address that was read has eight pieces. -/
theorem length_of_readIpv6 {text : List Char} {host : Host} (read : readIpv6 text = .ok host)
    : ∃ pieces, host = .ipv6 pieces ∧ pieces.length = 8 := by
  unfold readIpv6 at read
  dsimp only at read
  split at read
  · contradiction
  · rename_i numbers found
    refine ⟨numbers.map UInt16.ofNat, (Except.ok.inj read).symm, ?_⟩
    rw [List.length_map]
    split at found
    · obtain ⟨all, _, whole⟩ := Option.bind_eq_some_iff.mp found
      split at whole
      · rename_i eight
        rw [← Option.some.inj whole, eight]
      · contradiction
    · split at found
      · split at found
        · obtain rfl := Option.some.inj found
          rw [List.length_append, List.length_append, List.length_replicate]
          omega
        · contradiction
      · contradiction

theorem mem_ipv6Text {pieces : List UInt16} {c : Char} (member : c ∈ ipv6Text pieces)
    : c = ':' ∨ Text.isHexDigit c = true := by
  have inPieces : ∀ {pieces : List UInt16}, c ∈ piecesText pieces
      → c = ':' ∨ Text.isHexDigit c = true := by
    intro pieces inside
    rw [piecesText_eq] at inside
    rcases mem_intercalate inside with colon | ⟨part, among, digit⟩
    · exact Or.inl (List.mem_singleton.mp colon)
    · obtain ⟨piece, _, rfl⟩ := List.mem_map.mp among
      exact Or.inr (Text.forall_mem_toDigits (by decide) (by decide) (by decide) digit)
  unfold ipv6Text at member
  dsimp only at member
  split at member
  · exact inPieces member
  · rcases List.mem_append.mp member with before | after
    · rcases List.mem_append.mp before with first | colons
      · exact inPieces first
      · simp only [List.mem_cons, List.not_mem_nil, or_false, or_self] at colons
        exact Or.inl colons
    · exact inPieces after

end DiscordRest.Url.Host
