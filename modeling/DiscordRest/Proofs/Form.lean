import DiscordRest.Form
import DiscordRest.Proofs.Text.Utf8
import DiscordRest.Proofs.Url.Authority

/-!
Form encoding and back: every text is decoded to what it was, and pairs that are added to a query
are found behind those that were in it.
-/

namespace DiscordRest.Form

------------------------------------------------------------------------------------------
-- Texts
------------------------------------------------------------------------------------------

/-- A plus sign as the space that it stands for. -/
def unplus (c : Char) : Char :=
  if c = '+' then ' ' else c

theorem decode_eq (part : List Char)
    : decode part = String.ofList (Text.decodeLenient (Url.percentDecode (part.map unplus))) :=
  rfl

theorem percentDecode_cons {c : Char} (other : c ≠ '%') (rest : List Char)
    : Url.percentDecode (c :: rest) = Text.utf8Bytes [c] ++ Url.percentDecode rest := by
  rw [Url.percentDecode]
  rintro _ _ _ rfl
  contradiction

theorem percentDecode_percents (bytes : List UInt8) (rest : List Char)
    : Url.percentDecode ((bytes.flatMap fun b => '%' :: Text.hexPair b.toNat) ++ rest)
      = bytes ++ Url.percentDecode rest := by
  have pair : ∀ n < 256, Text.readDigits? 16 (Text.hexPair n) = some n := by decide +kernel
  induction bytes with
  | nil => rfl
  | cons b bytes ih =>
      have found := pair b.toNat b.toNat_lt
      rw [List.flatMap_cons, List.append_assoc]
      simp only [Text.hexPair, List.cons_append, List.nil_append] at found ih ⊢
      rw [Url.percentDecode, found, ih]
      simp

theorem ne_of_mem_percentChar {c d : Char} (member : d ∈ Url.percentChar c)
    : d ≠ '+' ∧ d ≠ '&' ∧ d ≠ '=' := by
  have digits : ∀ n < 16, Text.hexPair.upperHexDigit n ≠ '+'
      ∧ Text.hexPair.upperHexDigit n ≠ '&' ∧ Text.hexPair.upperHexDigit n ≠ '=' := by
    decide +kernel
  rcases Url.mem_percentChar member with rfl | ⟨n, below, rfl⟩
  · decide
  · exact digits n below

theorem ne_of_isPlain {c : Char} (plain : isPlain c = true)
    : c ≠ '+' ∧ c ≠ '&' ∧ c ≠ '=' ∧ c ≠ '%' := by
  refine ⟨?_, ?_, ?_, ?_⟩
  all_goals
    rintro rfl
    exact absurd plain (by decide)

/-- An encoded text is decoded to the bytes of the text, by the kinds of its characters. -/
theorem percentDecode_encode (text : List Char)
    : Url.percentDecode ((encode (String.ofList text)).map unplus) = Text.utf8Bytes text := by
  rw [encode, String.toList_ofList]
  induction text with
  | nil => rfl
  | cons c rest ih =>
      have bytes : Text.utf8Bytes (c :: rest) = Text.utf8Bytes [c] ++ Text.utf8Bytes rest := by
        simp [Text.utf8Bytes]
      rw [List.flatMap_cons, List.map_append, bytes, ← ih]
      split
      · rename_i space
        rw [space]
        exact percentDecode_cons (by decide) _
      split
      · rename_i plain
        obtain ⟨noPlus, _, _, noPercent⟩ := ne_of_isPlain plain
        rw [List.map_singleton, unplus, if_neg noPlus]
        exact percentDecode_cons noPercent _
      · have kept : (Url.percentChar c).map unplus = Url.percentChar c := by
          refine (List.map_congr_left ?_).trans (List.map_id _)
          intro d member
          exact if_neg (ne_of_mem_percentChar member).1
        rw [kept]
        exact percentDecode_percents _ _

/-- An encoded text is decoded to what it was. -/
theorem decode_encode (text : String) : decode (encode text) = text := by
  have bytes := percentDecode_encode text.toList
  rw [String.ofList_toList] at bytes
  rw [decode_eq, bytes, Text.decodeLenient_utf8Bytes, String.ofList_toList]

------------------------------------------------------------------------------------------
-- Pairs
------------------------------------------------------------------------------------------

theorem ne_of_mem_encode {text : String} {c : Char} (member : c ∈ encode text)
    : c ≠ '&' ∧ c ≠ '=' := by
  obtain ⟨given, _, written⟩ := List.mem_flatMap.mp member
  split at written
  · rw [List.mem_singleton.mp written]
    decide
  split at written
  · rename_i plain
    rw [List.mem_singleton.mp written]
    exact ⟨(ne_of_isPlain plain).2.1, (ne_of_isPlain plain).2.2.1⟩
  · exact (ne_of_mem_percentChar written).2

/-- The pair that a part of a query stands for. -/
def pairOf (part : List Char) : String × String :=
  (decode (Url.cut '=' part).1, decode ((Url.cut '=' part).2.getD []))

theorem pairs_eq (query : List Char)
    : pairs query
      = ((Url.splitAt '&' query).filter fun part => !part.isEmpty).map pairOf :=
  rfl

theorem pairOf_encodePair (pair : String × String) : pairOf (encodePair pair) = pair := by
  have free : '=' ∉ encode pair.1 := fun member => (ne_of_mem_encode member).2 rfl
  have cutAt : Url.cut '=' (encodePair pair) = (encode pair.1, some (encode pair.2)) := by
    rw [encodePair, List.append_assoc, Url.cut_append free]
    simp [Url.cut]
  rw [pairOf, cutAt]
  simp only [Option.getD_some, decode_encode]

theorem separator_not_mem_encodePair (pair : String × String) : '&' ∉ encodePair pair := by
  intro member
  simp only [encodePair, List.mem_append, List.mem_singleton] at member
  rcases member with (name | equals) | value
  · exact (ne_of_mem_encode name).1 rfl
  · exact absurd equals (by decide)
  · exact (ne_of_mem_encode value).1 rfl

/-- A pair that is added to a query is found behind those that are in it. -/
theorem pairs_append_encodePair (query : List Char) (pair : String × String)
    : pairs (query ++ (if query.isEmpty then [] else ['&']) ++ encodePair pair)
      = pairs query ++ [pair] := by
  have present : (!(encodePair pair).isEmpty) = true := by simp [encodePair]
  have last := Url.splitAt_of_not_mem (separator_not_mem_encodePair pair)
  cases query with
  | nil =>
      rw [List.isEmpty_nil, if_pos rfl, List.nil_append, List.nil_append, pairs_eq, last]
      simp [present, pairOf_encodePair, pairs_eq, Url.splitAt, Url.splitWhere]
  | cons c rest =>
      rw [List.isEmpty_cons, if_neg Bool.false_ne_true, List.append_assoc, List.singleton_append,
        pairs_eq, Url.splitAt_append_cons, last, List.filter_append, List.map_append, ← pairs_eq]
      simp [present, pairOf_encodePair]

/-- Pairs that are added to a query are found behind those that are in it, by induction on them. -/
theorem pairs_extend (query : List Char) (added : List (String × String))
    : pairs (extend query added) = pairs query ++ added := by
  induction added generalizing query with
  | nil => rw [extend, List.append_nil]
  | cons pair rest ih =>
      rw [extend, ih, pairs_append_encodePair, List.append_assoc, List.singleton_append]

end DiscordRest.Form
