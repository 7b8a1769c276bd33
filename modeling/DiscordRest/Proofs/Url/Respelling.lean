import DiscordRest.Proofs.Form
import DiscordRest.Proofs.Url.Scheme

/-!
Queries that are spelt anew. A query in which some characters are written as percent signs stands
for the same pairs, as long as the signs that forms are made of stay as they are. This is what
reading a URL does to its query.
-/

namespace DiscordRest.Url

variable {escapes : Char → Bool}

------------------------------------------------------------------------------------------
-- Percent signs
------------------------------------------------------------------------------------------

/--
The second text is the first one with some of its characters as percent signs, but none that may
be part of one already.
-/
inductive Respells : List Char → List Char → Prop where
  | nil : Respells [] []
  | kept (c : Char) {text written : List Char} (rest : Respells text written)
    : Respells (c :: text) (c :: written)
  | escaped {c : Char} (noSign : c ≠ '%') (noDigit : Text.isHexDigit c = false)
    {text written : List Char} (rest : Respells text written)
    : Respells (c :: text) (percentChar c ++ written)

theorem isHexDigit_of_readDigits? {a b : Char} {value : Nat}
    (read : Text.readDigits? 16 [a, b] = some value)
    : Text.isHexDigit a = true ∧ Text.isHexDigit b = true := by
  have digit : ∀ {c : Char} {value : Nat}, Text.digitOf? 16 c = some value
      → Text.isHexDigit c = true := by
    intro c value read
    unfold Text.digitOf? at read
    split at read
    · rename_i found
      rw [Text.isHexDigit, found]
      rfl
    · cases read
  simp only [Text.readDigits?, Text.readDigitsFrom] at read
  split at read
  · rename_i first
    split at read
    · rename_i second
      exact ⟨digit first, digit second⟩
    · cases read
  · cases read

/-- A percent sign that no two digits follow stands for itself. -/
theorem percentDecode_sign {text : List Char}
    (alone : ∀ a b rest, text = a :: b :: rest → Text.readDigits? 16 [a, b] = none)
    : percentDecode ('%' :: text) = Text.utf8Bytes ['%'] ++ percentDecode text := by
  match text with
  | [] => rfl
  | [_] => rfl
  | a :: b :: rest =>
    rw [percentDecode, alone a b rest rfl]

namespace Respells

variable {text written : List Char}

/-- Digits and percent signs are kept. -/
theorem exists_of_kept {c : Char} (mark : c = '%' ∨ Text.isHexDigit c = true)
    (respells : Respells (c :: text) written)
    : ∃ later, written = c :: later ∧ Respells text later := by
  cases respells with
  | kept c rest => exact ⟨_, rfl, rest⟩
  | escaped noSign noDigit rest =>
      rcases mark with sign | digit
      · exact absurd sign noSign
      · rw [noDigit] at digit
        cases digit

/-- A digit that is not part of a percent sign was there before. -/
theorem exists_of_digit {a : Char} (digit : Text.isHexDigit a = true)
    (respells : Respells text (a :: written))
    : ∃ before, text = a :: before ∧ Respells before written := by
  generalize whole : a :: written = shape at respells
  cases respells with
  | nil => cases whole
  | kept c rest =>
      obtain ⟨rfl, rfl⟩ := List.cons.inj whole
      exact ⟨_, rfl, rest⟩
  | @escaped c _ _ _ _ rest =>
      obtain ⟨byte, more, _, spelt⟩ := exists_percentChar c
      rw [spelt] at whole
      obtain ⟨rfl, _⟩ := List.cons.inj whole
      exact absurd digit (by decide)

/-- A percent sign that stands for itself still does. -/
theorem alone (respells : Respells text written)
    (alone : ∀ a b rest, text = a :: b :: rest → Text.readDigits? 16 [a, b] = none)
    : ∀ a b rest, written = a :: b :: rest → Text.readDigits? 16 [a, b] = none := by
  rintro a b rest rfl
  by_contra digits
  obtain ⟨value, read⟩ := Option.ne_none_iff_exists'.mp digits
  obtain ⟨first, second⟩ := isHexDigit_of_readDigits? read
  obtain ⟨_, rfl, later⟩ := respells.exists_of_digit first
  obtain ⟨before, rfl, _⟩ := later.exists_of_digit second
  exact digits (alone a b before rfl)

/-- Texts that are spelt anew stand for the same bytes, by induction on what percent signs take. -/
theorem percentDecode_eq (respells : Respells text written)
    : percentDecode written = percentDecode text := by
  induction text using percentDecode.induct generalizing written with
  | case1 =>
      cases respells
      rfl
  | case2 a b rest value read ih =>
      obtain ⟨first, second⟩ := isHexDigit_of_readDigits? read
      obtain ⟨_, rfl, behind⟩ := respells.exists_of_kept (.inl rfl)
      obtain ⟨_, rfl, later⟩ := behind.exists_of_kept (.inr first)
      obtain ⟨_, rfl, last⟩ := later.exists_of_kept (.inr second)
      simp only [percentDecode, read, ih last]
  | case3 a b rest read ih =>
      obtain ⟨_, rfl, behind⟩ := respells.exists_of_kept (.inl rfl)
      have here : ∀ c d more, a :: b :: rest = c :: d :: more → Text.readDigits? 16 [c, d] = none := by
        rintro c d more ⟨⟩
        exact read
      rw [percentDecode_sign (behind.alone here), percentDecode_sign here, ih behind]
  | case4 c rest other ih =>
      by_cases sign : c = '%'
      · subst sign
        obtain ⟨_, rfl, behind⟩ := respells.exists_of_kept (.inl rfl)
        have here : ∀ a b more, rest = a :: b :: more → Text.readDigits? 16 [a, b] = none := by
          rintro a b more rfl
          exact (other a b more rfl rfl).elim
        rw [percentDecode_sign (behind.alone here), percentDecode_sign here, ih behind]
      · rw [Form.percentDecode_cons sign]
        cases respells with
        | kept c behind => rw [Form.percentDecode_cons sign, ih behind]
        | escaped noSign noDigit behind =>
            rw [percentChar, Form.percentDecode_percents, ih behind]

end Respells

------------------------------------------------------------------------------------------
-- Forms
------------------------------------------------------------------------------------------

/-- The signs that forms and percent signs are made of stand for themselves. -/
def SparesForms (escapes : Char → Bool) : Prop :=
  ∀ c, escapes c = true → c ∉ ['%', '+', '&', '='] ∧ Text.isHexDigit c = false

theorem sparesForms_escapesSpecialQuery : SparesForms escapesSpecialQuery := by
  have plain : ∀ c, escapesSpecialQuery c = true → c ∉ ['%', '+', '&', '='] := by
    intro c escaped mark
    simp only [List.mem_cons, List.not_mem_nil, or_false] at mark
    rcases mark with rfl | rfl | rfl | rfl <;> exact absurd escaped (by decide)
  intro c escaped
  refine ⟨plain c escaped, Bool.eq_false_iff.mpr fun digit => ?_⟩
  have kept : ∀ c : Char, c.toNat < 128 → Text.isHexDigit c = true → escapesSpecialQuery c = false :=
    Text.forall_toNat_lt (by decide +kernel)
  rw [kept c (Text.toNat_lt_of_isHexDigit digit) digit] at escaped
  cases escaped

theorem sparesForms_escapesQuery : SparesForms escapesQuery := by
  intro c escaped
  exact sparesForms_escapesSpecialQuery c (by simp [escapesSpecialQuery, escaped])

theorem percentEncode_cons (escapes : Char → Bool) (c : Char) (rest : List Char)
    : percentEncode escapes (c :: rest)
      = (if escapes c then percentChar c else [c]) ++ percentEncode escapes rest :=
  rfl

/-- Under a form's eyes an encoded text is spelt anew, by induction on it. -/
theorem respells_percentEncode (spares : SparesForms escapes) (text : List Char)
    : Respells (text.map Form.unplus) ((percentEncode escapes text).map Form.unplus) := by
  induction text with
  | nil => exact .nil
  | cons c rest ih =>
      rw [percentEncode_cons, List.map_append, List.map_cons]
      cases escaped : escapes c with
      | false => exact .kept _ ih
      | true =>
          obtain ⟨noMark, noDigit⟩ := spares c escaped
          have noPlus : c ≠ '+' := by rintro rfl; exact noMark (by decide)
          have noSign : c ≠ '%' := by rintro rfl; exact noMark (by decide)
          have whole : (percentChar c).map Form.unplus = percentChar c := by
            refine (List.map_congr_left fun d member => ?_).trans (List.map_id _)
            exact if_neg (Form.ne_of_mem_percentChar member).1
          rw [if_pos rfl, whole, Form.unplus, if_neg noPlus]
          exact .escaped noSign noDigit ih

theorem decode_percentEncode (spares : SparesForms escapes) (part : List Char)
    : Form.decode (percentEncode escapes part) = Form.decode part := by
  rw [Form.decode_eq, Form.decode_eq, (respells_percentEncode spares part).percentDecode_eq]

theorem isEmpty_percentEncode (escapes : Char → Bool) (part : List Char)
    : (percentEncode escapes part).isEmpty = part.isEmpty := by
  cases part with
  | nil => rfl
  | cons c rest =>
      rw [percentEncode_cons]
      split
      · obtain ⟨byte, more, _, spelt⟩ := exists_percentChar c
        rw [spelt]
        rfl
      · rfl

/-- A mark that is neither escaped nor used in percent signs cuts an encoded text as before. -/
theorem cut_percentEncode {mark : Char} (plain : escapes mark = false)
    (unused : ∀ c, mark ∉ percentChar c) (text : List Char)
    : cut mark (percentEncode escapes text)
      = (percentEncode escapes (cut mark text).1,
          (cut mark text).2.map (percentEncode escapes)) := by
  induction text with
  | nil => rfl
  | cons c rest ih =>
      rw [percentEncode_cons]
      by_cases same : c = mark
      · subst same
        simp [plain, cut, percentEncode]
      · have free : mark ∉ (if escapes c then percentChar c else [c]) := by
          split
          · exact unused c
          · simpa using Ne.symm same
        rw [cut_append free, ih, cut, if_neg same, percentEncode_cons]

theorem percentEncode_intercalate {mark : Char} (plain : escapes mark = false)
    (parts : List (List Char))
    : percentEncode escapes ([mark].intercalate parts)
      = [mark].intercalate (parts.map (percentEncode escapes)) := by
  induction parts with
  | nil => rfl
  | cons part rest ih =>
      cases rest with
      | nil => simp [List.intercalate_singleton]
      | cons next more =>
          rw [List.map_cons] at ih
          rw [List.intercalate_cons_cons, List.map_cons, List.map_cons, List.intercalate_cons_cons,
            ← ih]
          simp [percentEncode, plain]

/-- Parts between such marks are encoded one by one. -/
theorem splitAt_percentEncode {mark : Char} (plain : escapes mark = false)
    (unused : ∀ c, mark ∉ percentChar c) (text : List Char)
    : splitAt mark (percentEncode escapes text)
      = (splitAt mark text).map (percentEncode escapes) := by
  have free : ∀ part ∈ (splitAt mark text).map (percentEncode escapes), mark ∉ part := by
    intro part among member
    obtain ⟨given, piece, rfl⟩ := List.mem_map.mp among
    obtain ⟨c, inside, written⟩ := List.mem_flatMap.mp member
    split at written
    · exact unused c written
    · obtain rfl := List.mem_singleton.mp written
      exact absurd (not_of_mem_splitWhere piece inside) (by simp)
  have nonempty : (splitAt mark text).map (percentEncode escapes) ≠ [] := by
    simpa using splitAt_ne_nil mark text
  have joined : percentEncode escapes text
      = [mark].intercalate ((splitAt mark text).map (percentEncode escapes)) := by
    rw [← percentEncode_intercalate plain, intercalate_splitAt]
  rw [joined, splitAt_intercalate free nonempty]

/-- A query and its encoding have the same pairs. -/
theorem pairs_percentEncode (spares : SparesForms escapes) (query : List Char)
    : Form.pairs (percentEncode escapes query) = Form.pairs query := by
  have plain : ∀ c ∈ ['%', '+', '&', '='], escapes c = false := by
    intro c mark
    refine Bool.eq_false_iff.mpr fun escaped => ?_
    exact (spares c escaped).1 mark
  have ampersand := splitAt_percentEncode (plain '&' (by decide))
    (fun c member => (Form.ne_of_mem_percentChar member).2.1 rfl) query
  have pair : ∀ part, Form.pairOf (percentEncode escapes part) = Form.pairOf part := by
    intro part
    have equals := cut_percentEncode (plain '=' (by decide))
      (fun c member => (Form.ne_of_mem_percentChar member).2.2 rfl) part
    rw [Form.pairOf, Form.pairOf, equals, decode_percentEncode spares]
    cases (cut '=' part).2 with
    | none => rfl
    | some value => simp only [Option.map_some, Option.getD_some, decode_percentEncode spares]
  rw [Form.pairs_eq, Form.pairs_eq, ampersand, List.filter_map, List.map_map]
  simp only [Function.comp_def, isEmpty_percentEncode, pair]

------------------------------------------------------------------------------------------
-- Queries of URLs
------------------------------------------------------------------------------------------

/-- The query in the text of a URL: from the first question mark on, up to the fragment. -/
def writtenQuery (text : String) : List Char :=
  (cutEnds (clean text.toList)).2.1.getD []

/-- The query of a URL that was read is the one in its text, percent-encoded. -/
theorem query_of_ofText {text : String} {url : Url} (read : ofText text = .ok url)
    : url.query = (cutEnds (clean text.toList)).2.1.map (encodeQuery url.scheme) := by
  obtain ⟨rest, found, query⟩ := exists_of_ofChars read
  obtain ⟨name, whole, -, -, named⟩ := exists_of_readScheme? found
  have free : ∀ c ∈ name ++ [':'], c ≠ '?' ∧ c ≠ '#' := by
    intro c member
    rcases List.mem_append.mp member with inside | colon
    · have named := named c inside
      constructor
      all_goals
        rintro rfl
        exact absurd named (by decide)
    · rw [List.mem_singleton.mp colon]
      decide
  rw [query, whole, List.append_cons, cutEnds_append free]

/-- Reading a URL does not change the pairs of its query. -/
theorem pairs_query_of_ofText {text : String} {url : Url} (read : ofText text = .ok url)
    : Form.pairs (url.query.getD []) = Form.pairs (writtenQuery text) := by
  have encoded : ∀ query, Form.pairs (encodeQuery url.scheme query) = Form.pairs query := by
    intro query
    unfold encodeQuery
    split
    · exact pairs_percentEncode sparesForms_escapesSpecialQuery query
    · exact pairs_percentEncode sparesForms_escapesQuery query
  rw [query_of_ofText read, writtenQuery]
  cases (cutEnds (clean text.toList)).2.1 with
  | none => rfl
  | some query => exact encoded query

end DiscordRest.Url
