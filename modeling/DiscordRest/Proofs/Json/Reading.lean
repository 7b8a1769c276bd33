import DiscordRest.Proofs.Json.Scalars

/-!
Values are read back from their compact text. Without floating-point numbers in it, the text of a
value is read into a draft that shows this value, to any depth that the value does not exceed.
-/

namespace DiscordRest.Json

------------------------------------------------------------------------------------------
-- Values
------------------------------------------------------------------------------------------

namespace Value

/-- Whether there are no floating-point numbers in a value. -/
def isExact : Value → Bool
  | number (.real _) => false
  | array items => itemsExact items
  | object members => membersExact members
  | _ => true
where
  /-- Whether there are none in the items of an array. -/
  itemsExact : List Value → Bool
    | [] => true
    | item :: rest => item.isExact && itemsExact rest
  /-- Whether there are none in the members of an object. -/
  membersExact : List (String × Value) → Bool
    | [] => true
    | (_, value) :: rest => value.isExact && membersExact rest

/-- How deep arrays and objects nest in a value. -/
def depth : Value → Nat
  | array items => itemsDepth items + 1
  | object members => membersDepth members + 1
  | _ => 0
where
  /-- How deep they nest in the items of an array. -/
  itemsDepth : List Value → Nat
    | [] => 0
    | item :: rest => max item.depth (itemsDepth rest)
  /-- How deep they nest in the members of an object. -/
  membersDepth : List (String × Value) → Nat
    | [] => 0
    | (_, value) :: rest => max value.depth (membersDepth rest)

theorem membersExact_iff {members : List (String × Value)}
    : isExact.membersExact members = true ↔ ∀ member ∈ members, member.2.isExact = true := by
  induction members with
  | nil => simp [isExact.membersExact]
  | cons member rest ih => simp [isExact.membersExact, ih]

theorem membersDepth_lt_iff {members : List (String × Value)} {bound : Nat} (positive : 0 < bound)
    : depth.membersDepth members < bound ↔ ∀ member ∈ members, member.2.depth < bound := by
  induction members with
  | nil => simp [depth.membersDepth, positive]
  | cons member rest ih => rw [depth.membersDepth, Nat.max_lt, ih, List.forall_mem_cons]

end Value

------------------------------------------------------------------------------------------
-- Drafts
------------------------------------------------------------------------------------------

namespace Draft

/-- Whether no part of a text was passed over in a draft of it. -/
def isWhole : Draft → Bool
  | array _ items _ => itemsWhole items
  | object _ members _ => membersWhole members
  | skipped _ => false
  | _ => true
where
  /-- Whether none was passed over in the items of an array. -/
  itemsWhole : List Draft → Bool
    | [] => true
    | item :: rest => item.isWhole && itemsWhole rest
  /-- Whether none was passed over in the members of an object. -/
  membersWhole : List (String × List Char × Draft) → Bool
    | [] => true
    | (_, _, item) :: rest => item.isWhole && membersWhole rest

/-- A draft shows a value with some text after it, to any depth that the value does not exceed. -/
structure Shows (draft : Draft) (value : Value) (rest : List Char) : Prop where
  finish : draft.finish = .ok rest
  whole : draft.isWhole = true
  value : ∀ depth, value.depth < depth → draft.value? depth = .ok value

/-- The items of a drafted array show some values. -/
structure ItemsShow (drafts : List Draft) (items : List Value) : Prop where
  whole : isWhole.itemsWhole drafts = true
  values
    : ∀ depth, Value.depth.itemsDepth items < depth → value?.valueItems? depth drafts = .ok items

/-- The members of a drafted object show some members. -/
structure MembersShow (drafts : List (String × List Char × Draft))
    (members : List (String × Value)) : Prop where
  whole : isWhole.membersWhole drafts = true
  values
    : ∀ depth,
        Value.depth.membersDepth members < depth
        → value?.valueMembers? depth drafts = .ok members

variable {draft : Draft} {value : Value} {rest : List Char}

theorem ItemsShow.nil : ItemsShow [] [] :=
  ⟨rfl, fun _ _ => rfl⟩

theorem ItemsShow.cons {drafts : List Draft} {items : List Value} (first : draft.Shows value rest)
    (later : ItemsShow drafts items)
    : ItemsShow (draft :: drafts) (value :: items) where
  whole := by simp [isWhole.itemsWhole, first.whole, later.whole]
  values depth deep := by
    rw [Value.depth.itemsDepth, Nat.max_lt] at deep
    simp only [value?.valueItems?, first.value depth deep.1, later.values depth deep.2]
    rfl

theorem ItemsShow.shows_array {drafts : List Draft} {items : List Value}
    (shown : ItemsShow drafts items) (text : List Char)
    : (Draft.array text drafts (.ok rest)).Shows (.array items) rest where
  finish := rfl
  whole := shown.whole
  value depth deep := by
    rw [Value.depth] at deep
    have inside := shown.values (depth - 1) (by omega)
    simp only [value?, if_neg (by omega : ¬depth ≤ 1), inside]
    rfl

theorem MembersShow.nil : MembersShow [] [] :=
  ⟨rfl, fun _ _ => rfl⟩

theorem MembersShow.cons {drafts : List (String × List Char × Draft)}
    {members : List (String × Value)} (key : String) (after : List Char)
    (first : draft.Shows value rest) (later : MembersShow drafts members)
    : MembersShow ((key, after, draft) :: drafts) ((key, value) :: members) where
  whole := by simp [isWhole.membersWhole, first.whole, later.whole]
  values depth deep := by
    rw [Value.depth.membersDepth, Nat.max_lt] at deep
    simp only [value?.valueMembers?, first.value depth deep.1, later.values depth deep.2]
    rfl

theorem MembersShow.shows_object {drafts : List (String × List Char × Draft)}
    {members : List (String × Value)} (shown : MembersShow drafts members) (text : List Char)
    : (Draft.object text drafts (.ok rest)).Shows (.object members) rest where
  finish := rfl
  whole := shown.whole
  value depth deep := by
    rw [Value.depth] at deep
    have inside := shown.values (depth - 1) (by omega)
    simp only [value?, if_neg (by omega : ¬depth ≤ 1), inside]
    rfl

end Draft

------------------------------------------------------------------------------------------
-- Marks between values
------------------------------------------------------------------------------------------

namespace Reader

theorem skipBlanks_cons {c : Char} (mark : isBlank c = false) (rest : List Char)
    : skipBlanks (c :: rest) = c :: rest := by
  simp [skipBlanks, mark]

theorem isBlank_of_isDigit {c : Char} (digit : Text.isDigit c = true) : isBlank c = false := by
  simp only [isBlank, Bool.or_eq_false_iff, beq_eq_false_iff_ne]
  refine ⟨⟨⟨?_, ?_⟩, ?_⟩, ?_⟩ <;>
    rintro rfl <;> exact absurd digit (by decide)

/-- The comma that is written before all items but the first. -/
abbrev separator (first : Bool) : List Char :=
  if first then [] else [',']

theorem nextItem_separator (first : Bool) {c : Char} (mark : isBlank c = false) (item : c ≠ ']')
    (rest : List Char)
    : nextItem first (separator first ++ c :: rest) = .ok (.inl (c :: rest)) := by
  cases first with
  | true =>
      show nextItem true (c :: rest) = _
      simp [nextItem, skipBlanks_cons mark]
  | false =>
      show nextItem false (',' :: c :: rest) = _
      have comma : skipBlanks (',' :: c :: rest) = ',' :: c :: rest := skipBlanks_cons rfl _
      simp [nextItem, comma, skipBlanks_cons mark, item]

theorem nextKey_separator (first : Bool) (rest : List Char)
    : nextKey first (separator first ++ '\x22' :: rest) = .ok (.inl rest) := by
  cases first <;> rfl

/-- What follows an item or a member: the next one, or the end of the array or object. -/
theorem endsInteger_cons {c : Char} (mark : c = ',' ∨ c = ']' ∨ c = '\x7d') (rest : List Char)
    : EndsInteger (c :: rest) := by
  rcases mark with rfl | rfl | rfl <;> exact ⟨rfl, rfl, nofun⟩

end Reader

------------------------------------------------------------------------------------------
-- Texts of values
------------------------------------------------------------------------------------------

namespace Value

/-- The keys of an object. -/
def keys : Value → List String
  | object members => members.map Prod.fst
  | _ => []

/-- The text of an integer starts with a sign or a digit. -/
theorem exists_chars_integer (value : Int) (bounds : leastInteger ≤ value ∧ value ≤ greatestInteger)
    : ∃ c rest,
        (number (.integer value bounds)).chars = c :: rest
        ∧ (c = '-' ∨ Text.isDigit c = true) := by
  obtain ⟨c, rest, digits⟩ :=
    List.exists_cons_of_ne_nil (Nat.toDigits_ne_nil (n := value.natAbs) (b := 10))
  have digit := Text.isDigit_of_mem_toDigits (n := value.natAbs) (digits ▸ List.mem_cons_self)
  simp only [chars, Number.text, Text.decimalInt, Text.decimal]
  split
  · exact ⟨'-', c :: rest, by simp [digits], Or.inl rfl⟩
  · exact ⟨c, rest, by simp [digits], Or.inr digit⟩

/-- The text of a value starts with a mark that is neither blank nor the end of an array. -/
theorem exists_chars_eq_cons {value : Value} (exact : value.isExact = true)
    : ∃ c rest, value.chars = c :: rest ∧ Reader.isBlank c = false ∧ c ≠ ']' := by
  cases value with
  | null => exact ⟨_, _, rfl, rfl, by decide⟩
  | boolean truth => cases truth <;> exact ⟨_, _, rfl, rfl, by decide⟩
  | string text => exact ⟨_, _, rfl, rfl, by decide⟩
  | array items => exact ⟨_, _, rfl, rfl, by decide⟩
  | object members => exact ⟨_, _, rfl, rfl, by decide⟩
  | number number =>
      cases number with
      | real _ => cases exact
      | integer value bounds =>
          obtain ⟨c, rest, text, mark⟩ := exists_chars_integer value bounds
          refine ⟨c, rest, text, ?_⟩
          rcases mark with rfl | digit
          · decide
          · refine ⟨Reader.isBlank_of_isDigit digit, ?_⟩
            rintro rfl
            exact absurd digit (by decide)

end Value

namespace Reader

open Value

variable {keeps : String → Bool} {fuel : Nat} {rest : List Char}

theorem readValue_of_isDigit (keeps : String → Bool) (fuel : Nat) {c : Char}
    (digit : Text.isDigit c = true) (rest : List Char)
    : readValue keeps (fuel + 1) (c :: rest)
      = draftOf (readNumber false (c :: rest)) fun (value, after) => .number value after := by
  rw [readValue, skipBlanks_cons (isBlank_of_isDigit digit)]
  split
  case h_1 none => cases none
  case h_9 => rw [if_pos (show startsWithDigit (c :: rest) = true from digit)]
  all_goals
    rename_i same
    obtain ⟨rfl, -⟩ := List.cons.inj same
    exact absurd digit (by decide)

/-- The numeral of an integer is read as a number behind its sign, if it has one. -/
theorem readValue_decimalInt (keeps : String → Bool) (fuel : Nat) (value : Int) (rest : List Char)
    : readValue keeps (fuel + 1) ((Text.decimalInt value).toList ++ rest)
      = draftOf (readNumber (decide (value < 0)) (Nat.toDigits 10 value.natAbs ++ rest))
          fun (value, after) => .number value after := by
  unfold Text.decimalInt Text.decimal
  split
  · rename_i negative
    have text : ("-" ++ String.ofList (Nat.toDigits 10 value.natAbs)).toList ++ rest
        = '-' :: (Nat.toDigits 10 value.natAbs ++ rest) := by
      simp
    have mark := skipBlanks_cons (c := '-') rfl (Nat.toDigits 10 value.natAbs ++ rest)
    rw [text, readValue, mark, decide_eq_true negative]
    rfl
  · rename_i positive
    obtain ⟨c, more, digits⟩ :=
      List.exists_cons_of_ne_nil (Nat.toDigits_ne_nil (n := value.natAbs) (b := 10))
    have digit := Text.isDigit_of_mem_toDigits (n := value.natAbs) (digits ▸ List.mem_cons_self)
    rw [String.toList_ofList, digits, List.cons_append, readValue_of_isDigit keeps fuel digit,
      decide_eq_false positive]

/-- An integer is read back by its sign or its first digit. -/
theorem readValue_integer (keeps : String → Bool) (fuel : Nat) {value : Int}
    (bounds : leastInteger ≤ value ∧ value ≤ greatestInteger) {rest : List Char}
    (ends : EndsInteger rest)
    : readValue keeps (fuel + 1) ((Value.number (.integer value bounds)).chars ++ rest)
      = .number (.integer value bounds) rest := by
  have fits : value.natAbs ≤ greatestWord := by
    unfold leastInteger greatestInteger at bounds
    unfold greatestWord
    omega
  have read := readNumber_toDigits fits ends (decide (value < 0))
  rw [wholeNumber_natAbs bounds] at read
  rw [chars, Number.text, readValue_decimalInt, read]
  rfl

theorem endsInteger_itemsChars (items : List Value) (rest : List Char)
    : EndsInteger (chars.itemsChars false items ++ ']' :: rest) := by
  cases items with
  | nil => exact endsInteger_cons (by simp) _
  | cons item items => exact endsInteger_cons (by simp) _

theorem endsInteger_membersChars (members : List (String × Value)) (rest : List Char)
    : EndsInteger (chars.membersChars false members ++ '\x7d' :: rest) := by
  cases members with
  | nil => exact endsInteger_cons (by simp) _
  | cons member members => exact endsInteger_cons (by simp) _

mutual

/--
The text of a value is read into a draft that shows it, given two steps for each character. By
induction on the value.
-/
theorem shows_readValue (keeps : String → Bool) (fuel : Nat) (rest : List Char)
    : (value : Value)
      → value.isExact = true
      → (∀ key ∈ value.keys, keeps key = true)
      → 2 * value.chars.length ≤ fuel
      → EndsInteger rest
      → (readValue keeps fuel (value.chars ++ rest)).Shows value rest
  | value, exact, kept, enough, ends => by
    obtain ⟨fuel, rfl⟩ : ∃ steps, fuel = steps + 1 := by
      obtain ⟨c, more, text, -⟩ := exists_chars_eq_cons exact
      rw [text, List.length_cons] at enough
      exact Nat.exists_eq_succ_of_ne_zero (by omega)
    match value with
    | .null => exact ⟨rfl, rfl, fun _ _ => rfl⟩
    | .boolean true => exact ⟨rfl, rfl, fun _ _ => rfl⟩
    | .boolean false => exact ⟨rfl, rfl, fun _ _ => rfl⟩
    | .number (.real _) => cases exact
    | .number (.integer value bounds) =>
        rw [readValue_integer keeps fuel bounds ends]
        exact ⟨rfl, rfl, fun _ _ => rfl⟩
    | .string text =>
        obtain ⟨inside, quoted, read⟩ := exists_quoteText_eq_cons text rest
        rw [chars, quoted, readValue, skipBlanks_cons rfl]
        simp only [read, draftOf, String.ofList_toList]
        exact ⟨rfl, rfl, fun _ _ => rfl⟩
    | .array items =>
        simp only [chars, List.length_append, List.length_singleton] at enough
        obtain ⟨drafts, read, shown⟩ := exists_readItems true fuel rest items exact (by omega)
        have text : (Value.array items).chars ++ rest
            = '[' :: (chars.itemsChars true items ++ ']' :: rest) := by
          simp [chars]
        rw [text, readValue, skipBlanks_cons rfl]
        simp only [read]
        exact shown.shows_array _
    | .object members =>
        simp only [chars, List.length_append, List.length_singleton] at enough
        obtain ⟨drafts, read, shown⟩ := exists_readMembers keeps true fuel rest members exact
          (fun member inside => kept member.1 (List.mem_map_of_mem inside)) (by omega)
        have text : (Value.object members).chars ++ rest
            = '\x7b' :: (chars.membersChars true members ++ '\x7d' :: rest) := by
          simp [chars]
        rw [text, readValue, skipBlanks_cons rfl]
        simp only [read]
        exact shown.shows_object _

theorem exists_readItems (first : Bool) (fuel : Nat) (rest : List Char)
    : (items : List Value)
      → isExact.itemsExact items = true
      → 2 * (chars.itemsChars first items).length + 1 ≤ fuel
      → ∃ drafts,
          readItems fuel first (chars.itemsChars first items ++ ']' :: rest) = (drafts, .ok rest)
          ∧ Draft.ItemsShow drafts items
  | [], _, enough => by
    obtain ⟨fuel, rfl⟩ := Nat.exists_eq_succ_of_ne_zero (by omega : fuel ≠ 0)
    refine ⟨[], ?_, .nil⟩
    have ending : nextItem first (']' :: rest) = .ok (.inr rest) := rfl
    simp only [chars.itemsChars, List.nil_append, readItems, ending]
  | item :: items, exact, enough => by
    obtain ⟨fuel, rfl⟩ := Nat.exists_eq_succ_of_ne_zero (by omega : fuel ≠ 0)
    rw [isExact.itemsExact, Bool.and_eq_true] at exact
    obtain ⟨c, more, text, mark, notEnd⟩ := exists_chars_eq_cons exact.1
    simp only [chars.itemsChars, List.length_append] at enough
    have positive : 0 < item.chars.length := by simp [text]
    have shown := shows_readValue (fun _ => true) fuel (chars.itemsChars false items ++ ']' :: rest)
      item exact.1 (fun _ _ => rfl) (by omega) (endsInteger_itemsChars items rest)
    obtain ⟨drafts, read, later⟩ := exists_readItems false fuel rest items exact.2 (by omega)
    have next : nextItem first (chars.itemsChars first (item :: items) ++ ']' :: rest)
        = .ok (.inl (item.chars ++ (chars.itemsChars false items ++ ']' :: rest))) := by
      have whole := nextItem_separator first mark notEnd
        (more ++ (chars.itemsChars false items ++ ']' :: rest))
      rwa [← List.cons_append, ← text, ← List.append_assoc, ← List.append_assoc] at whole
    refine ⟨_, ?_, .cons shown later⟩
    simp only [readItems, next, shown.finish, read]

theorem exists_readMembers (keeps : String → Bool) (first : Bool) (fuel : Nat) (rest : List Char)
    : (members : List (String × Value))
      → isExact.membersExact members = true
      → (∀ member ∈ members, keeps member.1 = true)
      → 2 * (chars.membersChars first members).length + 1 ≤ fuel
      → ∃ drafts,
          readMembers keeps fuel first (chars.membersChars first members ++ '\x7d' :: rest)
            = (drafts, .ok rest)
          ∧ Draft.MembersShow drafts members
  | [], _, _, enough => by
    obtain ⟨fuel, rfl⟩ := Nat.exists_eq_succ_of_ne_zero (by omega : fuel ≠ 0)
    refine ⟨[], ?_, .nil⟩
    have ending : nextKey first ('\x7d' :: rest) = .ok (.inr rest) := rfl
    simp only [chars.membersChars, List.nil_append, readMembers, ending]
  | (key, value) :: members, exact, kept, enough => by
    obtain ⟨fuel, rfl⟩ := Nat.exists_eq_succ_of_ne_zero (by omega : fuel ≠ 0)
    rw [isExact.membersExact, Bool.and_eq_true] at exact
    simp only [chars.membersChars, List.length_append, List.length_singleton] at enough
    obtain ⟨tail, tail_eq⟩ : ∃ tail, tail = chars.membersChars false members ++ '\x7d' :: rest :=
      ⟨_, rfl⟩
    have shown := shows_readValue (fun _ => true) fuel tail value exact.1 (fun _ _ => rfl)
      (by omega) (tail_eq ▸ endsInteger_membersChars members rest)
    obtain ⟨drafts, read, later⟩ := exists_readMembers keeps false fuel rest members exact.2
      (fun member inside => kept member (List.mem_cons_of_mem _ inside)) (by omega)
    obtain ⟨inside, quoted, named⟩ := exists_quoteText_eq_cons key (':' :: (value.chars ++ tail))
    have text : chars.membersChars first ((key, value) :: members) ++ '\x7d' :: rest
        = separator first ++ '\x22' :: inside := by
      rw [← quoted, tail_eq]
      simp [chars.membersChars]
    have colon : readColon (':' :: (value.chars ++ tail)) = .ok (value.chars ++ tail) := rfl
    have kept_here : keeps key = true := kept (key, value) List.mem_cons_self
    refine ⟨_, ?_, .cons key (':' :: (value.chars ++ tail)) shown later⟩
    rw [← tail_eq] at read
    rw [text, readMembers, nextKey_separator]
    simp only [named, String.ofList_toList, colon, kept_here, if_true, shown.finish, read]

end

end Reader

/-- The text of a value without floating-point numbers is read into a draft that shows it. -/
theorem Draft.shows_ofText {value : Value} (exact : value.isExact = true) {keeps : String → Bool}
    (kept : ∀ key ∈ value.keys, keeps key = true)
    : (Draft.ofText keeps value.text.toList).Shows value [] := by
  have shown := Reader.shows_readValue keeps (Reader.enough value.chars) [] value exact kept
    (by unfold Reader.enough; omega) .nil
  rw [List.append_nil] at shown
  rwa [Draft.ofText, Value.text, String.toList_ofList]

end DiscordRest.Json
