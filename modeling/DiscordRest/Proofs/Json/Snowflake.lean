import DiscordRest.Error
import DiscordRest.Proofs.Json.Generic
import DiscordRest.Proofs.Json.Schema

/-!
The forms of a snowflake: its numeral, bare and quoted, and its number, each in a text and as a
value. All of them are read as this snowflake, and it is written in one way only.
-/

namespace DiscordRest

open Json

------------------------------------------------------------------------------------------
-- Which values are read
------------------------------------------------------------------------------------------

namespace Json

/-- A value that is no snowflake: neither a text nor an integer from zero on. -/
inductive Value.Foreign : Value → Prop
  | null : Foreign .null
  | boolean (truth : Bool) : Foreign (.boolean truth)
  | negative {value : Int} (below : value < 0)
    (bounds : leastInteger ≤ value ∧ value ≤ greatestInteger)
    : Foreign (.number (.integer value bounds))
  | real (value : Binary64) : Foreign (.number (.real value))
  | array (items : List Value) : Foreign (.array items)
  | object (members : List (String × Value)) : Foreign (.object members)

namespace Codec

theorem ofValue_snowflake_of_foreign {value : Value} (foreign : value.Foreign) (id : Snowflake)
    : snowflake.ofValue value ≠ .ok id := by
  intro read
  cases foreign with
  | negative below bounds =>
      rcases (denotes_snowflake _ id rfl).mp read with ⟨_, same⟩ | ⟨_, _, impossible, -⟩
      · obtain rfl := Number.integer.inj (Value.number.inj same)
        exact Int.not_lt.mpr (Int.natCast_nonneg _) below
      · cases impossible
  | null | boolean | real | array | object => cases read

theorem ofValue_snowflake_integer (id : Snowflake)
    (bounds : leastInteger ≤ id.value.toNat ∧ (id.value.toNat : Int) ≤ greatestInteger)
    : snowflake.ofValue (.number (.integer id.value.toNat bounds)) = .ok id :=
  (denotes_snowflake _ id rfl).mpr (Or.inl ⟨bounds, rfl⟩)

/-- A text is read as a snowflake where the value in it is. -/
theorem ofText_snowflake_eq_ok_iff {text : String} {id : Snowflake}
    : snowflake.ofText text = .ok id ↔ snowflake.ofTextValue text = .ok id := by
  refine agrees_snowflake.ofText_eq_ok_iff rfl fun value => ?_
  cases value <;> rfl

end Codec

end Json

------------------------------------------------------------------------------------------
-- Forms of a snowflake
------------------------------------------------------------------------------------------

namespace Snowflake

/-- A text is read as a snowflake, by way of a value or not. -/
structure ReadFrom (id : Snowflake) (text : String) : Prop where
  atOnce : Codec.snowflake.ofText text = .ok id
  byValue : Codec.snowflake.ofTextValue text = .ok id

/-- A text is read as no snowflake, by way of a value or not. -/
def Rejects (text : String) : Prop :=
  ∀ id, Codec.snowflake.ofText text ≠ .ok id ∧ Codec.snowflake.ofTextValue text ≠ .ok id

/-- A snowflake is written as the shortest numeral of its value, and read from all its forms. -/
structure Forms (id : Snowflake) : Prop where
  numeral : Text.IsNumeral id.text.toList id.value.toNat
  shortest : id.text.toList.head? = some '0' → id.text = "0"
  written : Codec.snowflake.write id = .string id.text
  quoted : (Codec.snowflake.text id).toList = '\x22' :: id.text.toList ++ ['\x22']
  parsed : parse? id.text = some id
  read : Snowflake.read id.text = .ok id
  ofString : Codec.snowflake.ofValue (.string id.text) = .ok id
  ofQuoted : id.ReadFrom (Codec.snowflake.text id)
  ofWord : Codec.snowflake.ofValue (.number (.ofWord id.value)) = .ok id
  /-- The number is read also where it comes as a signed one. -/
  ofSigned
    : ∃ number,
        Number.ofInt? id.value.toNat = some number
        ∧ Codec.snowflake.ofValue (.number number) = .ok id
  ofNumber : id.ReadFrom id.text

theorem readFrom_of_ofTextValue {id : Snowflake} {text : String}
    (read : Codec.snowflake.ofTextValue text = .ok id)
    : id.ReadFrom text :=
  ⟨Codec.ofText_snowflake_eq_ok_iff.mpr read, read⟩

theorem rejects_of_ofTextValue {text : String}
    (read : ∀ id, Codec.snowflake.ofTextValue text ≠ .ok id)
    : Rejects text :=
  fun id => ⟨fun found => read id (Codec.ofText_snowflake_eq_ok_iff.mp found), read id⟩

theorem rejects_of_foreign {text : String} {value : Value}
    (held : Codec.value.ofText text = .ok value) (foreign : value.Foreign)
    : Rejects text := by
  refine rejects_of_ofTextValue fun id read => ?_
  obtain ⟨found, same, read⟩ := Codec.ofTextValue_eq_ok_iff.mp read
  obtain rfl := Except.ok.inj (held.symm.trans same)
  exact Codec.ofValue_snowflake_of_foreign foreign id read

theorem bounds_toNat (id : Snowflake)
    : leastInteger ≤ id.value.toNat ∧ (id.value.toNat : Int) ≤ greatestInteger := by
  have below := id.value.toNat_lt
  unfold leastInteger greatestInteger
  omega

/-- Digits stand in quotes as they are. -/
theorem toList_text_snowflake (id : Snowflake)
    : (Codec.snowflake.text id).toList = '\x22' :: id.text.toList ++ ['\x22'] := by
  have plain : ∀ n < 10, escapeChar (Nat.digitChar n) = [Nat.digitChar n] := by decide
  have digits : id.text.toList.flatMap escapeChar = id.text.toList := by
    rw [toList_text]
    refine (List.flatMap_congr fun c member => ?_).trans (List.flatMap_singleton' _)
    obtain ⟨digit, below, rfl⟩ := Text.mem_toDigits (by decide) member
    exact plain digit below
  show (String.ofList (quoteText id.text)).toList = _
  rw [String.toList_ofList, quoteText, digits]
  rfl

/-- The number of a snowflake is held by the text of its digits. -/
theorem ofText_text_value (id : Snowflake)
    : Codec.value.ofText id.text = .ok (.number (.integer id.value.toNat id.bounds_toNat)) := by
  have shown : (Value.number (.integer id.value.toNat id.bounds_toNat)).text = id.text := by
    rw [Value.text, Value.chars, String.ofList_toList, Number.text, Text.decimalInt,
      if_neg (Int.not_lt.mpr (Int.natCast_nonneg _))]
    rfl
  rw [← shown]
  exact Value.ofText_text rfl (by decide : 0 < Draft.depthLimit)

theorem forms (id : Snowflake) : id.Forms where
  numeral := id.toList_text ▸ Text.isNumeral_toDigits _
  shortest := head?_toList_text
  written := rfl
  quoted := id.toList_text_snowflake
  parsed := id.parse?_text
  read := by rw [Snowflake.read, id.parse?_text]
  ofString := (Codec.returns_snowflake (by decide : 0 < 1) id).again
  ofQuoted := by
    have returns := Codec.returns_snowflake (by decide : 0 < Draft.depthLimit) id
    have read := returns.ofText_text (fun _ _ => rfl) fun draft shown =>
      Codec.agrees_snowflake draft shown.whole
    exact ⟨read, Codec.ofText_snowflake_eq_ok_iff.mp read⟩
  ofWord := Codec.ofValue_snowflake_integer id _
  ofSigned :=
    ⟨_, dif_pos id.bounds_toNat, Codec.ofValue_snowflake_integer id _⟩
  ofNumber := by
    refine readFrom_of_ofTextValue (Codec.ofTextValue_eq_ok_iff.mpr ?_)
    exact ⟨_, id.ofText_text_value, Codec.ofValue_snowflake_integer id _⟩

/-- A negative integer and one of more than 64 bits are rejected, however great they are. -/
theorem rejects_decimalInt {z : Int} (outside : z < 0 ∨ greatestInteger < z)
    : Rejects (Text.decimalInt z) := by
  by_cases bounds : leastInteger ≤ z ∧ z ≤ greatestInteger
  · have below : z < 0 := outside.resolve_right (Int.not_lt.mpr bounds.2)
    have held : Codec.value.ofText (Value.number (.integer z bounds)).text
        = .ok (.number (.integer z bounds)) :=
      Value.ofText_text rfl (by decide : 0 < Draft.depthLimit)
    rw [Value.text, Value.chars, String.ofList_toList] at held
    exact rejects_of_foreign held (.negative below bounds)
  · refine rejects_of_ofTextValue fun id read => ?_
    obtain ⟨value, held, read⟩ := Codec.ofTextValue_eq_ok_iff.mp read
    obtain ⟨x, rfl⟩ := Value.exists_real_of_ofText bounds held
    exact Codec.ofValue_snowflake_of_foreign (.real x) id read

/--
All forms of a snowflake are read as it, and it is written as one of them; so what was read from
any value or text is written and read again, and different snowflakes are written differently.
Values of all other kinds are rejected, as values and in texts.
-/
theorem forms_agree
    : (∀ id : Snowflake, id.Forms)
      ∧ (∀ a b : Snowflake,
          a ≠ b
          → a.text ≠ b.text
            ∧ Codec.snowflake.write a ≠ Codec.snowflake.write b
            ∧ Codec.snowflake.text a ≠ Codec.snowflake.text b)
      ∧ (∀ value id,
          Codec.snowflake.ofValue value = .ok id
          → Codec.snowflake.ofValue (Codec.snowflake.write id) = .ok id)
      ∧ (∀ text id,
          Codec.snowflake.ofText text = .ok id ∨ Codec.snowflake.ofTextValue text = .ok id
          → id.ReadFrom text ∧ id.ReadFrom (Codec.snowflake.text id))
      ∧ (∀ value id, value.Foreign → Codec.snowflake.ofValue value ≠ .ok id)
      ∧ (∀ text value, Codec.value.ofText text = .ok value → value.Foreign → Rejects text)
      ∧ (∀ z : Int, z < 0 ∨ greatestInteger < z → Rejects (Text.decimalInt z))
      ∧ ∀ (z : Int) (value : Value),
          greatestInteger < z
          → Codec.value.ofText (Text.decimalInt z) = .ok value
          → ∃ x, value = .number (.real x) := by
  refine ⟨forms, ?_, ?_, ?_, ?_, ?_, ?_, ?_⟩
  · intro a b differ
    have numerals : a.text ≠ b.text := by
      intro same
      have read := ofText?_text b
      rw [← same, ofText?_text] at read
      exact differ (Option.some.inj read)
    refine ⟨numerals, fun same => numerals (Value.string.inj same), fun same => ?_⟩
    have read := (forms b).ofQuoted.atOnce
    rw [← same, (forms a).ofQuoted.atOnce] at read
    exact differ (Except.ok.inj read)
  · exact fun _ id _ => (forms id).ofString
  · rintro text id (read | read)
    · exact ⟨readFrom_of_ofTextValue (Codec.ofText_snowflake_eq_ok_iff.mp read),
        (forms id).ofQuoted⟩
    · exact ⟨readFrom_of_ofTextValue read, (forms id).ofQuoted⟩
  · exact fun _ id foreign => Codec.ofValue_snowflake_of_foreign foreign id
  · exact fun _ _ held foreign => rejects_of_foreign held foreign
  · exact fun _ outside => rejects_decimalInt outside
  · exact fun _ _ above held =>
      Value.exists_real_of_ofText (fun bounds => Int.not_lt.mpr bounds.2 above) held

end Snowflake

end DiscordRest
