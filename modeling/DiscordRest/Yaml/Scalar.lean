import DiscordRest.Mismatch
import DiscordRest.Number.Shortest
import DiscordRest.Yaml.Node

/-!
What scalars mean: words for null and truth values, integers in four bases, floating-point numbers,
and texts for all the rest. A tag of the language overrides what the text looks like.
-/

namespace DiscordRest.Yaml

/-! ### Numbers -/

/-- A floating-point number, which may be infinite or no number at all. -/
inductive Real where
  /-- A finite number. -/
  | finite (value : Binary64)
  /-- Infinity. -/
  | infinite (negative : Bool)
  /-- Not a number. -/
  | nan
  deriving DecidableEq, Repr

/-- Whether two numbers count as equal: zeros do, and so does what is not a number. -/
def Real.same : Real → Real → Bool
  | finite a, finite b => a.same b
  | infinite a, infinite b => a == b
  | nan, nan => true
  | _, _ => false

/-- The text of a number: all its digits, and at least one behind the decimal point. -/
def Real.text : Real → String
  | finite value =>
    (if value.negative then "-" else "")
      ++ (if value.isZero then "0.0" else value.shortest.positional)
  | infinite negative => if negative then "-inf" else "inf"
  | nan => "NaN"

/-- A text without a sign in front. -/
def dropSign : List Char → List Char
  | '+' :: rest => rest
  | '-' :: rest => rest
  | text => text

/-- Whether a text is a decimal numeral with zeros in front, which is no number. -/
def isPadded (text : List Char) : Bool :=
  match dropSign text with
  | '0' :: c :: rest => (c :: rest).all Text.isDigit
  | _ => false

/-- Reads a numeral of at most `greatest`. -/
def readBounded? (base greatest : Nat) (digits : List Char) : Option Nat :=
  (Text.readDigits? base digits).filter (· ≤ greatest)

/-- Reads the size of an integer without sign; `text` is the whole scalar. -/
def readSize? (greatest : Nat) (text : List Char) : List Char → Option Nat
  | '0' :: 'x' :: digits => readBounded? 16 greatest digits
  | '0' :: 'o' :: digits => readBounded? 8 greatest digits
  | '0' :: 'b' :: digits => readBounded? 2 greatest digits
  | digits => if isPadded text then none else readBounded? 10 greatest digits

/-- Reads an integer without minus sign. -/
def readUnsigned? (greatest : Nat) (text : List Char) : Option Nat :=
  match text with
  | '+' :: rest => readSize? greatest text rest
  | rest => readSize? greatest text rest

/-- Reads an integer of at most 128 bits. -/
def readInteger? (text : List Char) : Option Int :=
  match text with
  | '-' :: rest => (readSize? leastSignedDoubleWord text rest).map fun n => -(n : Int)
  | rest => (readUnsigned? greatestDoubleWord rest).map Int.ofNat

/-- Reads the exponent of a decimal; a text that is none at all stands for zero. -/
def readExponent? : List Char → Option Int
  | [] => some 0
  | mark :: rest =>
    if mark == 'e' || mark == 'E' then
      (Text.readDigits? 10 (dropSign rest)).map fun n => if rest.head? == some '-' then -n else n
    else none

/-- Reads a decimal: digits with a decimal point among or around them, and an exponent. -/
def readDecimal? (negative : Bool) (text : List Char) : Option Binary64 := do
  let whole := text.takeWhile Text.isDigit
  let rest := text.dropWhile Text.isDigit
  let (fraction, rest) := match rest with
    | '.' :: rest => (rest.takeWhile Text.isDigit, rest.dropWhile Text.isDigit)
    | rest => ([], rest)
  let digits ← Text.readDigits? 10 (whole ++ fraction)
  let exponent ← readExponent? rest
  Binary64.ofDecimal negative digits (exponent - fraction.length)

/-- Reads a floating-point number. -/
def readReal? (text : List Char) : Option Real :=
  if [".inf", ".Inf", ".INF", "+.inf", "+.Inf", "+.INF"].contains (String.ofList text) then
    some (.infinite false)
  else if ["-.inf", "-.Inf", "-.INF"].contains (String.ofList text) then some (.infinite true)
  else if [".nan", ".NaN", ".NAN"].contains (String.ofList text) then some .nan
  else (readDecimal? (text.head? == some '-') (dropSign text)).map .finite

/-! ### Meanings -/

/-- The words for nothing. -/
def isNullWord (text : String) : Bool :=
  ["null", "Null", "NULL", "~"].contains text

/-- Reads a truth value. -/
def readBoolean? (text : String) : Option Bool :=
  if ["true", "True", "TRUE"].contains text then some true
  else if ["false", "False", "FALSE"].contains text then some false
  else none

/-- What a scalar means. -/
inductive Meaning where
  /-- Nothing. -/
  | null
  /-- A truth value. -/
  | boolean (value : Bool)
  /-- An integer. -/
  | integer (value : Int)
  /-- A floating-point number. -/
  | real (value : Real)
  /-- A text. -/
  | string (value : String)
  deriving DecidableEq, Repr

namespace Meaning

/-- How a mismatch calls a scalar. -/
def found : Meaning → Found
  | null => .null
  | boolean value => .boolean value
  | integer value => .integer value
  | real value => .real value.text
  | string value => .string value

/-- Whether two meanings count as equal. -/
def same : Meaning → Meaning → Bool
  | real a, real b => a.same b
  | a, b => a == b

/-- An integer as a meaning; only those of 64 bits are values. -/
def ofInteger? (value : Int) : Option Meaning :=
  if -(greatestSigned + 1 : Int) ≤ value && value ≤ greatestWord then some (.integer value)
  else none

/-- What a plain scalar means; none for an integer beyond 64 bits, which has no value. -/
def ofPlain? (text : String) : Option Meaning :=
  if text.isEmpty || isNullWord text then some null
  else
    match readBoolean? text with
    | some value => some (boolean value)
    | none =>
      match readInteger? text.toList with
      | some value => ofInteger? value
      | none =>
        if isPadded text.toList then some (string text)
        else some (((readReal? text.toList).map real).getD (string text))

/-- The tag of a type of the language. -/
def typeTag (name : String) : String :=
  "tag:yaml.org,2002:" ++ name

/--
What a scalar means. A tag for a type decides, and leaves a text of another kind without meaning;
a tag of one's own leaves a plain scalar as it is; any other tag makes a text.
-/
def ofScalar? (tag : Option String) (text : String) (style : Style) : Option Meaning :=
  match tag with
  | none => if style = .plain then ofPlain? text else some (string text)
  | some tag =>
    if tag = typeTag "bool" then (readBoolean? text).map boolean
    else if tag = typeTag "int" then (readInteger? text.toList).bind ofInteger?
    else if tag = typeTag "float" then (readReal? text.toList).map real
    else if tag = typeTag "null" then if isNullWord text then some null else none
    else if tag.startsWith "!" && style = .plain then ofPlain? text
    else some (string text)

end Meaning

end DiscordRest.Yaml
