import DiscordRest.Json.Number
import DiscordRest.Keyed

/-!
JSON values and their compact text. An object lists its members in the order of its text, so one
object may name a key twice; `normalise` sorts the members and keeps the last of each key.
-/

namespace DiscordRest.Json

/-- A JSON value. -/
inductive Value where
  /-- The null value. -/
  | null
  /-- A truth value. -/
  | boolean (value : Bool)
  /-- A number. -/
  | number (value : Number)
  /-- A text. -/
  | string (value : String)
  /-- An array of values. -/
  | array (items : List Value)
  /-- An object, with its members in order. -/
  | object (members : List (String × Value))
  deriving Repr

/-- A missing value is null. -/
instance : Inhabited Value := ⟨.null⟩

namespace Value

/-- Whether a value is null. -/
def isNull : Value → Bool
  | null => true
  | _ => false

/--
Whether two values are equal, member by member in the given order; zero is equal to its negative.
-/
def same : Value → Value → Bool
  | null, null => true
  | boolean a, boolean b => a == b
  | number a, number b => a.same b
  | string a, string b => a == b
  | array a, array b => sameItems a b
  | object a, object b => sameMembers a b
  | _, _ => false
where
  /-- Compares the items of two arrays. -/
  sameItems : List Value → List Value → Bool
    | [], [] => true
    | a :: restA, b :: restB => a.same b && sameItems restA restB
    | _, _ => false
  /-- Compares the members of two objects. -/
  sameMembers : List (String × Value) → List (String × Value) → Bool
    | [], [] => true
    | (keyA, a) :: restA, (keyB, b) :: restB => keyA == keyB && a.same b && sameMembers restA restB
    | _, _ => false

/-- The value with the members of every object in it sorted and free of repeated keys. -/
def normalise : Value → Value
  | null => null
  | boolean value => boolean value
  | number value => number value
  | string value => string value
  | array items => array (normaliseItems items)
  | object members => object (Keyed.sort (normaliseMembers members))
where
  /-- Normalises the items of an array. -/
  normaliseItems : List Value → List Value
    | [] => []
    | item :: rest => item.normalise :: normaliseItems rest
  /-- Normalises the values of the members of an object. -/
  normaliseMembers : List (String × Value) → List (String × Value)
    | [] => []
    | (key, value) :: rest => (key, value.normalise) :: normaliseMembers rest

end Value

/-- The four hexadecimal digits of the escape of a control character. -/
def controlDigits (c : Char) : List Char :=
  ['0', '0'] ++ (if c.toNat < 16 then ['0'] else []) ++ Text.hexadecimal c.toNat

/-- A character inside a quoted text: quote, backslash and control characters are escaped. -/
def escapeChar (c : Char) : List Char :=
  if c = '\x22' then ['\\', '\x22']
  else if c = '\\' then ['\\', '\\']
  else if c = '\x08' then ['\\', 'b']
  else if c = '\x0c' then ['\\', 'f']
  else if c = '\n' then ['\\', 'n']
  else if c = '\r' then ['\\', 'r']
  else if c = '\t' then ['\\', 't']
  else if c.toNat < 32 then ['\\', 'u'] ++ controlDigits c
  else [c]

/-- A text between quotes. -/
def quoteText (text : String) : List Char :=
  ['\x22'] ++ text.toList.flatMap escapeChar ++ ['\x22']

namespace Value

/-- The compact text of a value, as characters. -/
def chars : Value → List Char
  | null => "null".toList
  | boolean true => "true".toList
  | boolean false => "false".toList
  | number value => value.text.toList
  | string value => quoteText value
  | array items => ['['] ++ itemsChars true items ++ [']']
  | object members => ['\x7b'] ++ membersChars true members ++ ['\x7d']
where
  /-- The items of an array, with a comma before all but the first. -/
  itemsChars : Bool → List Value → List Char
    | _, [] => []
    | first, item :: rest =>
      (if first then [] else [',']) ++ item.chars ++ itemsChars false rest
  /-- The members of an object, with a comma before all but the first. -/
  membersChars : Bool → List (String × Value) → List Char
    | _, [] => []
    | first, (key, value) :: rest =>
      (if first then [] else [',']) ++ quoteText key ++ [':'] ++ value.chars
        ++ membersChars false rest

/-- The compact text of a value. -/
def text (value : Value) : String :=
  String.ofList value.chars

end Value

end DiscordRest.Json
