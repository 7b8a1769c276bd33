import DiscordRest.Text.Numeral
import DiscordRest.Text.Utf8

/-!
Percent-encoding: which characters each part of a URL writes as the percent signs of their bytes,
and reading such signs back.
-/

namespace DiscordRest.Url

/-- A character written as percent signs, one for each of its bytes. -/
def percentChar (c : Char) : List Char :=
  (Text.utf8Bytes [c]).flatMap fun b => '%' :: Text.hexPair b.toNat

/-- A text in which the characters that satisfy `escapes` are written as percent signs. -/
def percentEncode (escapes : Char → Bool) (text : List Char) : List Char :=
  text.flatMap fun c => if escapes c then percentChar c else [c]

/-- Control characters, and all characters outside of ASCII. -/
def escapesControl (c : Char) : Bool :=
  c.toNat < 0x20 || 0x7F ≤ c.toNat

/-- What a fragment escapes. -/
def escapesFragment (c : Char) : Bool :=
  escapesControl c || [' ', '\x22', '<', '>', '\x60'].contains c

/-- What a path escapes. -/
def escapesPath (c : Char) : Bool :=
  escapesFragment c || ['#', '?', '\x7b', '\x7d'].contains c

/-- What a user name and a password escape. -/
def escapesUser (c : Char) : Bool :=
  escapesPath c || ['/', ':', ';', '=', '@', '[', '\\', ']', '^', '|'].contains c

/-- What a query escapes. -/
def escapesQuery (c : Char) : Bool :=
  escapesControl c || [' ', '\x22', '#', '<', '>'].contains c

/-- What a query escapes under a special scheme. -/
def escapesSpecialQuery (c : Char) : Bool :=
  escapesQuery c || c == '\x27'

/-- The bytes of a text in which a percent sign with two hexadecimal digits stands for one byte. -/
def percentDecode : List Char → List UInt8
  | [] => []
  | '%' :: a :: b :: rest =>
    match Text.readDigits? 16 [a, b] with
    | some value => UInt8.ofNat value :: percentDecode rest
    | none => Text.utf8Bytes ['%'] ++ percentDecode (a :: b :: rest)
  | c :: rest => Text.utf8Bytes [c] ++ percentDecode rest

end DiscordRest.Url
