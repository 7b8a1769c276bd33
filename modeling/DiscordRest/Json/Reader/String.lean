import DiscordRest.Json.Fault

/-!
Reading quoted texts after their opening quote. Escapes of four hexadecimal digits are UTF-16
units, so that a character beyond the first plane takes a pair of them.
-/

namespace DiscordRest.Json.Reader

/-- The character that a backslash and one more character stand for. -/
def simpleEscape? (c : Char) : Option Char :=
  if c = '\x22' || c = '\\' || c = '/' then some c
  else if c = 'b' then some '\x08'
  else if c = 'f' then some '\x0c'
  else if c = 'n' then some '\n'
  else if c = 'r' then some '\r'
  else if c = 't' then some '\t'
  else none

/-- The value of four hexadecimal digits. -/
def hexUnit? (a b c d : Char) : Option Nat :=
  Text.readDigits? 16 [a, b, c, d]

/--
The fault of a text that does not start with four hexadecimal digits: there are four bytes to
judge, or the text is at its end.
-/
def hexFault (text : List Char) : Fault :=
  if (Text.utf8Bytes text).length < 4 then ⟨.endInString, .before []⟩
  else ⟨.badEscape, ⟨text, 4⟩⟩

/-- Whether a UTF-16 unit is the first half of a pair. -/
def isLeading (unit : Nat) : Bool :=
  0xD800 ≤ unit && unit ≤ 0xDBFF

/-- Whether a UTF-16 unit is the second half of a pair. -/
def isTrailing (unit : Nat) : Bool :=
  0xDC00 ≤ unit && unit ≤ 0xDFFF

/-- The character of a pair of UTF-16 units. -/
def pairChar (leading trailing : Nat) : Char :=
  .ofNat ((leading - 0xD800) * 0x400 + (trailing - 0xDC00) + 0x10000)

/-- The fault of a text where the escape of the second half of a pair should stand. -/
def pairFault : List Char → Fault
  | [] => ⟨.endInString, .before []⟩
  | '\\' :: 'u' :: rest => hexFault rest
  | ['\\'] => ⟨.endInString, .before []⟩
  | '\\' :: rest => ⟨.endOfSurrogate, .at rest⟩
  | rest => ⟨.endOfSurrogate, .at rest⟩

/-- Puts a character before what was read. -/
def consChar (c : Char)
    : Except Fault (List Char × List Char) → Except Fault (List Char × List Char)
  | .ok (chars, rest) => .ok (c :: chars, rest)
  | .error fault => .error fault

/-- Reads a quoted text after its opening quote: its characters, and the text after it. -/
def readString : List Char → Except Fault (List Char × List Char)
  | [] => .error ⟨.endInString, .before []⟩
  | '\\' :: 'u' :: a :: b :: c :: d :: rest =>
    match hexUnit? a b c d with
    | none => .error (hexFault (a :: b :: c :: d :: rest))
    | some unit =>
      if isTrailing unit then .error ⟨.loneSurrogate, .before rest⟩
      else if isLeading unit then
        match rest with
        | '\\' :: 'u' :: a :: b :: c :: d :: rest =>
          match hexUnit? a b c d with
          | none => .error (hexFault (a :: b :: c :: d :: rest))
          | some second =>
            if isTrailing second then consChar (pairChar unit second) (readString rest)
            else .error ⟨.loneSurrogate, .before rest⟩
        | rest => .error (pairFault rest)
      else consChar (.ofNat unit) (readString rest)
  | ['\\'] => .error ⟨.endInString, .before []⟩
  | '\\' :: escape :: rest =>
    if escape = 'u' then .error (hexFault rest)
    else
      match simpleEscape? escape with
      | some c => consChar c (readString rest)
      | none => .error ⟨.badEscape, .at (escape :: rest)⟩
  | c :: rest =>
    if c = '\x22' then .ok ([], rest)
    else if c.toNat < 32 then .error ⟨.controlCharacter, .at (c :: rest)⟩
    else consChar c (readString rest)

/--
Passes over a quoted text after its opening quote; halves of surrogate pairs may stand alone. The
place of a control character is before it.
-/
def skipString : List Char → Except Fault (List Char)
  | [] => .error ⟨.endInString, .before []⟩
  | '\\' :: 'u' :: a :: b :: c :: d :: rest =>
    match hexUnit? a b c d with
    | none => .error (hexFault (a :: b :: c :: d :: rest))
    | some _ => skipString rest
  | ['\\'] => .error ⟨.endInString, .before []⟩
  | '\\' :: escape :: rest =>
    if escape = 'u' then .error (hexFault rest)
    else
      match simpleEscape? escape with
      | some _ => skipString rest
      | none => .error ⟨.badEscape, .at (escape :: rest)⟩
  | c :: rest =>
    if c = '\x22' then .ok rest
    else if c.toNat < 32 then .error ⟨.controlCharacter, .before (c :: rest)⟩
    else skipString rest

end DiscordRest.Json.Reader
