import DiscordRest.Json.Fault
import DiscordRest.Json.Number

/-!
Reading numbers. Digits are gathered in a significand of 64 bits; digits that do not fit are left
out and counted. A number with a fraction, an exponent or too many digits becomes the product of
its rounded significand and a power of ten, rounded once more.
-/

namespace DiscordRest.Json.Reader

/-- Whether a text goes on with a decimal digit. -/
def startsWithDigit : List Char → Bool
  | [] => false
  | c :: _ => Text.isDigit c

/-- Whether a text goes on with the mark of an exponent. -/
def startsWithExponent : List Char → Bool
  | [] => false
  | c :: _ => c == 'e' || c == 'E'

/--
Extends a significand by the digits that a text starts with, as long as it fits into 64 bits. Gives
the significand, how many digits were taken, and the rest.
-/
def takeDigits (significand taken : Nat) : List Char → Nat × Nat × List Char
  | [] => (significand, taken, [])
  | c :: rest =>
    if Text.isDigit c && significand * 10 + (c.toNat - 48) ≤ greatestWord then
      takeDigits (significand * 10 + (c.toNat - 48)) (taken + 1) rest
    else (significand, taken, c :: rest)

/-- The text after the digits it starts with. -/
def dropDigits (text : List Char) : List Char :=
  text.dropWhile Text.isDigit

/-- A power of ten with an exponent up to 308, rounded. -/
def powerOfTen (exponent : Nat) : Binary64 :=
  .ofNat (tenTo exponent)

/--
The number `significand * 10 ^ exponent`: the rounded significand times or over a power of ten;
none if that is too great. Below ten to the power of -308 the division is made in two steps.
-/
def scale? (significand : Nat) (exponent : Int) : Option Binary64 :=
  let rounded := Binary64.ofNat significand
  if 0 ≤ exponent then
    if exponent ≤ 308 then rounded.times (powerOfTen exponent.toNat)
    else if significand = 0 then some (.zero false)
    else none
  else if -308 ≤ exponent then rounded.dividedBy (powerOfTen (-exponent).toNat)
  else if -616 ≤ exponent then do
    let reduced ← rounded.dividedBy (powerOfTen 308)
    if reduced.isZero then reduced
    else reduced.dividedBy (powerOfTen (-exponent - 308).toNat)
  else some (.zero false)

/-- The scaled number with its sign, and the rest; `rest` is the place where it is too great. -/
def scaled (negative : Bool) (significand : Nat) (exponent : Int) (rest : List Char)
    : Except Fault (Number × List Char) :=
  match scale? significand exponent with
  | some size => .ok (.real (if negative then size.negate else size), rest)
  | none => .error ⟨.numberOutOfRange, .before rest⟩

/-- The greatest size of a written exponent. -/
def greatestExponent : Nat := 2147483647

/-- The value of an exponent's digits; else the rest after the digit that makes it too great. -/
def exponentDigits (value : Nat) : List Char → Except (List Char) (Nat × List Char)
  | [] => .ok (value, [])
  | c :: rest =>
    if Text.isDigit c then
      if value * 10 + (c.toNat - 48) ≤ greatestExponent then
        exponentDigits (value * 10 + (c.toNat - 48)) rest
      else .error rest
    else .ok (value, c :: rest)

/-- Reads what follows the mark of an exponent. -/
def readExponent (negative : Bool) (significand : Nat) (exponent : Int) (text : List Char)
    : Except Fault (Number × List Char) :=
  let (down, digits) := match text with
    | '+' :: rest => (false, rest)
    | '-' :: rest => (true, rest)
    | rest => (false, rest)
  match digits with
  | [] => .error ⟨.endInValue, .before []⟩
  | c :: rest =>
    if Text.isDigit c then
      match exponentDigits (c.toNat - 48) rest with
      | .ok (value, rest) =>
        scaled negative significand (if down then exponent - value else exponent + value) rest
      | .error rest =>
        if significand ≠ 0 && !down then .error ⟨.numberOutOfRange, .before rest⟩
        else .ok (.real (.zero negative), dropDigits rest)
    else .error ⟨.badNumber, .at (c :: rest)⟩

/-- Reads an exponent if there is one. -/
def readScale (negative : Bool) (significand : Nat) (exponent : Int) (text : List Char)
    : Except Fault (Number × List Char) :=
  if startsWithExponent text then readExponent negative significand exponent text.tail
  else scaled negative significand exponent text

/-- Reads what follows the decimal point, at least one digit. -/
def readFraction (negative : Bool) (significand : Nat) (exponent : Int) (text : List Char)
    : Except Fault (Number × List Char) :=
  let (significand, taken, rest) := takeDigits significand 0 text
  if startsWithDigit rest then
    readScale negative significand (exponent - taken) (dropDigits rest)
  else if taken = 0 then
    match rest with
    | [] => .error ⟨.endInValue, .before []⟩
    | _ => .error ⟨.badNumber, .at rest⟩
  else readScale negative significand (exponent - taken) rest

/-- The number with a sign and a significand; a negative zero and all beyond 64 bits are real. -/
def wholeNumber (negative : Bool) (significand : Nat) : Number :=
  let value : Int := if negative then -significand else significand
  if negative && significand == 0 then .real (.zero true)
  else
    match Number.ofInt? value with
    | some number => number
    | none => .real { Binary64.ofNat significand with negative }

/-- Reads what follows the integer digits of a number. -/
def readTail (negative : Bool) (significand : Nat) (text : List Char)
    : Except Fault (Number × List Char) :=
  match text with
  | '.' :: rest => readFraction negative significand 0 rest
  | rest =>
    if startsWithExponent rest then readExponent negative significand 0 rest.tail
    else .ok (wholeNumber negative significand, rest)

/-- Reads what follows the integer digits of a number of which `omitted` were left out. -/
def readLongTail (negative : Bool) (significand omitted : Nat) (text : List Char)
    : Except Fault (Number × List Char) :=
  match text with
  | '.' :: rest => readFraction negative significand omitted rest
  | rest => readScale negative significand omitted rest

/-- Reads a number after its sign: no digit may follow a leading zero. -/
def readNumber (negative : Bool) (text : List Char) : Except Fault (Number × List Char) :=
  match text with
  | [] => .error ⟨.endInValue, .before []⟩
  | '0' :: rest =>
    if startsWithDigit rest then .error ⟨.badNumber, .at rest⟩ else readTail negative 0 rest
  | c :: rest =>
    if Text.isDigit c then
      let (significand, _, rest) := takeDigits (c.toNat - 48) 0 rest
      if startsWithDigit rest then
        let after := dropDigits rest
        readLongTail negative significand (rest.length - after.length) after
      else readTail negative significand rest
    else .error ⟨.badNumber, .at (c :: rest)⟩

/-- Passes over the digits that must follow the mark of an exponent. -/
def skipExponent (text : List Char) : Except Fault (List Char) :=
  let digits := match text with
    | '+' :: rest => rest
    | '-' :: rest => rest
    | rest => rest
  if startsWithDigit digits then .ok (dropDigits digits) else .error ⟨.badNumber, .at digits⟩

/-- Passes over an exponent if there is one. -/
def skipScale (text : List Char) : Except Fault (List Char) :=
  if startsWithExponent text then skipExponent text.tail else .ok text

/-- Passes over a fraction and an exponent if there are any. -/
def skipTail (text : List Char) : Except Fault (List Char) :=
  match text with
  | '.' :: rest =>
    if startsWithDigit rest then skipScale (dropDigits rest) else .error ⟨.badNumber, .at rest⟩
  | rest => skipScale rest

/-- Passes over a number after its sign, of whatever size. -/
def skipNumber (text : List Char) : Except Fault (List Char) :=
  match text with
  | '0' :: rest =>
    if startsWithDigit rest then .error ⟨.badNumber, .at rest⟩ else skipTail rest
  | rest =>
    if startsWithDigit rest then skipTail (dropDigits rest) else .error ⟨.badNumber, .at rest⟩

end DiscordRest.Json.Reader
