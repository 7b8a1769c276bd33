/-!
Positional numerals: reading them in any base up to sixteen, and writing them in base ten. A
bounded reader tells an unreadable numeral from one that is too large.
-/

namespace DiscordRest.Text

/-- The value of a digit of base ten or sixteen; letters count in either case. -/
def digitValue? (c : Char) : Option Nat :=
  if '0' ≤ c && c ≤ '9' then some (c.toNat - 48)
  else if 'a' ≤ c && c ≤ 'f' then some (c.toNat - 87)
  else if 'A' ≤ c && c ≤ 'F' then some (c.toNat - 55)
  else none

/-- The value of a digit in the given base. -/
def digitOf? (base : Nat) (c : Char) : Option Nat :=
  match digitValue? c with
  | some value => if value < base then some value else none
  | none => none

/-- The ASCII digits zero to nine. -/
def isDigit (c : Char) : Bool :=
  '0' ≤ c && c ≤ '9'

/-- The ASCII hexadecimal digits, in either case. -/
def isHexDigit (c : Char) : Bool :=
  (digitValue? c).isSome

/-- Extends a number by the digits of a text, from the left. -/
def readDigitsFrom (base value : Nat) : List Char → Option Nat
  | [] => some value
  | c :: rest =>
    match digitOf? base c with
    | some digit => readDigitsFrom base (value * base + digit) rest
    | none => none

/-- The value of a numeral: one digit or more and nothing else. -/
def readDigits? (base : Nat) : List Char → Option Nat
  | [] => none
  | c :: rest => readDigitsFrom base 0 (c :: rest)

/-- Why a text is not a number of a bounded kind. -/
inductive NumeralFault where
  /-- There is no character at all. -/
  | missing
  /-- Some character is not a digit of the base. -/
  | malformed
  /-- The value lies above the greatest one allowed. -/
  | tooLarge
  /-- The value lies below the least one allowed. -/
  | tooSmall
  deriving DecidableEq, Repr

/-- The words for a numeral's fault. -/
def NumeralFault.message : NumeralFault → String
  | missing => "cannot parse integer from empty string"
  | malformed => "invalid digit found in string"
  | tooLarge => "number too large to fit in target type"
  | tooSmall => "number too small to fit in target type"

/--
Extends a number by the digits of a text, from the left. The first character that is no digit or
takes the number above `greatest` decides the fault.
-/
def readBoundedFrom (base greatest value : Nat) : List Char → Except NumeralFault Nat
  | [] => .ok value
  | c :: rest =>
    match digitOf? base c with
    | some digit =>
      if value * base + digit ≤ greatest then
        readBoundedFrom base greatest (value * base + digit) rest
      else .error .tooLarge
    | none => .error .malformed

/-- Reads a numeral without sign, at most `greatest`; a text without digits is malformed. -/
def readBounded (base greatest : Nat) : List Char → Except NumeralFault Nat
  | [] => .error .malformed
  | c :: rest => readBoundedFrom base greatest 0 (c :: rest)

/--
Reads an unsigned number at most `greatest`: a numeral after at most one plus sign. A sign alone
is malformed, and only the empty text is missing.
-/
def readUnsigned (base greatest : Nat) : List Char → Except NumeralFault Nat
  | [] => .error .missing
  | '+' :: rest => readBounded base greatest rest
  | text => readBounded base greatest text

/--
Reads a signed number from `-least` to `greatest`: a numeral after at most one sign.
-/
def readSigned (base least greatest : Nat) : List Char → Except NumeralFault Int
  | [] => .error .missing
  | '-' :: rest =>
    match readBounded base least rest with
    | .ok value => .ok (-(value : Int))
    | .error .tooLarge => .error .tooSmall
    | .error fault => .error fault
  | '+' :: rest => (readBounded base greatest rest).map Int.ofNat
  | text => (readBounded base greatest text).map Int.ofNat

/-- The decimal numeral of a number, without leading zeros. -/
def decimal (n : Nat) : String :=
  String.ofList (Nat.toDigits 10 n)

/-- The decimal numeral of a number, padded on the left with zeros to at least `width` digits. -/
def decimalPadded (width n : Nat) : String :=
  let digits := Nat.toDigits 10 n
  String.ofList (List.replicate (width - digits.length) '0' ++ digits)

/-- The decimal numeral of an integer, with a minus sign when it is negative. -/
def decimalInt (n : Int) : String :=
  if n < 0 then "-" ++ decimal n.natAbs else decimal n.natAbs

/-- The lower-case hexadecimal numeral of a number. -/
def hexadecimal (n : Nat) : List Char :=
  Nat.toDigits 16 n

/-- The hexadecimal numeral of a number below 256 in two upper-case digits. -/
def hexPair (n : Nat) : List Char :=
  [upperHexDigit (n / 16), upperHexDigit (n % 16)]
where
  /-- The upper-case hexadecimal digit of a value below sixteen. -/
  upperHexDigit (d : Nat) : Char :=
    if d < 10 then Char.ofNat (48 + d) else Char.ofNat (55 + d)

end DiscordRest.Text
