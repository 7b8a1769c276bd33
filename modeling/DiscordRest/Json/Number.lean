import DiscordRest.Number.Shortest
import DiscordRest.Text.Numeral

/-!
Numbers of JSON documents: integers of 64 bits, signed or not, and binary floating-point numbers
for all others. An integer is written in decimal, any other number by its shortest decimal.
-/

namespace DiscordRest.Json

/-- The least integer that is kept as one. -/
def leastInteger : Int := -9223372036854775808

/-- The greatest integer that is kept as one. -/
def greatestInteger : Int := 18446744073709551615

/-- A number of a document. -/
inductive Number where
  /-- An integer that fits into 64 bits, with or without a sign. -/
  | integer (value : Int) (bounds : leastInteger ≤ value ∧ value ≤ greatestInteger)
  /-- A finite floating-point number. -/
  | real (value : Binary64)
  deriving DecidableEq, Repr

namespace Number

/-- The integer as a number, if it fits into 64 bits. -/
def ofInt? (value : Int) : Option Number :=
  if bounds : leastInteger ≤ value ∧ value ≤ greatestInteger then some (.integer value bounds)
  else none

/-- The unsigned integer as a number. -/
def ofWord (value : UInt64) : Number :=
  .integer value.toNat (by
    have below := value.toNat_lt
    unfold leastInteger greatestInteger
    omega)

/-- Whether two numbers are equal; zero is equal to its negative. -/
def same : Number → Number → Bool
  | integer a _, integer b _ => a == b
  | real a, real b => a.same b
  | _, _ => false

/--
The text of a floating-point number: all digits around a point while the point stands among the
first seventeen digits or at most five zeros lead, and one digit, a fraction and a power of ten
otherwise.
-/
def realText (x : Binary64) : String :=
  let sign := if x.negative then "-" else ""
  if x.isZero then sign ++ "0.0"
  else
    let d := x.shortest
    if -5 < d.point ∧ d.point ≤ 16 then sign ++ d.positional
    else
      let fraction := match d.digits with
        | [] => []
        | [only] => [only]
        | first :: more => first :: '.' :: more
      let power := d.point - 1
      let mark := if 0 ≤ power then "e+" else "e-"
      sign ++ String.ofList fraction ++ mark ++ Text.decimal power.natAbs

/-- The text of a number. -/
def text : Number → String
  | integer value _ => Text.decimalInt value
  | real value => realText value

end Number

end DiscordRest.Json
