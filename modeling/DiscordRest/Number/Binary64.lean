import DiscordRest.Number.Power

/-!
Finite binary floating-point numbers of 64 bits, as a sign, a significand and a power of two.
Rounding is exact arithmetic on natural numbers: to the nearest number, ties to the even one.
-/

namespace DiscordRest

/--
A finite number of the format: `significand * 2 ^ exponent`, negated if `negative`. Significands
lie below `2 ^ 53`, exponents between `-1074` and `971`, and below `2 ^ 52` the exponent is the
least one, so that equal numbers have one form, but for the sign of zero.
-/
structure Binary64 where
  /-- Whether the number carries a minus sign; zero may. -/
  negative : Bool
  /-- The significand, below two to the power of 53. -/
  significand : Nat
  /-- The power of two that scales the significand. -/
  exponent : Int
  deriving DecidableEq, Repr, Inhabited

namespace Binary64

/-- The least exponent. -/
def leastExponent : Int := -1074

/-- The greatest exponent. -/
def greatestExponent : Int := 971

/-- Zero with the given sign. -/
def zero (negative : Bool) : Binary64 := ⟨negative, 0, leastExponent⟩

/-- Whether a number is zero, of either sign. -/
def isZero (x : Binary64) : Bool := x.significand == 0

/-- The number with the other sign. -/
def negate (x : Binary64) : Binary64 := { x with negative := !x.negative }

/-- Numbers are the same when they are equal or both zero. -/
def same (x y : Binary64) : Bool :=
  x == y || (x.isZero && y.isZero)

/-- The quotient rounded to the nearest integer, ties to the even one. -/
def divideNearest (numerator denominator : Nat) : Nat :=
  let quotient := numerator / denominator
  let rest := numerator % denominator
  if 2 * rest < denominator then quotient
  else if 2 * rest = denominator then quotient + quotient % 2
  else quotient + 1

/-- A fraction divided by a power of two, again as a fraction. -/
def descale (numerator denominator : Nat) (exponent : Int) : Nat × Nat :=
  if 0 ≤ exponent then (numerator, denominator * twoTo exponent.toNat)
  else (numerator * twoTo (-exponent).toNat, denominator)

/--
The exponent of the number nearest to a positive fraction: the one that leaves a significand of 53
bits, or the least one. The first estimate from the lengths is at most one too great.
-/
def exponentOf (numerator denominator : Nat) : Int :=
  let estimate : Int := (numerator.log2 : Int) - denominator.log2 - 52
  let (above, below) := descale numerator denominator estimate
  let exact := if above / below < twoTo 52 then estimate - 1 else estimate
  max exact leastExponent

/-- The number nearest to a fraction with a positive denominator; none above the greatest one. -/
def ofFraction (negative : Bool) (numerator denominator : Nat) : Option Binary64 :=
  if numerator = 0 then some (zero negative)
  else
    let exponent := exponentOf numerator denominator
    let (above, below) := descale numerator denominator exponent
    let rounded := divideNearest above below
    let (significand, exponent) :=
      if rounded = twoTo 53 then (twoTo 52, exponent + 1) else (rounded, exponent)
    if exponent ≤ greatestExponent then some ⟨negative, significand, exponent⟩ else none

/-- The size of a number as a fraction. -/
def fraction (x : Binary64) : Nat × Nat :=
  if 0 ≤ x.exponent then (x.significand * twoTo x.exponent.toNat, 1)
  else (x.significand, twoTo (-x.exponent).toNat)

/-- The number nearest to a natural number below two to the power of 1023. -/
def ofNat (n : Nat) : Binary64 :=
  (ofFraction false n 1).getD (zero false)

/-- The rounded product; none when it is too great. -/
def times (x y : Binary64) : Option Binary64 :=
  let (a, b) := x.fraction
  let (c, d) := y.fraction
  ofFraction (x.negative != y.negative) (a * c) (b * d)

/-- The rounded quotient by a number other than zero; none when it is too great. -/
def dividedBy (x y : Binary64) : Option Binary64 :=
  let (a, b) := x.fraction
  let (c, d) := y.fraction
  ofFraction (x.negative != y.negative) (a * d) (b * c)

/--
The number nearest to `digits * 10 ^ power`; none above the greatest one. Powers beyond what a
significand of that length can bring into range are settled without computing them.
-/
def ofDecimal (negative : Bool) (digits : Nat) (power : Int) : Option Binary64 :=
  if digits = 0 then some (zero negative)
  else
    let size : Int := (Nat.toDigits 10 digits).length + power
    if 310 < size then none
    else if size < -330 then some (zero negative)
    else if 0 ≤ power then ofFraction negative (digits * tenTo power.toNat) 1
    else ofFraction negative digits (tenTo (-power).toNat)

end Binary64

end DiscordRest
