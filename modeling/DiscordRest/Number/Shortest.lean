import DiscordRest.Number.Binary64

/-!
Shortest decimals: of all decimals that round to a given binary number the one with the fewest
digits, and of those the nearest. The search tests, for 1, 2, … 17 digits, the two neighbours of
the number on the grid of that many digits.
-/

namespace DiscordRest

/-- The decimal `0.d₁d₂…dₙ * 10 ^ point` with the given digits. -/
structure Decimal where
  /-- The digits, the first and the last of them not zero. -/
  digits : List Char
  /-- How many digits stand before the decimal point; none or fewer for small decimals. -/
  point : Int
  deriving DecidableEq, Repr

/-- The decimal written out with a decimal point and at least one digit on each side of it. -/
def Decimal.positional (d : Decimal) : String :=
  let zeros := fun (n : Int) => List.replicate n.toNat '0'
  if d.point ≤ 0 then String.ofList (['0', '.'] ++ zeros (-d.point) ++ d.digits)
  else
    let before := d.digits.take d.point.toNat
    let after := d.digits.drop d.point.toNat
    String.ofList (before ++ zeros (d.point - before.length) ++ ['.']
      ++ (if after.isEmpty then ['0'] else after))

namespace Binary64

/--
The interval of the reals that round to a positive number, as numerators over one denominator: the
number itself, the lower end and the upper end. Below a power of two the next number is closer.
-/
structure Interval where
  /-- The number. -/
  value : Nat
  /-- The lower end. -/
  low : Nat
  /-- The upper end. -/
  high : Nat
  /-- The common denominator. -/
  denominator : Nat
  /-- Whether the ends round to the number as well. -/
  closed : Bool

/-- The interval that rounds to `significand * 2 ^ exponent`. -/
def interval (x : Binary64) : Interval :=
  let below := if x.significand = twoTo 52 && leastExponent < x.exponent then 1 else 2
  let factor := twoTo (x.exponent - 2).toNat
  ⟨4 * x.significand * factor, (4 * x.significand - below) * factor,
    (4 * x.significand + 2) * factor, twoTo (2 - x.exponent).toNat, x.significand % 2 == 0⟩

/-- Whether `digits * 10 ^ power` lies in an interval. -/
def Interval.holds (i : Interval) (digits : Nat) (power : Int) : Bool :=
  let scaled := digits * tenTo power.toNat * i.denominator
  let low := i.low * tenTo (-power).toNat
  let high := i.high * tenTo (-power).toNat
  if i.closed then low ≤ scaled && scaled ≤ high else low < scaled && scaled < high

/-- The distance of `digits * 10 ^ power` from the number, in one unit for equal powers. -/
def Interval.distance (i : Interval) (digits : Nat) (power : Int) : Nat :=
  let scaled := digits * tenTo power.toNat * i.denominator
  let value := i.value * tenTo (-power).toNat
  (scaled - value) + (value - scaled)

/--
How many digits stand before the decimal point of the positive fraction `numerator / denominator`;
counts down below one tenth for at most `steps` places.
-/
def pointOf (numerator denominator : Nat) : Nat → Int
  | 0 => 0
  | steps + 1 =>
    if denominator ≤ numerator then (Nat.toDigits 10 (numerator / denominator)).length
    else if denominator ≤ numerator * 10 then 0
    else pointOf (numerator * 10) denominator steps - 1

/-- The decimal with the given digits and power of ten, without zeros at the end. -/
def decimalOf (digits : Nat) (power : Int) : Decimal :=
  let text := Nat.toDigits 10 digits
  ⟨(text.reverse.dropWhile (· == '0')).reverse, text.length + power⟩

/--
The shortest decimal that rounds to a number with the given interval, of those with `count` digits
or more; the search ends after `steps` counts at the decimal of the last grid.
-/
def Interval.shortest (i : Interval) (point : Int) (count : Nat) : Nat → Decimal
  | 0 =>
    decimalOf
      (i.value * tenTo (count - point).toNat / (i.denominator * tenTo (point - count).toNat))
      (point - count)
  | steps + 1 =>
    let power := point - count
    let lower := i.value * tenTo (-power).toNat / (i.denominator * tenTo power.toNat)
    let upper := lower + 1
    match i.holds lower power, i.holds upper power with
    | true, true =>
      if i.distance lower power < i.distance upper power then decimalOf lower power
      else if i.distance upper power < i.distance lower power then decimalOf upper power
      else decimalOf (lower + lower % 2) power
    | true, false => decimalOf lower power
    | false, true => decimalOf upper power
    | false, false => i.shortest point (count + 1) steps

/-- The shortest decimal of the size of a number other than zero. -/
def shortest (x : Binary64) : Decimal :=
  let i := x.interval
  i.shortest (pointOf i.value i.denominator 400) 1 17

end Binary64

end DiscordRest
