/-! Powers of two and of ten, and the greatest integers that words of some sizes hold. -/

namespace DiscordRest

/-- A power of two. -/
def twoTo (exponent : Nat) : Nat :=
  Nat.pow 2 exponent

/-- A power of ten. -/
def tenTo (exponent : Nat) : Nat :=
  Nat.pow 10 exponent

/-- The greatest integer of 32 bits. -/
def greatestHalfWord : Nat := 4294967295

/-- The greatest integer of 64 bits. -/
def greatestWord : Nat := 18446744073709551615

/-- The greatest integer of 64 bits with a sign; one more is the size of the least. -/
def greatestSigned : Nat := 9223372036854775807

/-- The greatest integer of 128 bits. -/
def greatestDoubleWord : Nat := 340282366920938463463374607431768211455

/-- The size of the least integer of 128 bits with a sign. -/
def leastSignedDoubleWord : Nat := 170141183460469231731687303715884105728

end DiscordRest
