import DiscordRest.Instant
import DiscordRest.Number.Power
import DiscordRest.Text.Blank
import DiscordRest.Text.Numeral

/-!
Snowflakes: identifiers of 64 bits, ordered by the time at which they were minted. The upper 42
bits count milliseconds since the first moment of 2015; the wire form is a decimal numeral.
-/

namespace DiscordRest

/-- An identifier of 64 bits. -/
structure Snowflake where
  /-- The identifier as a number. -/
  value : UInt64
  deriving DecidableEq, Repr, Hashable

namespace Snowflake

/-- The identifier that comes before all others, and the cursor "from the beginning". -/
def zero : Snowflake := ⟨0⟩

/-- Identifiers default to `zero`. -/
instance : Inhabited Snowflake := ⟨zero⟩

/-- Identifiers are ordered as numbers. -/
instance : LE Snowflake where
  le a b := a.value ≤ b.value

/-- Identifiers are ordered strictly as numbers. -/
instance : LT Snowflake where
  lt a b := a.value < b.value

/-- The order of identifiers is decided on their numbers. -/
instance (a b : Snowflake) : Decidable (a ≤ b) :=
  inferInstanceAs (Decidable (a.value ≤ b.value))

/-- The strict order of identifiers is decided on their numbers. -/
instance (a b : Snowflake) : Decidable (a < b) :=
  inferInstanceAs (Decidable (a.value < b.value))

/-- How two identifiers compare. -/
def compare (a b : Snowflake) : Ordering :=
  if a < b then .lt else if a = b then .eq else .gt

/-- The greatest of some identifiers. -/
def greatest? : List Snowflake → Option Snowflake
  | [] => none
  | first :: rest => some (rest.foldl (fun best id => if best ≤ id then id else best) first)

/-- The identifiers in ascending order, equal ones in their given order. -/
def sorted (ids : List Snowflake) : List Snowflake :=
  ids.mergeSort fun a b => decide (a ≤ b)

/-- The decimal numeral of an identifier, without leading zeros. -/
def text (id : Snowflake) : String :=
  Text.decimal id.value.toNat

/--
Reads an identifier exactly as written: at most one plus sign and then a decimal numeral, with any
number of leading zeros, below two to the power of 64.
-/
def ofText? (text : String) : Option Snowflake :=
  match Text.readUnsigned 10 greatestWord text.toList with
  | .ok value => some ⟨UInt64.ofNat value⟩
  | .error _ => none

/-- Reads an identifier between blank characters. -/
def parse? (text : String) : Option Snowflake :=
  ofText? (String.ofList (Text.trimBlank text.toList))

/-- The milliseconds between the first moments of 1970 and of 2015. -/
def epochMilliseconds : UInt64 := 1420070400000

/-- The milliseconds since the first moment of 1970 at which an identifier was minted. -/
def mintedMilliseconds (id : Snowflake) : UInt64 :=
  (id.value >>> 22) + epochMilliseconds

/--
The instant at which an identifier was minted, by its milliseconds as a signed number; the first
moment of 1970 if the calendar did not have it.
-/
def minted (id : Snowflake) : Instant :=
  (Instant.ofMilliseconds? id.mintedMilliseconds.toInt64.toInt).getD default

/--
The least identifier that could be minted in the millisecond of `instant`; `zero` before 2015. The
count of milliseconds loses what does not fit into the upper 42 bits.
-/
def ofInstant (instant : Instant) : Snowflake :=
  ⟨UInt64.ofNat (instant.milliseconds.toNat - epochMilliseconds.toNat) <<< 22⟩

end Snowflake

end DiscordRest
