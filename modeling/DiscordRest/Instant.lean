import DiscordRest.Text.Numeral

/-!
Instants of coordinated universal time to the nanosecond, leap seconds included, their place in the
Gregorian calendar, and their written form after RFC 3339.
-/

namespace DiscordRest

/--
A moment, as a second and what has passed of it. A leap second is no second of its own: it goes
with the second before it, whose nanoseconds then count on beyond one thousand million.
-/
structure Instant where
  /-- The seconds since the first moment of 1970, without leap seconds; negative before it. -/
  seconds : Int
  /-- The nanoseconds since the second began. -/
  nanoseconds : Nat
  deriving DecidableEq, Repr

namespace Instant

/-- The first moment of 1970, unless something else is said. -/
instance : Inhabited Instant := ⟨⟨0, 0⟩⟩

/-- Orders instants by time: by their seconds, and within a second by its nanoseconds. -/
instance : LE Instant where
  le a b := a.seconds < b.seconds ∨ a.seconds = b.seconds ∧ a.nanoseconds ≤ b.nanoseconds

/-- Orders instants strictly by time. -/
instance : LT Instant where
  lt a b := a.seconds < b.seconds ∨ a.seconds = b.seconds ∧ a.nanoseconds < b.nanoseconds

/-- The order of instants is decided on their numbers. -/
instance (a b : Instant) : Decidable (a ≤ b) :=
  inferInstanceAs (Decidable (_ ∨ _))

/-- The strict order of instants is decided on their numbers. -/
instance (a b : Instant) : Decidable (a < b) :=
  inferInstanceAs (Decidable (_ ∨ _))

/-- The instant a whole number of milliseconds after the first moment of 1970. -/
def ofMilliseconds (count : Int) : Instant :=
  ⟨count / 1000, (count % 1000).toNat * 1000000⟩

/-- The instant `seconds` and `nanoseconds` after the first moment of 1970. -/
def ofSeconds (seconds : Int) (nanoseconds : Nat) : Instant :=
  ⟨seconds, nanoseconds⟩

/--
The whole milliseconds since the first moment of 1970, rounded toward the past. Those of a leap
second are counted a second time, as the first ones of the next second.
-/
def milliseconds (instant : Instant) : Int :=
  instant.seconds * 1000 + (instant.nanoseconds / 1000000 : Nat)

/-- A day of the Gregorian calendar. -/
structure Date where
  /-- The year, with a year zero before the first. -/
  year : Int
  /-- The month, from one. -/
  month : Nat
  /-- The day of the month, from one. -/
  day : Nat
  deriving DecidableEq, Repr

/--
The date of the day `days` after 1 January 1970. Years are counted from March, so that a leap day
is the last of its year, and in eras of 400 years, which all have 146097 days.
-/
def dateOfDays (days : Int) : Date :=
  let shifted := days + 719468
  let era := shifted.fdiv 146097
  let dayOfEra := (shifted - era * 146097).toNat
  let yearOfEra := (dayOfEra - dayOfEra / 1460 + dayOfEra / 36524 - dayOfEra / 146096) / 365
  let dayOfYear := dayOfEra - (365 * yearOfEra + yearOfEra / 4 - yearOfEra / 100)
  let marchMonth := (5 * dayOfYear + 2) / 153
  let day := dayOfYear - (153 * marchMonth + 2) / 5 + 1
  let month := if marchMonth < 10 then marchMonth + 3 else marchMonth - 9
  let year := (yearOfEra : Int) + era * 400 + (if month ≤ 2 then 1 else 0)
  ⟨year, month, day⟩

/-- The day on which an instant lies. -/
def date (instant : Instant) : Date :=
  dateOfDays (instant.seconds.fdiv 86400)

/-- The first year of the calendar. -/
def firstYear : Int := -262143

/-- The last year of the calendar. -/
def lastYear : Int := 262142

/-- An instant on a day of the calendar, at most one leap second behind its second. -/
def InCalendar (instant : Instant) : Prop :=
  firstYear ≤ instant.date.year ∧ instant.date.year ≤ lastYear
    ∧ instant.nanoseconds < 2000000000

/-- Whether the calendar has an instant is decided on its numbers. -/
instance (instant : Instant) : Decidable instant.InCalendar :=
  inferInstanceAs (Decidable (_ ∧ _))

/-- The instant some milliseconds after the first moment of 1970, if the calendar has it. -/
def ofMilliseconds? (count : Int) : Option Instant :=
  if (ofMilliseconds count).InCalendar then some (ofMilliseconds count) else none

/-- The written year: four digits from 0 to 9999, and a sign outside of that. -/
def writtenYear (year : Int) : String :=
  if 0 ≤ year && year ≤ 9999 then Text.decimalPadded 4 year.toNat
  else if year < 0 then "-" ++ Text.decimalPadded 4 year.natAbs
  else "+" ++ Text.decimalPadded 5 year.toNat

/-- The written part of a second: nothing, or the least of 3, 6 and 9 digits that is exact. -/
def writtenFraction (nanoseconds : Nat) : String :=
  if nanoseconds = 0 then ""
  else if nanoseconds % 1000000 = 0 then "." ++ Text.decimalPadded 3 (nanoseconds / 1000000)
  else if nanoseconds % 1000 = 0 then "." ++ Text.decimalPadded 6 (nanoseconds / 1000)
  else "." ++ Text.decimalPadded 9 nanoseconds

/-- The instant as RFC 3339 writes it, at offset zero; a leap second has the number 60. -/
def rfc3339 (instant : Instant) : String :=
  let days := instant.seconds.fdiv 86400
  let secondOfDay := (instant.seconds - days * 86400).toNat
  writtenYear instant.date.year ++ "-" ++ Text.decimalPadded 2 instant.date.month ++ "-"
    ++ Text.decimalPadded 2 instant.date.day ++ "T"
    ++ Text.decimalPadded 2 (secondOfDay / 3600) ++ ":"
    ++ Text.decimalPadded 2 (secondOfDay / 60 % 60) ++ ":"
    ++ Text.decimalPadded 2 (secondOfDay % 60 + instant.nanoseconds / 1000000000)
    ++ writtenFraction (instant.nanoseconds % 1000000000) ++ "+00:00"

end Instant

end DiscordRest
