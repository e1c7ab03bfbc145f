/-!
# Instants

An instant is a second of universal time and a part of it.  A leap second is a second with more than
a thousand million nanoseconds.  Dates follow the proleptic Gregorian calendar.
-/

namespace SignInFlow

/-- A day of the calendar. -/
structure CivilDate where
  /-- The year, zero and negative ones counted astronomically. -/
  year : Int
  /-- From 1 to 12. -/
  month : Nat
  /-- From 1. -/
  day : Nat
deriving DecidableEq, Repr

namespace CivilDate

/-- Whether a year has 366 days. -/
def isLeapYear (year : Int) : Bool :=
  year % 4 == 0 && (year % 100 != 0 || year % 400 == 0)

/-- The number of days of a month. -/
def monthLength (year : Int) (month : Nat) : Nat :=
  if month = 2 then if isLeapYear year then 29 else 28
  else if month = 4 ∨ month = 6 ∨ month = 9 ∨ month = 11 then 30
  else 31

/-- The years that dates are kept for. -/
def yearInRange (year : Int) : Bool := -262143 ≤ year && year ≤ 262142

/-- Whether such a day exists. -/
def isValid (date : CivilDate) : Bool :=
  yearInRange date.year && 1 ≤ date.month && date.month ≤ 12 && 1 ≤ date.day &&
    date.day ≤ monthLength date.year date.month

/-- Days since the start of 1970, counted in eras of 400 years that begin in March. -/
def toDays (date : CivilDate) : Int :=
  let year := if date.month ≤ 2 then date.year - 1 else date.year
  let era := year / 400
  let yearOfEra := year % 400
  let monthFromMarch := (date.month + 9) % 12
  let dayOfYear := (153 * monthFromMarch + 2) / 5 + date.day - 1
  let dayOfEra := yearOfEra * 365 + yearOfEra / 4 - yearOfEra / 100 + dayOfYear
  era * 146097 + dayOfEra - 719468

/-- The day that lies so many days after the start of 1970. -/
def ofDays (days : Int) : CivilDate :=
  let shifted := days + 719468
  let era := shifted / 146097
  let dayOfEra := shifted % 146097
  let yearOfEra := (dayOfEra - dayOfEra / 1460 + dayOfEra / 36524 - dayOfEra / 146096) / 365
  let dayOfYear := dayOfEra - (365 * yearOfEra + yearOfEra / 4 - yearOfEra / 100)
  let monthFromMarch := (5 * dayOfYear + 2) / 153
  let day := dayOfYear - (153 * monthFromMarch + 2) / 5 + 1
  let month := if monthFromMarch < 10 then monthFromMarch + 3 else monthFromMarch - 9
  let year := yearOfEra + era * 400
  ⟨if month ≤ 2 then year + 1 else year, month.toNat, day.toNat⟩

example : ofDays (toDays ⟨2024, 2, 29⟩) = ⟨2024, 2, 29⟩ := by decide
example : toDays ⟨1970, 1, 1⟩ = 0 ∧ ofDays (-719468) = ⟨0, 3, 1⟩ := by decide

end CivilDate

/-- Whether a second and its nanoseconds are an instant: its year is kept, and only the last second
of a minute is followed by a leap second. -/
def instantInRange (seconds : Int) (nanoseconds : Nat) : Bool :=
  CivilDate.yearInRange (CivilDate.ofDays (seconds / 86400)).year &&
    nanoseconds < (if seconds % 60 = 59 then 2000000000 else 1000000000)

/-- An instant of universal time, in one of the years that dates are kept for. -/
structure Instant where
  /-- Whole seconds since the start of 1970. -/
  seconds : Int
  /-- Nanoseconds within the second; in a leap second a thousand million or more. -/
  nanoseconds : Nat
  /-- The year is kept, and only the last second of a minute can be a leap second. -/
  inRange : instantInRange seconds nanoseconds = true
deriving DecidableEq, Repr

namespace Instant

/-- The start of 1970. -/
def epoch : Instant := ⟨0, 0, by decide⟩

end Instant
end SignInFlow
