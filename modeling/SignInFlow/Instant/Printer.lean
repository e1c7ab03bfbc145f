import SignInFlow.Instant
import SignInFlow.Decimal.Shortest

/-!
# Writing timestamps

Timestamps are written in universal time, with three, six or nine decimals of a second where that
many are needed.
-/

namespace SignInFlow.Instant

/-- The digits of a number, with zeros in front up to the given width. -/
def padded (width value : Nat) : String :=
  let digits := Decimal.digitText value
  Decimal.zeros (width - digits.length) ++ digits

/-- A year has four digits, and a sign where four are not enough or it is negative. -/
def yearText (year : Int) : String :=
  if 0 ≤ year ∧ year ≤ 9999 then padded 4 year.natAbs
  else (if year < 0 then "-" else "+") ++ padded 4 year.natAbs

/-- The decimals of a second in the shortest of the widths 0, 3, 6 and 9 that loses nothing. -/
def fractionText (nanoseconds : Nat) : String :=
  if nanoseconds = 0 then ""
  else if nanoseconds % 1000000 = 0 then "." ++ padded 3 (nanoseconds / 1000000)
  else if nanoseconds % 1000 = 0 then "." ++ padded 6 (nanoseconds / 1000)
  else "." ++ padded 9 nanoseconds

/-- The text of an instant. -/
def render (instant : Instant) : String :=
  let date := CivilDate.ofDays (instant.seconds / 86400)
  let secondOfDay := (instant.seconds % 86400).toNat
  let second := secondOfDay % 60
  let (second, nanoseconds) :=
    if 1000000000 ≤ instant.nanoseconds then (second + 1, instant.nanoseconds - 1000000000)
    else (second, instant.nanoseconds)
  yearText date.year ++ "-" ++ padded 2 date.month ++ "-" ++ padded 2 date.day ++ "T"
    ++ padded 2 (secondOfDay / 3600) ++ ":" ++ padded 2 (secondOfDay / 60 % 60) ++ ":"
    ++ padded 2 second ++ fractionText nanoseconds ++ "Z"

end SignInFlow.Instant
