import SignInFlow.Decimal.Digits
import SignInFlow.Instant.Printer

/-!
# Dates and times of a TOML document

A date, a time of day, or both, and then perhaps a place on the earth.  Unlike an instant, such a
moment is kept as it is written; only decimals of a second beyond the ninth are dropped.
-/

namespace SignInFlow

/-- A time of day. -/
structure TimeOfDay where
  /-- Below 24. -/
  hour : Nat
  /-- Below 60. -/
  minute : Nat
  /-- At most 60. -/
  second : Nat
  /-- Below a thousand million. -/
  nanoseconds : Nat
deriving DecidableEq, Repr

/-- How far local time is from universal time. -/
inductive Zone where
  /-- It is universal time. -/
  | universal
  /-- Minutes ahead of universal time. -/
  | ahead (minutes : Int)
deriving DecidableEq, Repr

/-- A moment as it is written. -/
inductive Moment where
  /-- A date. -/
  | onDate (date : CivilDate)
  /-- A time of day. -/
  | atTime (time : TimeOfDay)
  /-- A time of a day, somewhere. -/
  | dated (date : CivilDate) (time : TimeOfDay) (zone : Option Zone)
deriving DecidableEq, Repr

/-- A date as year, month and day. -/
def CivilDate.render (date : CivilDate) : String :=
  Instant.padded 4 date.year.toNat ++ "-" ++ Instant.padded 2 date.month ++ "-"
    ++ Instant.padded 2 date.day

/-- A time of day, with as many decimals of the second as are needed. -/
def TimeOfDay.render (time : TimeOfDay) : String :=
  let decimals := (Instant.padded 9 time.nanoseconds).toList.reverse.dropWhile (· = '0')
  Instant.padded 2 time.hour ++ ":" ++ Instant.padded 2 time.minute ++ ":"
    ++ Instant.padded 2 time.second
    ++ if decimals.isEmpty then "" else "." ++ String.ofList decimals.reverse

/-- A zone as `Z` or as hours and minutes. -/
def Zone.render : Zone → String
  | .universal => "Z"
  | .ahead minutes =>
      (if minutes < 0 then "-" else "+") ++ Instant.padded 2 (minutes.natAbs / 60) ++ ":"
        ++ Instant.padded 2 (minutes.natAbs % 60)

namespace Moment

/-- The text of a moment. -/
def render : Moment → String
  | onDate date => date.render
  | atTime time => time.render
  | dated date time zone =>
      date.render ++ "T" ++ time.render ++ (zone.map Zone.render).getD ""

/-- A number of exactly `count` digits between two bounds. -/
def number? (count least greatest : Nat) (input : List Char) : Option (Nat × List Char) :=
  let digits := input.take count
  let value := digitsValue digits
  if digits.length = count ∧ digits.all Char.isDigit ∧ least ≤ value ∧ value ≤ greatest then
    some (value, input.drop count)
  else none

/-- What follows a character. -/
def after? (character : Char) : List Char → Option (List Char)
  | [] => none
  | first :: rest => if first = character then some rest else none

/-- A date that exists. -/
def date? (input : List Char) : Option (CivilDate × List Char) := do
  let (year, rest) ← number? 4 0 9999 input
  let (month, rest) ← number? 2 1 12 (← after? '-' rest)
  let (day, rest) ← number? 2 1 (CivilDate.monthLength year month) (← after? '-' rest)
  pure (⟨year, month, day⟩, rest)

/-- Decimals of a second as nanoseconds: none where no digit follows the point. -/
def decimals (input : List Char) : Nat × List Char :=
  match input with
  | '.' :: rest =>
      let digits := rest.takeWhile Char.isDigit
      let kept := digits.take 9
      if digits.isEmpty then (0, input)
      else (digitsValue kept * Nat.pow 10 (9 - kept.length), rest.drop digits.length)
  | _ => (0, input)

/-- A time of day. -/
def time? (input : List Char) : Option (TimeOfDay × List Char) := do
  let (hour, rest) ← number? 2 0 23 input
  let (minute, rest) ← number? 2 0 59 (← after? ':' rest)
  let (second, rest) ← number? 2 0 60 (← after? ':' rest)
  let (nanoseconds, rest) := decimals rest
  pure (⟨hour, minute, second, nanoseconds⟩, rest)

/-- Hours and minutes after a sign, in minutes. -/
def shift? (input : List Char) : Option (Nat × List Char) := do
  let (hours, rest) ← number? 2 0 23 input
  let (minutes, rest) ← number? 2 0 59 (← after? ':' rest)
  pure (hours * 60 + minutes, rest)

/-- The zone that is written here, if one is. -/
def zone (input : List Char) : Option Zone × List Char :=
  match input with
  | 'Z' :: rest | 'z' :: rest => (some .universal, rest)
  | '+' :: rest =>
      match shift? rest with
      | some (minutes, rest) => (some (.ahead minutes), rest)
      | none => (none, input)
  | '-' :: rest =>
      match shift? rest with
      | some (minutes, rest) => (some (.ahead (-(minutes : Int))), rest)
      | none => (none, input)
  | _ => (none, input)

/-- The time of day that follows a date, if one does, after `T` or a blank. -/
def timeAfterDate? : List Char → Option (TimeOfDay × List Char)
  | 'T' :: rest | 't' :: rest | ' ' :: rest => time? rest
  | _ => none

/-- The moment at the start of the input. -/
def read? (input : List Char) : Option (Moment × List Char) :=
  match date? input with
  | some (date, rest) =>
      match timeAfterDate? rest with
      | some (time, rest) =>
          let (zone, rest) := zone rest
          some (.dated date time zone, rest)
      | none => some (.onDate date, rest)
  | none => (time? input).map fun (time, rest) => (.atTime time, rest)

/-- The moment that a whole text writes. -/
def ofText? (text : List Char) : Option Moment :=
  match read? text with
  | some (moment, []) => some moment
  | _ => none

example : (read? "2024-02-29 07:05:00.1200-00:30,".toList).map
    (fun (moment, rest) => (moment.render, rest)) = some ("2024-02-29T07:05:00.12-00:30", [',']) ∧
    (ofText? "23:59:60.50".toList).map render = some "23:59:60.5" ∧
    ofText? "24:00:00".toList = none ∧ ofText? "2024-02-29Z".toList = none := by
  decide +kernel

end Moment
end SignInFlow
