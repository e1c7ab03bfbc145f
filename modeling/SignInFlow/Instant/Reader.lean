import SignInFlow.Decimal.Digits
import SignInFlow.Instant
import SignInFlow.Text.Blank

/-!
# Reading timestamps

A timestamp is a date, `T` or a blank, a time of day with optional decimals of a second, and an
offset from universal time, which is required.  Blanks may stand in front of every number and
separator.
-/

namespace SignInFlow.Instant

/-- The digits in front, at most `limit` of them where a limit is given, and what follows. -/
def takeDigits (limit : Option Nat) (input : List Char) : List Char × List Char :=
  let run := input.takeWhile Char.isDigit
  let taken := match limit with
    | some limit => run.take limit
    | none => run
  (taken, input.drop taken.length)

/-- A number of one digit to `limit` digits, after blanks. -/
def number? (limit : Option Nat) (input : List Char) : Option (Nat × List Char) :=
  let (digits, rest) := takeDigits limit (dropBlanks input)
  if digits.isEmpty then none else some (digitsValue digits, rest)

/-- A year: up to four digits, or any number of them after a sign. -/
def year? (input : List Char) : Option (Int × List Char) :=
  let digits? (rest : List Char) : Option (Nat × List Char) :=
    let (digits, rest) := takeDigits none rest
    if digits.isEmpty then none else some (digitsValue digits, rest)
  match dropBlanks input with
  | '-' :: rest => (digits? rest).map fun (value, rest) => (-(value : Int), rest)
  | '+' :: rest => (digits? rest).map fun (value, rest) => ((value : Int), rest)
  | rest => (number? (some 4) rest).map fun (value, rest) => ((value : Int), rest)

/-- What follows a separator, after blanks. -/
def afterSeparator? (separator : Char) (input : List Char) : Option (List Char) :=
  match dropBlanks input with
  | character :: rest => if character = separator then some rest else none
  | [] => none

/-- A date. -/
def date? (input : List Char) : Option (CivilDate × List Char) := do
  let (year, rest) ← year? input
  let (month, rest) ← number? (some 2) (← afterSeparator? '-' rest)
  let (day, rest) ← number? (some 2) (← afterSeparator? '-' rest)
  pure (⟨year, month, day⟩, rest)

/-- Decimals of a second as nanoseconds, those after the ninth dropped. -/
def fraction? (input : List Char) : Option (Nat × List Char) :=
  match input with
  | '.' :: rest =>
      let (digits, rest) := takeDigits (some 9) rest
      if digits.isEmpty then none
      else some (digitsValue digits * Nat.pow 10 (9 - digits.length), rest.dropWhile Char.isDigit)
  | _ => some (0, input)

/-- A time of day as seconds and nanoseconds; second 60 is kept as a leap second. -/
def time? (input : List Char) : Option ((Nat × Nat) × List Char) := do
  let (hour, rest) ← number? (some 2) input
  let (minute, rest) ← number? (some 2) (← afterSeparator? ':' rest)
  let (second, rest) ← number? (some 2) (← afterSeparator? ':' rest)
  let (nanoseconds, rest) ← fraction? rest
  if 23 < hour ∨ 59 < minute ∨ 60 < second then none
  else
    let (second, nanoseconds) :=
      if second = 60 then (59, nanoseconds + 1000000000) else (second, nanoseconds)
    pure ((hour * 3600 + minute * 60 + second, nanoseconds), rest)

/-- Two digits. -/
def twoDigits? : List Char → Option (Nat × List Char)
  | first :: second :: rest =>
      if first.isDigit && second.isDigit then some (digitsValue [first, second], rest) else none
  | _ => none

/-- Hours and minutes of an offset after its sign, in seconds. -/
def offsetAmount? (input : List Char) : Option (Nat × List Char) := do
  let (hours, rest) ← twoDigits? input
  let (minutes, rest) ←
    twoDigits? (rest.dropWhile fun character => character = ':' || isBlank character)
  if 59 < minutes then none else pure (hours * 3600 + minutes * 60, rest)

/-- An offset from universal time in seconds. -/
def offset? (input : List Char) : Option (Int × List Char) :=
  match input with
  | 'Z' :: rest | 'z' :: rest => some (0, rest)
  | '+' :: rest => (offsetAmount? rest).map fun (amount, rest) => ((amount : Int), rest)
  | '-' :: rest | '\u2212' :: rest =>
      (offsetAmount? rest).map fun (amount, rest) => (-(amount : Int), rest)
  | first :: second :: third :: rest =>
      if [first, second, third].map Char.toUpper = ['U', 'T', 'C'] then some (0, rest) else none
  | _ => none

/-- The instant that a timestamp writes. -/
def parse? (text : String) : Option Instant := do
  let (date, rest) ← date? text.toList
  let rest ← match rest with
    | 'T' :: rest | 't' :: rest | ' ' :: rest => some rest
    | _ => none
  let ((secondOfDay, nanoseconds), rest) ← time? rest
  let (offset, rest) ← offset? (dropBlanks rest)
  let seconds := date.toDays * 86400 + secondOfDay - offset
  if date.isValid && offset.natAbs < 86400 && (dropBlanks rest).isEmpty then
    if inRange : instantInRange seconds nanoseconds then some ⟨seconds, nanoseconds, inRange⟩
    else none
  else none

end SignInFlow.Instant
