import SignInFlow.Toml

/-!
# Reading the numbers of a TOML document

Underscores may stand between two digits.  A decimal number has no zeros in front; a number with a
fraction or an exponent is a floating-point number, which may not be beyond the greatest double
upwards.
-/

namespace SignInFlow.Toml

/-- Further digits of a class, without the underscores between them, and what follows. -/
def moreDigits? (accepts : Char → Bool) : List Char → Option (List Char × List Char)
  | '_' :: digit :: rest =>
      if accepts digit then
        (moreDigits? accepts rest).map fun (digits, rest) => (digit :: digits, rest)
      else none
  | digit :: rest =>
      if accepts digit then
        (moreDigits? accepts rest).map fun (digits, rest) => (digit :: digits, rest)
      else if digit = '_' then none
      else some ([], digit :: rest)
  | [] => some ([], [])

/-- A run of digits of a class, at least one. -/
def digitRun? (accepts : Char → Bool) : List Char → Option (List Char × List Char)
  | [] => none
  | digit :: rest =>
      if accepts digit then
        (moreDigits? accepts rest).map fun (digits, rest) => (digit :: digits, rest)
      else none

/-- The digits of a decimal number before the point: zero alone, or digits that start otherwise. -/
def wholeDigits? (input : List Char) : Option (List Char × List Char) :=
  match input with
  | '0' :: rest => some (['0'], rest)
  | _ => digitRun? Char.isDigit input

/-- The digits after the point, if a point stands here. -/
def fraction? (input : List Char) : Option (Option (List Char) × List Char) :=
  match input with
  | '.' :: rest => (digitRun? Char.isDigit rest).map fun (digits, rest) => (some digits, rest)
  | _ => some (none, input)

/-- The power of ten, if one is written here. -/
def powerOfTen? (input : List Char) : Option (Option Int × List Char) :=
  match input with
  | 'e' :: rest | 'E' :: rest =>
      let (negative, rest) := Extended.sign rest
      (digitRun? Char.isDigit rest).map fun (digits, rest) =>
        let power : Int := digitsValue digits
        (some (if negative then -power else power), rest)
  | _ => some (none, input)

/-- An integer, if it is one that is kept. -/
def integer? (value : Int) : Option Toml :=
  if integerInRange value then some (.integer value) else none

/-- A decimal number after its sign. -/
def decimal? (negative : Bool) (input : List Char) : Option (Toml × List Char) := do
  let (whole, rest) ← wholeDigits? input
  let (fraction, rest) ← fraction? rest
  let (power, rest) ← powerOfTen? rest
  match fraction, power with
  | none, none =>
      let magnitude : Int := digitsValue whole
      pure (← integer? (if negative then -magnitude else magnitude), rest)
  | fraction, power =>
      match Extended.ofDigits negative whole (fraction.getD []) (power.getD 0) with
      | .infinite false => none
      | value => pure (.number value, rest)

/-- An integer in another base, after the letter of the base. -/
def based? (base : Nat) (input : List Char) : Option (Toml × List Char) := do
  let accepts (digit : Char) : Bool := (hexValue? digit).any (· < base)
  let (digits, rest) ← digitRun? accepts input
  pure (← integer? (baseValue base (fun digit => (hexValue? digit).getD 0) digits), rest)

/-- A number after its sign: a word for an infinity or for no number, or a decimal number. -/
def signed? (negative : Bool) (input : List Char) : Option (Toml × List Char) :=
  match input with
  | 'i' :: 'n' :: 'f' :: rest => some (.number (.infinite negative), rest)
  | 'n' :: 'a' :: 'n' :: rest => some (.number .undefined, rest)
  | _ => decimal? negative input

/-- The number at the start of the input; only one without a sign may be written in another base. -/
def number? (input : List Char) : Option (Toml × List Char) :=
  match input with
  | '0' :: 'x' :: rest => based? 16 rest
  | '0' :: 'o' :: rest => based? 8 rest
  | '0' :: 'b' :: rest => based? 2 rest
  | _ =>
      let (negative, rest) := Extended.sign input
      signed? negative rest

end SignInFlow.Toml
