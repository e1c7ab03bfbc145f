import SignInFlow.Decimal.Digits
import SignInFlow.Json

/-!
# Reading JSON

A recursive-descent reader over characters.  Integers from `-2 ^ 63` to `2 ^ 64 - 1` stay integers;
any other number becomes a double, by scaling a 64-bit significand with one power of ten.  Of two
fields with one name the last one counts.
-/

namespace SignInFlow.Json

/-- The greatest significand that a number keeps. -/
def greatestSignificand : Nat := Nat.pow 2 64 - 1

/-- The significand after as many digits as fit, how many did, and the digits left over. -/
def absorb (significand : Nat) : List Char → Nat × Nat × List Char
  | [] => (significand, 0, [])
  | digit :: rest =>
      let longer := significand * 10 + digitValue digit
      if longer ≤ greatestSignificand then
        let (absorbed, taken, left) := absorb longer rest
        (absorbed, taken + 1, left)
      else (significand, 0, digit :: rest)

/-- Divides by `10 ^ 308` until one power of ten of the table, `10 ^ 308` at most, is left. -/
def scaleByTen : Nat → Double → Int → Option Double
  | 0, value, _ => some value
  | steps + 1, value, exponent =>
      if exponent.natAbs ≤ 308 then do
        let power ← Double.ofNat? (Nat.pow 10 exponent.natAbs)
        if 0 ≤ exponent then value.mul? power else value.div? power
      else if value.isZero then some value
      else if 0 ≤ exponent then none
      else do
        let power ← Double.ofNat? (Nat.pow 10 308)
        scaleByTen steps (← value.div? power) (exponent + 308)

/-- The greatest exponent that is counted exactly. -/
def greatestExponent : Nat := Nat.pow 2 31 - 1

/-- A number as it is written. -/
structure Numeral where
  /-- Whether a minus sign stands in front. -/
  negative : Bool
  /-- The digits before the point. -/
  whole : List Char
  /-- The digits after the point, if there is one. -/
  fraction : Option (List Char)
  /-- The sign and the digits of the exponent, if there is one. -/
  exponent : Option (Bool × List Char)

namespace Numeral

/-- The double of a significand and a power of ten, with the exponent that is written added. -/
def doubleOf (numeral : Numeral) (significand : Nat) (scale : Int) : Option Double := do
  let written : Int :=
    match numeral.exponent with
    | none => 0
    | some (negative, digits) => if negative then -(digitsValue digits) else digitsValue digits
  if greatestExponent < written.natAbs then
    if significand ≠ 0 ∧ 0 < written then none else some (Double.zero numeral.negative)
  else
    let magnitude ← scaleByTen 4 (← Double.ofNat? significand) (scale + written)
    pure (if numeral.negative then magnitude.neg else magnitude)

/-- The value of a number as it is written. -/
def value? (numeral : Numeral) : Option Json :=
  let (significand, _, dropped) := absorb 0 numeral.whole
  match numeral.fraction, numeral.exponent with
  | none, none =>
      if dropped ≠ [] then (numeral.doubleOf significand dropped.length).map .double
      else if !numeral.negative then some (.int significand)
      else if significand ≠ 0 ∧ significand ≤ Nat.pow 2 63 then some (.int (-(significand : Int)))
      else (numeral.doubleOf significand 0).map .double
  | fraction, _ =>
      let (significand, taken, _) := absorb significand (fraction.getD [])
      (numeral.doubleOf significand ((dropped.length : Int) - taken)).map .double

end Numeral

/-- Four hexadecimal digits and what follows them. -/
def fourHex? : List Char → Option (Nat × List Char)
  | first :: second :: third :: fourth :: rest => do
      let value := (← hexValue? first) * 4096 + (← hexValue? second) * 256
        + (← hexValue? third) * 16 + (← hexValue? fourth)
      pure (value, rest)
  | _ => none

/-- The character of a `\u` escape, which takes two escapes beyond the basic plane. -/
def unicodeEscape? (input : List Char) : Option (Char × List Char) := do
  let (unit, rest) ← fourHex? input
  if 0xD800 ≤ unit ∧ unit < 0xDC00 then
    match rest with
    | '\\' :: 'u' :: rest =>
        let (low, rest) ← fourHex? rest
        if 0xDC00 ≤ low ∧ low < 0xE000 then
          pure (Char.ofNat (0x10000 + (unit - 0xD800) * 0x400 + (low - 0xDC00)), rest)
        else none
    | _ => none
  else if 0xDC00 ≤ unit ∧ unit < 0xE000 then none
  else pure (Char.ofNat unit, rest)

/-- The character that an escape stands for, after its backslash. -/
def escape? : List Char → Option (Char × List Char)
  | 'u' :: rest => unicodeEscape? rest
  | letter :: rest =>
      match letter with
      | '"' => some ('"', rest)
      | '\\' => some ('\\', rest)
      | '/' => some ('/', rest)
      | 'b' => some ('\x08', rest)
      | 'f' => some ('\x0c', rest)
      | 'n' => some ('\n', rest)
      | 'r' => some ('\r', rest)
      | 't' => some ('\t', rest)
      | _ => none
  | [] => none

/-- A string after its opening quote; `fuel` bounds its characters. -/
def stringBody : Nat → List Char → List Char → Option (String × List Char)
  | 0, _, _ => none
  | _ + 1, _, [] => none
  | fuel + 1, read, character :: rest =>
      if character = '"' then some (String.ofList read.reverse, rest)
      else if character = '\\' then
        match escape? rest with
        | some (escaped, rest) => stringBody fuel (escaped :: read) rest
        | none => none
      else if character.toNat < 0x20 then none
      else stringBody fuel (character :: read) rest

/-- Drops the blanks that may stand between tokens. -/
def skipBlanks (input : List Char) : List Char :=
  input.dropWhile fun character =>
    character = ' ' || character = '\t' || character = '\n' || character = '\r'

/-- A sign and a run of digits, at least one. -/
def signedDigits? (input : List Char) : Option ((Bool × List Char) × List Char) :=
  let (negative, input) :=
    match input with
    | '-' :: rest => (true, rest)
    | '+' :: rest => (false, rest)
    | _ => (false, input)
  let digits := input.takeWhile Char.isDigit
  if digits.isEmpty then none else some ((negative, digits), input.dropWhile Char.isDigit)

/-- The exponent of a number, if one is written. -/
def exponent? (input : List Char) : Option (Option (Bool × List Char) × List Char) :=
  match input with
  | 'e' :: rest | 'E' :: rest => (signedDigits? rest).map fun (read, rest) => (some read, rest)
  | _ => some (none, input)

/-- A number without its minus sign. -/
def number? (negative : Bool) (input : List Char) : Option (Json × List Char) := do
  let whole := input.takeWhile Char.isDigit
  let rest := input.dropWhile Char.isDigit
  if whole.isEmpty || (whole.head? == some '0' && whole != ['0']) then none
  let (fraction, rest) ←
    match rest with
    | '.' :: rest =>
        let digits := rest.takeWhile Char.isDigit
        if digits.isEmpty then none else some (some digits, rest.dropWhile Char.isDigit)
    | _ => some (none, rest)
  let (exponent, rest) ← exponent? rest
  let value ← (Numeral.mk negative whole fraction exponent).value?
  pure (value, rest)

/-- What follows a fixed word. -/
def afterWord? (word : List Char) (input : List Char) : Option (List Char) :=
  if word.isPrefixOf input then some (input.drop word.length) else none

mutual

/-- A value and what follows it; `fuel` bounds the length of the input. -/
def value? : Nat → List Char → Option (Json × List Char)
  | 0, _ => none
  | fuel + 1, input =>
      match skipBlanks input with
      | '{' :: rest =>
          match skipBlanks rest with
          | '}' :: rest => some (.obj [], rest)
          | rest => fields? fuel [] rest
      | '[' :: rest =>
          match skipBlanks rest with
          | ']' :: rest => some (.arr [], rest)
          | rest => elements? fuel [] rest
      | '"' :: rest =>
          (stringBody (rest.length + 1) [] rest).map fun (text, rest) => (.str text, rest)
      | '-' :: rest => number? true rest
      | rest =>
          match afterWord? ['n', 'u', 'l', 'l'] rest with
          | some rest => some (.null, rest)
          | none =>
              match afterWord? ['t', 'r', 'u', 'e'] rest with
              | some rest => some (.bool true, rest)
              | none =>
                  match afterWord? ['f', 'a', 'l', 's', 'e'] rest with
                  | some rest => some (.bool false, rest)
                  | none => number? false rest

/-- The elements of an array that is not empty, after those already read. -/
def elements? : Nat → List Json → List Char → Option (Json × List Char)
  | 0, _, _ => none
  | fuel + 1, read, input =>
      match value? fuel input with
      | none => none
      | some (element, rest) =>
          match skipBlanks rest with
          | ',' :: rest => elements? fuel (element :: read) rest
          | ']' :: rest => some (.arr (element :: read).reverse, rest)
          | _ => none

/-- The fields of an object that is not empty, after those already read. -/
def fields? : Nat → Dictionary Json → List Char → Option (Json × List Char)
  | 0, _, _ => none
  | fuel + 1, read, input =>
      match skipBlanks input with
      | '"' :: rest =>
          match stringBody (rest.length + 1) [] rest with
          | none => none
          | some (name, rest) =>
              match skipBlanks rest with
              | ':' :: rest =>
                  match value? fuel rest with
                  | none => none
                  | some (value, rest) =>
                      match skipBlanks rest with
                      | ',' :: rest => fields? fuel (Dictionary.put name value read) rest
                      | '}' :: rest => some (.obj (Dictionary.put name value read), rest)
                      | _ => none
              | _ => none
      | _ => none

end

/-- The value that a text writes, if it writes one and nothing else. -/
def parse? (text : String) : Option Json :=
  let characters := text.toList
  match value? (characters.length + 1) characters with
  | some (value, rest) => if (skipBlanks rest).isEmpty then some value else none
  | none => none

end SignInFlow.Json
