import SignInFlow.Decimal.Shortest

/-!
# Floating-point numbers with infinities

A floating-point number is a double, one of the two infinities, or no number at all.  `parse?` reads
the usual decimal notation, in which a number beyond the greatest double is infinite.
-/

namespace SignInFlow

/-- A floating-point number. -/
inductive Extended where
  /-- A double. -/
  | finite (value : Double)
  /-- An infinity. -/
  | infinite (negative : Bool)
  /-- No number. -/
  | undefined
deriving DecidableEq, Repr

namespace Extended

/-- Whether the number is a zero. -/
def isZero : Extended → Bool
  | finite value => value.isZero
  | _ => false

/-- All digits in front of or behind the point, and no suffix for whole numbers; of two shortest
decimals the greater is written. -/
def layout : DecimalLayout where
  tie := .up
  leastPoint := none
  greatestPoint := none
  wholeSuffix := ""
  exponentPlus := ""

/-- The shortest text of a number, without an exponent. -/
def render : Extended → String
  | finite value => value.render layout
  | infinite negative => if negative then "-inf" else "inf"
  | undefined => "NaN"

/-- The number with these digits before and after the point, times a power of ten. -/
def ofDigits (negative : Bool) (whole fraction : List Char) (exponent : Int) : Extended :=
  match Double.ofDecimal? negative (digitsValue (whole ++ fraction))
    (exponent - fraction.length) with
  | some value => .finite value
  | none => .infinite negative

/-- Whether a sign stands in front, if it does it is a minus, and what follows it. -/
def sign (input : List Char) : Bool × List Char :=
  match input with
  | '-' :: rest => (true, rest)
  | '+' :: rest => (false, rest)
  | _ => (false, input)

/-- The power of ten that is written at the end of a number: zero where nothing is. -/
def exponent? : List Char → Option Int
  | [] => some 0
  | letter :: rest =>
      if letter = 'e' ∨ letter = 'E' then
        let (negative, digits) := sign rest
        if digits.isEmpty || !digits.all Char.isDigit then none
        else if negative then some (-(digitsValue digits : Int)) else some (digitsValue digits)
      else none

/-- The number that a text writes: a sign or none, then a word for an infinity or for no number in
letters of either case, or digits with a point or without one, on at least one of its sides, and a
power of ten or none. -/
def parse? (text : List Char) : Option Extended :=
  let (negative, rest) := sign text
  let word := String.ofList (rest.map Char.toLower)
  if word = "inf" ∨ word = "infinity" then some (.infinite negative)
  else if word = "nan" then some .undefined
  else
    let whole := rest.takeWhile Char.isDigit
    let rest := rest.dropWhile Char.isDigit
    let (fraction, rest) :=
      match rest with
      | '.' :: rest => (rest.takeWhile Char.isDigit, rest.dropWhile Char.isDigit)
      | _ => ([], rest)
    if whole.isEmpty && fraction.isEmpty then none
    else (exponent? rest).map fun exponent => ofDigits negative whole fraction exponent

example : (parse? "-.5e1".toList).map render = some "-5" ∧
    (parse? "5.".toList).map render = some "5" ∧
    parse? ".".toList = none ∧ (parse? "1e999".toList).map render = some "inf" ∧
    (parse? "583129689070276.25".toList).map render = some "583129689070276.3" := by decide +kernel

end Extended
end SignInFlow
