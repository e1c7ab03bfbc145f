import SignInFlow.Decimal.Digits

/-!
# Binary floating-point numbers, exactly

A double is kept as sign, mantissa and binary exponent, and every operation is carried out on exact
ratios of natural numbers and rounded once, to the nearest double with ties to the even mantissa.
-/

namespace SignInFlow

/-- A finite double `± mantissa · 2 ^ exponent`; values made by `nearest?` are canonical. -/
structure Double where
  /-- The sign, which zero has too. -/
  negative : Bool
  /-- Below `2 ^ 53`, and at least `2 ^ 52` unless the exponent is the least one. -/
  mantissa : Nat
  /-- At least `-1074`. -/
  exponent : Int
deriving DecidableEq, Repr

namespace Double

/-- The least binary exponent. -/
def leastExponent : Int := -1074

/-- The greatest binary exponent. -/
def greatestExponent : Int := 971

/-- The zero of the given sign. -/
def zero (negative : Bool) : Double := ⟨negative, 0, leastExponent⟩

/-- Whether the value is zero, of either sign. -/
def isZero (value : Double) : Bool := value.mantissa == 0

/-- Numeric equality: the two zeros are equal. -/
def same (left right : Double) : Bool :=
  (left.isZero && right.isZero) || left == right

theorem same_self (value : Double) : value.same value = true := by
  simp [same]

/-- The same value with the other sign. -/
def neg (value : Double) : Double := { value with negative := !value.negative }

/-- The quotient rounded to the nearest natural number, a half going to the even neighbour. -/
def roundDiv (numerator denominator : Nat) : Nat :=
  let quotient := numerator / denominator
  let twice := 2 * (numerator % denominator)
  if twice < denominator then quotient
  else if denominator < twice then quotient + 1
  else quotient + quotient % 2

/-- The quotient of `numerator / denominator` by `2 ^ exponent`, as a ratio. -/
def scaled (numerator denominator : Nat) (exponent : Int) : Nat × Nat :=
  if 0 ≤ exponent then (numerator, denominator * Nat.pow 2 exponent.toNat)
  else (numerator * Nat.pow 2 (-exponent).toNat, denominator)

/-- The binary exponent at which a quotient has a mantissa of 53 bits, or the least one. -/
def bindingExponent (numerator denominator : Nat) : Int :=
  let guess : Int := (Nat.log2 numerator : Int) - (Nat.log2 denominator : Int) - 52
  let (scaledNumerator, scaledDenominator) := scaled numerator denominator guess
  let exponent := if scaledNumerator / scaledDenominator < Nat.pow 2 52 then guess - 1 else guess
  max exponent leastExponent

/-- The double nearest to `± numerator / denominator`, if it is not beyond the greatest one. -/
def nearest? (negative : Bool) (numerator denominator : Nat) : Option Double :=
  if numerator = 0 then some (zero negative)
  else
    let exponent := bindingExponent numerator denominator
    let (scaledNumerator, scaledDenominator) := scaled numerator denominator exponent
    let mantissa := roundDiv scaledNumerator scaledDenominator
    let (mantissa, exponent) :=
      if mantissa = Nat.pow 2 53 then (Nat.pow 2 52, exponent + 1) else (mantissa, exponent)
    if greatestExponent < exponent then none else some ⟨negative, mantissa, exponent⟩

/-- The magnitude as a ratio of natural numbers. -/
def ratio (value : Double) : Nat × Nat :=
  if 0 ≤ value.exponent then (value.mantissa * Nat.pow 2 value.exponent.toNat, 1)
  else (value.mantissa, Nat.pow 2 (-value.exponent).toNat)

/-- The double nearest to a natural number. -/
def ofNat? (value : Nat) : Option Double := nearest? false value 1

/-- The rounded product. -/
def mul? (left right : Double) : Option Double :=
  let (leftNumerator, leftDenominator) := left.ratio
  let (rightNumerator, rightDenominator) := right.ratio
  nearest? (left.negative != right.negative)
    (leftNumerator * rightNumerator) (leftDenominator * rightDenominator)

/-- The rounded quotient; the divisor is not zero. -/
def div? (left right : Double) : Option Double :=
  let (leftNumerator, leftDenominator) := left.ratio
  let (rightNumerator, rightDenominator) := right.ratio
  nearest? (left.negative != right.negative)
    (leftNumerator * rightDenominator) (leftDenominator * rightNumerator)

/-- The power of ten from which on every number is beyond the greatest double. -/
def greatestPower : Int := 309

/-- The power of ten up to which every number rounds to zero. -/
def leastPower : Int := -325

/-- The double nearest to `± significand · 10 ^ exponent`, if it is not beyond the greatest one.  A
number whose digits alone show it to be too great or too small is not computed. -/
def ofDecimal? (negative : Bool) (significand : Nat) (exponent : Int) : Option Double :=
  if significand = 0 then some (zero negative)
  else
    let magnitude := exponent + digitCount significand
    if greatestPower < magnitude then none
    else if magnitude < leastPower then some (zero negative)
    else if 0 ≤ exponent then nearest? negative (significand * Nat.pow 10 exponent.toNat) 1
    else nearest? negative significand (Nat.pow 10 (-exponent).toNat)

end Double
end SignInFlow
