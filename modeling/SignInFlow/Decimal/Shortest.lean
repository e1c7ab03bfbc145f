import SignInFlow.Decimal.Double

/-!
# The shortest decimal of a double

Of the decimals that read back as a given double, the shortest is the one with the fewest digits,
and of those the nearest to the value; if two are equally near, a rule decides.  For each number of
digits only the two neighbours of the value on that decimal grid have to be tried, in exact
natural-number arithmetic.
-/

namespace SignInFlow

/-- The decimal number `digits · 10 ^ exponent`. -/
structure Decimal where
  /-- All significant digits, as one number. -/
  digits : Nat
  /-- The power of ten that the last digit counts. -/
  exponent : Int
deriving DecidableEq, Repr

/-- Which of two decimals that are equally near to a value is taken. -/
inductive TieRule where
  /-- The one with an even last digit. -/
  | toEven
  /-- The greater one. -/
  | up
deriving DecidableEq, Repr

namespace Double

/-- Whether `numerator / denominator` is nearer to the positive `value` than to any other double,
with the ends of that interval included exactly for an even mantissa. -/
def attracts (value : Double) (numerator denominator : Nat) : Bool :=
  let lowerGap := if value.mantissa = Nat.pow 2 52 ∧ leastExponent < value.exponent then 1 else 2
  let unit := scaled numerator denominator (value.exponent - 2)
  let low := (4 * value.mantissa - lowerGap) * unit.2
  let high := (4 * value.mantissa + 2) * unit.2
  if value.mantissa % 2 = 0 then decide (low ≤ unit.1 ∧ unit.1 ≤ high)
  else decide (low < unit.1 ∧ unit.1 < high)

/-- The power of ten of the leading digit of a positive ratio. -/
def magnitude (numerator denominator : Nat) : Int :=
  if denominator ≤ numerator then (digitCount (numerator / denominator) : Int) - 1
  else
    let guess : Int := (digitCount denominator : Int) - (digitCount numerator : Int)
    if denominator ≤ numerator * Nat.pow 10 guess.toNat then -guess else -guess - 1

/-- The ratio `numerator / denominator` counted in units of `10 ^ exponent`. -/
def inUnits (numerator denominator : Nat) (exponent : Int) : Nat × Nat :=
  if 0 ≤ exponent then (numerator, denominator * Nat.pow 10 exponent.toNat)
  else (numerator * Nat.pow 10 (-exponent).toNat, denominator)

/-- The whole number next to `numerator / denominator`, by the rule if there are two. -/
def nextWhole (tie : TieRule) (numerator denominator : Nat) : Nat :=
  match tie with
  | .toEven => roundDiv numerator denominator
  | .up => (2 * numerator + denominator) / (2 * denominator)

/-- The neighbour of the positive `value` on the grid of `10 ^ exponent` that reads back as it:
the nearer if both do, the one the rule takes if they are equally near. -/
def onGrid? (tie : TieRule) (value : Double) (exponent : Int) : Option Decimal :=
  let (numerator, denominator) := value.ratio
  let (scaledNumerator, scaledDenominator) := inUnits numerator denominator exponent
  let below := scaledNumerator / scaledDenominator
  let readsBack (digits : Nat) : Bool :=
    if 0 ≤ exponent then value.attracts (digits * Nat.pow 10 exponent.toNat) 1
    else value.attracts digits (Nat.pow 10 (-exponent).toNat)
  let rounded := nextWhole tie scaledNumerator scaledDenominator
  let other := if rounded = below then below + 1 else below
  if readsBack rounded then some ⟨rounded, exponent⟩
  else if readsBack other then some ⟨other, exponent⟩
  else none

/-- The first grid that holds a decimal for `value`, with so many further digits at most. -/
def firstGrid (tie : TieRule) (value : Double) : Nat → Int → Option Decimal
  | 0, _ => none
  | remaining + 1, exponent =>
      match value.onGrid? tie exponent with
      | some decimal => some decimal
      | none => firstGrid tie value remaining (exponent - 1)

/-- The decimal without its trailing zeros. -/
def trimmed : Nat → Decimal → Decimal
  | 0, decimal => decimal
  | steps + 1, decimal =>
      if decimal.digits ≠ 0 ∧ decimal.digits % 10 = 0 then
        trimmed steps ⟨decimal.digits / 10, decimal.exponent + 1⟩
      else decimal

/-- The shortest decimal that reads back as the magnitude of `value`. -/
def shortest (tie : TieRule) (value : Double) : Decimal :=
  if value.isZero then ⟨0, 0⟩
  else
    let (numerator, denominator) := value.ratio
    match value.firstGrid tie 17 (magnitude numerator denominator) with
    | some decimal => trimmed 17 decimal
    | none => ⟨numerator / denominator, 0⟩

end Double

/-- How a decimal is laid out as text. -/
structure DecimalLayout where
  /-- Which of two shortest decimals is written. -/
  tie : TieRule
  /-- Positional notation is used while the point stands at or after this place, if any. -/
  leastPoint : Option Int
  /-- Positional notation is used while the point stands at or before this place, if any. -/
  greatestPoint : Option Int
  /-- What follows the digits of a whole number in positional notation. -/
  wholeSuffix : String
  /-- The sign of an exponent that is not negative. -/
  exponentPlus : String

namespace Decimal

/-- The digits of a natural number. -/
def digitText (value : Nat) : String := String.ofList (Nat.toDigits 10 value)

/-- As many zeros as asked for. -/
def zeros (count : Nat) : String := String.ofList (List.replicate count '0')

/-- The text of a decimal in the given layout. -/
def render (layout : DecimalLayout) (decimal : Decimal) : String :=
  let digits := Nat.toDigits 10 decimal.digits
  let point : Int := digits.length + decimal.exponent
  let positional :=
    layout.leastPoint.all (· ≤ point) && layout.greatestPoint.all (point ≤ ·)
  if positional then
    if 0 ≤ decimal.exponent then
      String.ofList digits ++ zeros decimal.exponent.toNat ++ layout.wholeSuffix
    else if 0 < point then
      String.ofList (digits.take point.toNat) ++ "." ++ String.ofList (digits.drop point.toNat)
    else "0." ++ zeros (-point).toNat ++ String.ofList digits
  else
    let exponent := point - 1
    let exponentText :=
      (if exponent < 0 then "-" else layout.exponentPlus) ++ digitText exponent.natAbs
    match digits with
    | [digit] => String.ofList [digit] ++ "e" ++ exponentText
    | digit :: rest =>
        String.ofList [digit] ++ "." ++ String.ofList rest ++ "e" ++ exponentText
    | [] => "0"

end Decimal

namespace Double

/-- The shortest text of a double in the given layout, with its sign. -/
def render (layout : DecimalLayout) (value : Double) : String :=
  (if value.negative then "-" else "") ++ (value.shortest layout.tie).render layout

end Double
end SignInFlow
