/-!
# Decimal digits

The number that a run of decimal digits writes, and how many digits a number has.
-/

namespace SignInFlow

/-- The value of a decimal digit. -/
def digitValue (digit : Char) : Nat := digit.toNat - '0'.toNat

/-- The number that a list of digits writes in a base. -/
def baseValue (base : Nat) (value : Char → Nat) (digits : List Char) : Nat :=
  digits.foldl (fun total digit => total * base + value digit) 0

/-- The number that a list of decimal digits writes. -/
def digitsValue (digits : List Char) : Nat := baseValue 10 digitValue digits

/-- The digit count of a natural number, one for zero. -/
def digitCount (value : Nat) : Nat := (Nat.toDigits 10 value).length

/-- The value of a hexadecimal digit. -/
def hexValue? (digit : Char) : Option Nat :=
  if '0' ≤ digit ∧ digit ≤ '9' then some (digit.toNat - '0'.toNat)
  else if 'a' ≤ digit ∧ digit ≤ 'f' then some (digit.toNat - 'a'.toNat + 10)
  else if 'A' ≤ digit ∧ digit ≤ 'F' then some (digit.toNat - 'A'.toNat + 10)
  else none

example : digitsValue ['0', '4', '2'] = 42 ∧ digitCount 0 = 1 := by decide

end SignInFlow
