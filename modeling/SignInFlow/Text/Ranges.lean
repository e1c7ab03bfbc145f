/-!
# Ranges of code points

A property of characters is given by the code points that have it, as ranges in ascending order.
-/

namespace SignInFlow

/-- Ranges of code points, each with both its ends. -/
abbrev CodeRanges := List (Nat × Nat)

/-- Whether a character lies in one of the ranges. -/
def CodeRanges.has (ranges : CodeRanges) (character : Char) : Bool :=
  ranges.any fun range => range.1 ≤ character.toNat && character.toNat ≤ range.2

end SignInFlow
