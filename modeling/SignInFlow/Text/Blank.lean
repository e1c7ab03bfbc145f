/-!
# Blank characters

The characters with the Unicode property `White_Space`, and what is left of a text without them at
its ends.
-/

namespace SignInFlow

/-- Whether a character has the property `White_Space`. -/
def isBlank (character : Char) : Bool :=
  let code := character.toNat
  (0x09 ≤ code && code ≤ 0x0D) || code == 0x20 || code == 0x85 || code == 0xA0 || code == 0x1680 ||
    (0x2000 ≤ code && code ≤ 0x200A) || code == 0x2028 || code == 0x2029 || code == 0x202F ||
    code == 0x205F || code == 0x3000

/-- Drops the blanks in front. -/
def dropBlanks (input : List Char) : List Char := input.dropWhile isBlank

/-- Whether a text holds blanks only. -/
def blankText (text : String) : Bool := text.toList.all isBlank

example : blankText " \u3000\t" = true ∧ blankText " x " = false := by decide +kernel

end SignInFlow
