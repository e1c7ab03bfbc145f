import SignInFlow.Settings.Environment
import SignInFlow.Settings.Reading

/-!
# What environment variables hand on

The text of a variable is taken for a truth, an integer or a number where it can be read as one, and
a setting that is a text is written back from what it was taken for.  So it is the text of the
variable just if that was written in the same form.
-/

namespace SignInFlow

/-! ## Integers in decimal form -/

section

variable {digit : Char} {rest : List Char} (all : ∀ other ∈ digit :: rest, other.isDigit = true)
include all

end

namespace Environment

/-- A text that is an integer with no plus sign and no zero in front, and with no sign if it is
zero. -/
def PlainInteger (text : List Char) : Prop :=
  text = ['0'] ∨
    text.head? ≠ some '+' ∧ text.head? ≠ some '0' ∧ ¬['-', '0'].isPrefixOf text = true

instance (text : List Char) : Decidable (PlainInteger text) :=
  inferInstanceAs (Decidable (_ ∨ _))

section

variable {digit : Char} {rest : List Char}

variable (all : ∀ other ∈ digit :: rest, other.isDigit = true)
include all

end

/-- A text that a variable hands on as it is written: a truth in small letters, an integer or a
number in the form it is written back in, or anything that is none of these. -/
def kept (text : String) : Bool :=
  let word := String.ofList (lowercase text.toList)
  if word = "true" ∨ word = "false" then text = "true" || text = "false"
  else
    match integer? text.toList, Extended.parse? text.toList with
    | some _, _ => PlainInteger text.toList
    | none, some number => number.render = text
    | none, none => true

example : kept "true" = true ∧ kept "True" = false ∧ kept "-7" = true ∧ kept "007" = false ∧
    kept "1.5" = true ∧ kept "1e3" = false ∧ kept "graph" = true := by decide +kernel

end Environment

end SignInFlow
