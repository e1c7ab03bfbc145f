import SignInFlow.Decimal.Extended
import SignInFlow.Dictionary
import SignInFlow.Toml.Moment

/-!
# Values of a TOML document

Integers and floating-point numbers are different kinds of values, and dates and times are values of
their own.
-/

namespace SignInFlow

/-- A value of a TOML document. -/
inductive Toml where
  | text (value : String)
  | integer (value : Int)
  | number (value : Extended)
  | truth (value : Bool)
  | moment (value : Moment)
  | list (elements : List Toml)
  | table (entries : List (String × Toml))
deriving Repr, Inhabited

namespace Toml

/-- The entries of a table, none for any other value. -/
def entries : Toml → List (String × Toml)
  | table entries => entries
  | _ => []

/-- The elements of a list, none for any other value. -/
def elements : Toml → List Toml
  | list elements => elements
  | _ => []

/-- The least integer. -/
def leastInteger : Int := -9223372036854775808

/-- The greatest integer. -/
def greatestInteger : Int := 9223372036854775807

/-- Whether an integer is one that is kept. -/
def integerInRange (value : Int) : Bool := leastInteger ≤ value && value ≤ greatestInteger

end Toml
end SignInFlow
