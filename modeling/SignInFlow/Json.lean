import SignInFlow.Dictionary
import SignInFlow.Decimal.Double

/-!
# JSON values

Numbers keep their kind: `1` and `1.0` are different values.  The fields of an object are a
dictionary, so that equal objects have one form.
-/

namespace SignInFlow

/-- A JSON value. -/
inductive Json where
  | null
  | bool (value : Bool)
  | int (value : Int)
  | double (value : Double)
  | str (value : String)
  | arr (elements : List Json)
  | obj (fields : List (String × Json))
deriving Repr, Inhabited

namespace Json

mutual

/-- Equality of values, with the two zeros among the doubles equal. -/
def same : Json → Json → Bool
  | .null, .null => true
  | .bool left, .bool right => left == right
  | .int left, .int right => left == right
  | .double left, .double right => left.same right
  | .str left, .str right => left == right
  | .arr left, .arr right => sameElements left right
  | .obj left, .obj right => sameFields left right
  | _, _ => false

/-- Equality of arrays, element by element. -/
def sameElements : List Json → List Json → Bool
  | [], [] => true
  | left :: lefts, right :: rights => left.same right && sameElements lefts rights
  | _, _ => false

/-- Equality of objects, field by field in the order of their names. -/
def sameFields : List (String × Json) → List (String × Json) → Bool
  | [], [] => true
  | (leftName, left) :: lefts, (rightName, right) :: rights =>
      leftName == rightName && left.same right && sameFields lefts rights
  | _, _ => false

end

instance : BEq Json := ⟨same⟩

mutual

theorem same_self : (value : Json) → value.same value = true
  | .null => by simp [same]
  | .bool _ => by simp [same]
  | .int _ => by simp [same]
  | .double value => by simp [same, Double.same_self]
  | .str _ => by simp [same]
  | .arr elements => by simp [same, sameElements_self elements]
  | .obj fields => by simp [same, sameFields_self fields]

theorem sameElements_self : (elements : List Json) → sameElements elements elements = true
  | [] => by simp [sameElements]
  | element :: rest => by
      simp [sameElements, same_self element, sameElements_self rest]

theorem sameFields_self : (fields : List (String × Json)) → sameFields fields fields = true
  | [] => by simp [sameFields]
  | (_, value) :: rest => by
      simp [sameFields, same_self value, sameFields_self rest]

end

@[simp] theorem beq_self (value : Json) : (value == value) = true := same_self value

/-- The object with the given fields, of which those without a value are left out. -/
def object (fields : List (String × Option Json)) : Json :=
  .obj (fields.filterMap fun field => field.2.map fun value => (field.1, value))

/-- The array of the given texts. -/
def texts (values : List String) : Json := .arr (values.map .str)

/-- The fields of an object, none for any other value. -/
def fields : Json → Dictionary Json
  | .obj fields => fields
  | _ => []

/-- The value under a name, `null` where there is none. -/
def get (value : Json) (name : String) : Json :=
  (List.lookup name value.fields).getD .null

end Json
end SignInFlow
