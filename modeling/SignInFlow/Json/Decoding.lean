import SignInFlow.Json.Printer
import SignInFlow.Text.Literal

/-!
# Decoding JSON into records

A value that does not fit the type wanted is reported as a `Mismatch`.  A record is read from an
object by the names of its fields, or from an array by their order; nothing is converted on the way,
and a `null` stands for an optional field without a value.
-/

namespace SignInFlow

/-- Why a JSON value does not decode. -/
inductive Mismatch where
  /-- A value of another kind was expected. -/
  | wrongType (found : Json) (expected : String)
  /-- A name is none of those known. -/
  | unknownName (name : String) (known : List String)
  /-- A field that is required is not there. -/
  | missingField (name : String)
  /-- An array has too few or too many elements. -/
  | wrongLength (length : Nat) (expected : String)
  /-- An object that stands for a name has not exactly one field. -/
  | notOneField
  /-- The text or number is of the right kind and still not acceptable. -/
  | malformed (reason : String)
deriving Repr, Inhabited

namespace Mismatch

/-- A value as a report names it. -/
def describe : Json → String
  | .null => "null"
  | .bool value => "boolean `" ++ (if value then "true" else "false") ++ "`"
  | .int value => "integer `" ++ Json.integerText value ++ "`"
  | .double value => "floating point `" ++ value.render Json.doubleLayout ++ "`"
  | .str value => "string " ++ literal value
  | .arr _ => "sequence"
  | .obj _ => "map"

/-- Names in backquotes, as alternatives. -/
def alternatives (names : List String) : String :=
  match names.map fun name => "`" ++ name ++ "`" with
  | [] => "nothing"
  | [only] => only
  | [first, second] => first ++ " or " ++ second
  | names => "one of " ++ String.intercalate ", " names

/-- The text of a mismatch. -/
def message : Mismatch → String
  | wrongType found expected => "invalid type: " ++ describe found ++ ", expected " ++ expected
  | unknownName name known =>
      "unknown variant `" ++ name ++ "`, expected " ++ alternatives known
  | missingField name => "missing field `" ++ name ++ "`"
  | wrongLength length expected =>
      "invalid length " ++ Decimal.digitText length ++ ", expected " ++ expected
  | notOneField => "invalid value: map, expected map with a single key"
  | malformed reason => reason

end Mismatch

/-- What decoding gives. -/
abbrev Decoded := Except Mismatch

/-- The fields of a record, before they are decoded. -/
structure Record where
  /-- The fields that are there, by name. -/
  members : Dictionary Json
  /-- What to report when a required field is not. -/
  absent : String → Mismatch

namespace Record

/-- A field without which the record does not decode. -/
def required (record : Record) {α : Type} (decode : Json → Decoded α) (name : String) : Decoded α :=
  match List.lookup name record.members with
  | some value => decode value
  | none => .error (record.absent name)

/-- A field that may be absent, but is not `null`. -/
def present (record : Record) {α : Type} (decode : Json → Decoded α) (name : String) :
    Decoded (Option α) :=
  match List.lookup name record.members with
  | some value => (decode value).map some
  | none => .ok none

/-- A field that may be absent or `null`, both of which leave it without a value. -/
def optional (record : Record) {α : Type} (decode : Json → Decoded α) (name : String) :
    Decoded (Option α) :=
  match List.lookup name record.members with
  | some .null | none => .ok none
  | some value => (decode value).map some

end Record

namespace Json

/-- The record of a value, given the order in which an array lists the fields. -/
def record (expected : String) (order : List String) : Json → Decoded Record
  | .obj fields => .ok ⟨fields, .missingField⟩
  | .arr elements =>
      if order.length < elements.length then
        .error (.wrongLength elements.length "fewer elements in array")
      else
        .ok ⟨order.zip elements, fun name =>
          .wrongLength (order.idxOf name)
            (expected ++ " with " ++ Decimal.digitText order.length ++ " elements")⟩
  | other => .error (.wrongType other expected)

/-- A text. -/
def text : Json → Decoded String
  | .str value => .ok value
  | other => .error (.wrongType other "a string")

/-- A truth value. -/
def truth : Json → Decoded Bool
  | .bool value => .ok value
  | other => .error (.wrongType other "a boolean")

/-- An integer between two bounds. -/
def integer (least greatest : Int) (expected : String) : Json → Decoded Int
  | .int value =>
      if least ≤ value ∧ value ≤ greatest then .ok value
      else .error (.malformed
        ("invalid value: integer `" ++ integerText value ++ "`, expected " ++ expected))
  | other => .error (.wrongType other expected)

/-- An array of texts. -/
def textList : Json → Decoded (List String)
  | .arr elements => elements.mapM text
  | other => .error (.wrongType other "a sequence")

/-- One of some named alternatives: its name, or an object whose only field has that name and is
`null`. Any other name gives the `fallback`, where there is one. -/
def choice {α : Type} (options : List (String × α)) (fallback : Option α) (value : Json) :
    Decoded α :=
  let pick (name : String) : Decoded α :=
    match List.lookup name options, fallback with
    | some chosen, _ => .ok chosen
    | none, some chosen => .ok chosen
    | none, none => .error (.unknownName name (options.map Prod.fst))
  match value with
  | .str name => pick name
  | .obj [(name, content)] => do
      let chosen ← pick name
      match content with
      | .null => pure chosen
      | content => .error (.wrongType content "unit")
  | .obj _ => .error .notOneField
  | other => .error (.wrongType other "string or map")

end Json
end SignInFlow
