import SignInFlow.Json
import SignInFlow.Decimal.Shortest

/-!
# Writing JSON

The compact form: no blanks, fields in the order of their names, and in strings only the quote, the
backslash and the controls below `U+0020` escaped.
-/

namespace SignInFlow.Json

/-- Doubles always have a fraction or an exponent with its sign; the point stands among or next to
the digits from `0.00001` up to sixteen digits before it. -/
def doubleLayout : DecimalLayout where
  tie := .toEven
  leastPoint := some (-4)
  greatestPoint := some 16
  wholeSuffix := ".0"
  exponentPlus := "+"

/-- The digit of a number below sixteen. -/
def hexDigit (value : Nat) : Char :=
  if value < 10 then Char.ofNat ('0'.toNat + value) else Char.ofNat ('a'.toNat + value - 10)

/-- A character as it stands inside a string. -/
def escaped (character : Char) : List Char :=
  match character with
  | '"' => ['\\', '"']
  | '\\' => ['\\', '\\']
  | '\n' => ['\\', 'n']
  | '\r' => ['\\', 'r']
  | '\t' => ['\\', 't']
  | '\x08' => ['\\', 'b']
  | '\x0c' => ['\\', 'f']
  | other =>
      if other.toNat < 0x20 then
        ['\\', 'u', '0', '0', hexDigit (other.toNat / 16), hexDigit (other.toNat % 16)]
      else [other]

/-- A string with its quotes. -/
def quoted (text : String) : String :=
  String.ofList ('"' :: (text.toList.flatMap escaped ++ ['"']))

/-- An integer in decimal. -/
def integerText (value : Int) : String :=
  (if value < 0 then "-" else "") ++ Decimal.digitText value.natAbs

mutual

/-- The compact text of a value. -/
def render : Json → String
  | .null => "null"
  | .bool true => "true"
  | .bool false => "false"
  | .int value => integerText value
  | .double value => value.render doubleLayout
  | .str value => quoted value
  | .arr elements => "[" ++ String.intercalate "," (renderElements elements) ++ "]"
  | .obj fields => "\x7b" ++ String.intercalate "," (renderFields fields) ++ "\x7d"

/-- The texts of the elements of an array. -/
def renderElements : List Json → List String
  | [] => []
  | element :: rest => element.render :: renderElements rest

/-- The texts of the fields of an object. -/
def renderFields : List (String × Json) → List String
  | [] => []
  | (name, value) :: rest => (quoted name ++ ":" ++ value.render) :: renderFields rest

end

end SignInFlow.Json
