import SignInFlow.Settings.Layer

/-!
# Settings in environment variables

A variable counts if its name starts with a prefix and two underscores, in letters of either case;
two underscores further on separate the words of a path.  Its text is a truth, an integer or a
number if it can be read as one.
-/

namespace SignInFlow

/-- Environment variables by their names. -/
abbrev Environment := Dictionary String

namespace Environment

/-- What stands between the prefix and the words of a name. -/
def separator : String := "__"

/-- The integer that a text writes, if it is one that is kept. -/
def integer? (text : List Char) : Option Int :=
  let (negative, digits) := Extended.sign text
  let magnitude : Int := digitsValue digits
  let value := if negative then -magnitude else magnitude
  if digits.isEmpty || !digits.all Char.isDigit || !Toml.integerInRange value then none
  else some value

/-- The value that the text of a variable is. -/
def value (text : String) : Toml :=
  let word := String.ofList (lowercase text.toList)
  if word = "true" then .truth true
  else if word = "false" then .truth false
  else
    match integer? text.toList, Extended.parse? text.toList with
    | some value, _ => .integer value
    | none, some value => .number value
    | none, none => .text text

/-- The key that the name of a variable means under a prefix, if the variable counts. -/
def key? (start name : String) : Option String :=
  let name := lowercase name.toList
  let start := lowercase (start ++ separator).toList
  if start.isPrefixOf name then
    some (substitute separator "." (String.ofList (name.drop start.length)))
  else none

/-- The layer of the variables that count under a prefix. -/
def layer (environment : Environment) (start : String) : Layer :=
  environment.filterMap fun (name, text) => (key? start name).map fun key => (key, value text)

end Environment
end SignInFlow
