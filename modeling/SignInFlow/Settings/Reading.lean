import SignInFlow.Settings
import SignInFlow.Text.Lowercase
import SignInFlow.Toml

/-!
# Settings in TOML values

What a value means for a setting depends on where it comes from.  In a document of its own every
setting has its kind of value and no other; among layers, where a variable can only be a text,
values are converted.
-/

namespace SignInFlow

/-- How values are taken for settings. -/
structure Reading where
  /-- The text that a value is. -/
  text : Toml → Option String
  /-- The truth that a value is. -/
  truth : Toml → Option Bool
  /-- The fields of a record that a value is, given their order. -/
  record : List String → Toml → Option (Dictionary Toml)

namespace Reading

/-- The fields that a list gives by their order; further elements are ignored. -/
def inOrder (order : List String) (elements : List Toml) : Dictionary Toml := order.zip elements

/-- Every value is what it is.  A date or time is a record without any of the fields wanted. -/
def exact : Reading where
  text
    | .text value => some value
    | _ => none
  truth
    | .truth value => some value
    | _ => none
  record order
    | .table entries => some entries
    | .list elements => some (inOrder order elements)
    | .moment _ => some []
    | _ => none

/-- The words for true, in lower case. -/
def wordsForTrue : List String := ["1", "true", "on", "yes"]

/-- The words for false, in lower case. -/
def wordsForFalse : List String := ["0", "false", "off", "no"]

/-- The truth that a word means, in letters of either case. -/
def truthOfWord (word : String) : Option Bool :=
  let word := String.ofList (lowercase word.toList)
  if word ∈ wordsForTrue then some true
  else if word ∈ wordsForFalse then some false
  else none

/-- Values are converted: scalars to text, and numbers and words to truth. -/
def converting : Reading where
  text
    | .text value => some value
    | .integer value => some (Json.integerText value)
    | .number value => some value.render
    | .truth value => some (if value then "true" else "false")
    | .moment value => some value.render
    | _ => none
  truth
    | .truth value => some value
    | .integer value => some (value ≠ 0)
    | .number value => some !value.isZero
    | .text value => truthOfWord value
    | _ => none
  record order
    | .table entries => some entries
    | .list elements => some (inOrder order elements)
    | _ => none

/-- A field that may be absent. -/
def field? (reading : Reading) {α : Type} (take : Reading → Toml → Option α) (name : String)
    (entries : Dictionary Toml) : Option (Option α) :=
  match List.lookup name entries with
  | some value => (take reading value).map some
  | none => some none

end Reading

/-- The logging settings that a value holds, over the defaults. -/
def Logging.ofToml? (reading : Reading) (value : Toml) : Option Logging := do
  let entries ← reading.record ["filter", "json"] value
  let filter ← reading.field? Reading.text "filter" entries
  let json ← reading.field? Reading.truth "json" entries
  pure ⟨filter.getD standard.filter, json.getD standard.json⟩

/-- The settings that some entries hold, over the defaults; other entries are ignored. -/
def Settings.ofToml? (reading : Reading) (entries : Dictionary Toml) : Option Settings := do
  let defaultHandler ← reading.field? Reading.text "default_handler" entries
  let autoSignIn ← reading.field? Reading.truth "auto_sign_in" entries
  let completionEventName ← reading.field? Reading.text "completion_event_name" entries
  let failureTemplate ← reading.field? Reading.text "failure_message_template" entries
  let logging ← reading.field? Logging.ofToml? "logging" entries
  pure {
    defaultHandler
    autoSignIn := autoSignIn.getD standard.autoSignIn
    completionEventName := completionEventName.getD standard.completionEventName
    failureTemplate := failureTemplate.getD standard.failureTemplate
    logging := logging.getD standard.logging }

end SignInFlow
