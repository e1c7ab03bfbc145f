import SignInFlow.Text.Lowercase
import SignInFlow.Text.Substitution
import SignInFlow.Toml

/-!
# Layers of settings

A layer is a list of values, each with the key it is placed under.  A key of words with dots and
indices is a path into tables and lists; names count in lower case.  Placing a table under a name
merges it into the one that is there; placing any other value replaces what is there, and whatever
stands in the way of a path gives way to it.
-/

namespace SignInFlow

/-- Values and the keys they are placed under, in order. -/
abbrev Layer := List (String × Toml)

/-- A step of a path. -/
inductive PathStep where
  /-- To an entry of a table. -/
  | entry (name : String)
  /-- To an element of a list, counted from its end if the index is negative. -/
  | element (index : Int)
deriving DecidableEq, Repr

namespace Layer

/-- Whether a character may stand in a word of a path. -/
def isWordCharacter (character : Char) : Bool :=
  character.isAlphanum || character = ' ' || character = '_' || character = '-'

/-- The index that brackets hold, in front of the closing one, and what follows it. -/
def index? (input : List Char) : Option (Int × List Char) :=
  let isSpace (character : Char) : Bool := character = ' ' || character = '\t'
  let input := input.dropWhile isSpace
  let (negative, digits) :=
    match input with
    | '-' :: rest => (true, rest)
    | _ => (false, input)
  let number := digits.takeWhile Char.isDigit
  let magnitude : Int := digitsValue number
  let index := if negative then -magnitude else magnitude
  match (digits.dropWhile Char.isDigit).dropWhile isSpace with
  | ']' :: rest =>
      if number.isEmpty || !Toml.integerInRange index then none else some (index, rest)
  | _ => none

/-- The steps that follow a word: names after dots and indices in brackets. -/
def steps? : Nat → List Char → Option (List PathStep)
  | _, [] => some []
  | fuel + 1, '.' :: rest =>
      let word := rest.takeWhile isWordCharacter
      if word.isEmpty then none
      else (steps? fuel (rest.drop word.length)).map (.entry (String.ofList word) :: ·)
  | fuel + 1, '[' :: rest =>
      match index? rest with
      | some (index, rest) => (steps? fuel rest).map (.element index :: ·)
      | none => none
  | _, _ => none

/-- The path that a key writes; a key that writes none is a name as a whole. -/
def path (key : String) : List PathStep :=
  match steps? (key.toList.length + 1) ('.' :: key.toList) with
  | some steps => steps
  | none => [.entry key]

/-- A name as it counts. -/
def folded (name : String) : String := String.ofList (lowercase name.toList)

mutual

/-- What is stored once a value is placed where something may be stored already. -/
def settle (stored : Option Toml) : Toml → Toml
  | .table [] => stored.getD (.table [])
  | .table entries => .table (settleEntries (stored.elim [] Toml.entries) entries)
  | value => value

/-- The entries of a table after others are merged into it. -/
def settleEntries (stored : Dictionary Toml) : List (String × Toml) → Dictionary Toml
  | [] => stored
  | (name, value) :: rest =>
      settleEntries
        (Dictionary.put (folded name) (settle (List.lookup (folded name) stored) value) stored) rest

end

/-- A list that has an element at an index, and the place of that element.  Elements that are
missing on the way to it, behind the last one or in front of the first one, become empty lists,
which no setting accepts. -/
def reach (index : Int) (elements : List Toml) : List Toml × Nat :=
  let missing (count : Nat) : List Toml := List.replicate count (.list [])
  let distance := index.natAbs
  if index < 0 then (missing (distance - elements.length) ++ elements, elements.length - distance)
  else (elements ++ missing (distance + 1 - elements.length), distance)

/-- What is stored once a value is placed: an element is replaced, a table is merged. -/
def place (value : Toml) : List PathStep → Option Toml → Toml
  | [], _ => value
  | [.entry name], stored =>
      let entries := stored.elim [] Toml.entries
      let name := folded name
      .table (Dictionary.put name (settle (List.lookup name entries) value) entries)
  | .entry name :: path, stored =>
      let entries := stored.elim [] Toml.entries
      let name := folded name
      .table (Dictionary.put name (place value path (List.lookup name entries)) entries)
  | .element index :: path, stored =>
      let (elements, position) := reach index (stored.elim [] Toml.elements)
      .list (elements.set position (place value path elements[position]?))

/-- The entries of the settings after a value is placed under a key. -/
def enter (entries : Dictionary Toml) (key : String) (value : Toml) : Dictionary Toml :=
  (place value (path key) (some (.table entries))).entries

/-- The entries of the settings after a layer is laid over them. -/
def lay (entries : Dictionary Toml) (layer : Layer) : Dictionary Toml :=
  layer.foldl (fun entries item => enter entries item.1 item.2) entries

example : path "a.b[-1]" = [.entry "a", .entry "b", .element (-1)] ∧
    path "a..b" = [.entry "a..b"] := by
  decide +kernel

end Layer
end SignInFlow
