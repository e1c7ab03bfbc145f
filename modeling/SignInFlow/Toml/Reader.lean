import SignInFlow.Toml.Number
import SignInFlow.Toml.Text
import SignInFlow.Toml.Tree

/-!
# Reading TOML

A document is read line by line into statements, which are then assembled.  Lists run over lines and
may end in a comma; braces stay on one line and may not.  Lists and braces nest, and keys are
dotted, less than eighty deep.
-/

namespace SignInFlow.Toml

/-- The depth that nesting and dotted keys do not reach. -/
def depthLimit : Nat := 80

/-- Whether a character may stand in a key without quotes. -/
def isKeyCharacter (character : Char) : Bool :=
  character.isAlphanum || character = '_' || character = '-'

/-- A key without dots. -/
def key? (input : List Char) : Option (String × List Char) :=
  match input with
  | '"' :: _ | '\'' :: _ => line? input
  | _ =>
      let name := input.takeWhile isKeyCharacter
      if name.isEmpty then none else some (String.ofList name, input.drop name.length)

/-- Keys with dots between them, and spaces around them. -/
def keys? : Nat → List Char → Option (List String × List Char)
  | 0, _ => none
  | fuel + 1, input =>
      match key? (skipSpaces input) with
      | none => none
      | some (name, rest) =>
          match skipSpaces rest with
          | '.' :: rest => (keys? fuel rest).map fun (names, rest) => (name :: names, rest)
          | rest => some ([name], rest)

/-- A dotted key. -/
def keyPath? (input : List Char) : Option (KeyPath × List Char) :=
  match keys? (depthLimit - 1) input with
  | some (names, rest) =>
      match names.reverse with
      | name :: parents => some (⟨parents.reverse, name⟩, rest)
      | [] => none
  | none => none

/-- Drops a comment, if one starts here. -/
def skipComment (input : List Char) : List Char :=
  match input with
  | '#' :: rest => rest.dropWhile isPlain
  | _ => input

/-- What follows the end of a line, in front of which spaces and a comment may stand. -/
def endOfLine? (input : List Char) : Option (List Char) :=
  match skipComment (skipSpaces input) with
  | [] => some []
  | rest => afterBreak? rest

/-- Drops spaces, comments and line breaks; a comment ends with its line. -/
def skipBetween? : Nat → List Char → Option (List Char)
  | 0, _ => none
  | fuel + 1, input =>
      match skipLines input with
      | '#' :: rest => (afterBreak? (rest.dropWhile isPlain)).bind (skipBetween? fuel)
      | rest => some rest

/-- What follows a fixed word. -/
def afterWord? (word input : List Char) : Option (List Char) :=
  if word.isPrefixOf input then some (input.drop word.length) else none

/-- A value that is neither a list nor in braces. -/
def scalar? (input : List Char) : Option (Toml × List Char) :=
  match input with
  | '"' :: _ | '\'' :: _ => (string? input).map fun (value, rest) => (.text value, rest)
  | 't' :: _ => (afterWord? "true".toList input).map fun rest => (.truth true, rest)
  | 'f' :: _ => (afterWord? "false".toList input).map fun rest => (.truth false, rest)
  | _ =>
      match Moment.read? input with
      | some (written, rest) => some (.moment written, rest)
      | none => number? input

mutual

/-- The value at the start of the input; `fuel` bounds its length, and `depth` says how many lists
and braces may still be opened. -/
def value? : Nat → Nat → List Char → Option (Toml × List Char)
  | 0, _, _ => none
  | fuel + 1, depth, input =>
      match input, depth with
      | '[' :: _, 0 => none
      | '{' :: _, 0 => none
      | '[' :: rest, depth + 1 => elements? fuel depth [] rest
      | '{' :: rest, depth + 1 =>
          match skipSpaces rest with
          | '}' :: rest => some (.table [], rest)
          | _ => pairs? fuel depth [] rest
      | input, _ => scalar? input

/-- The rest of a list after the elements already read, latest first. -/
def elements? : Nat → Nat → List Toml → List Char → Option (Toml × List Char)
  | 0, _, _, _ => none
  | fuel + 1, depth, read, input =>
      match skipBetween? (input.length + 1) input with
      | none => none
      | some (']' :: rest) => some (.list read.reverse, rest)
      | some rest =>
          match value? fuel depth rest with
          | none => none
          | some (element, rest) =>
              match skipBetween? (rest.length + 1) rest with
              | some (',' :: rest) => elements? fuel depth (element :: read) rest
              | some (']' :: rest) => some (.list (element :: read).reverse, rest)
              | _ => none

/-- The rest of what stands in braces after the entries already read, latest first. -/
def pairs? : Nat → Nat → List (KeyPath × Toml) → List Char → Option (Toml × List Char)
  | 0, _, _, _ => none
  | fuel + 1, depth, read, input =>
      match keyPath? input with
      | some (path, '=' :: rest) =>
          match value? fuel depth (skipSpaces rest) with
          | none => none
          | some (content, rest) =>
              match skipSpaces rest with
              | ',' :: rest => pairs? fuel depth ((path, content) :: read) rest
              | '}' :: rest =>
                  (assembleInline? ((path, content) :: read).reverse).map fun table => (table, rest)
              | _ => none
      | _ => none

end

/-- The statement at the start of the input, with its line. -/
def statement? (input : List Char) : Option (Statement × List Char) :=
  match input with
  | '[' :: '[' :: rest =>
      match keyPath? rest with
      | some (path, ']' :: ']' :: rest) => (endOfLine? rest).map fun rest => (.element path, rest)
      | _ => none
  | '[' :: rest =>
      match keyPath? rest with
      | some (path, ']' :: rest) => (endOfLine? rest).map fun rest => (.table path, rest)
      | _ => none
  | _ =>
      match keyPath? input with
      | some (path, '=' :: rest) => do
          let (content, rest) ← value? (rest.length + 1) (depthLimit - 1) (skipSpaces rest)
          (endOfLine? rest).map fun rest => (.entry path content, rest)
      | _ => none

/-- The statements of a document after those already read, latest first. -/
def statements? : Nat → List Statement → List Char → Option (List Statement)
  | 0, _, _ => none
  | fuel + 1, read, input =>
      match skipLines input with
      | [] => some read.reverse
      | '#' :: rest =>
          match endOfLine? ('#' :: rest) with
          | some rest => statements? fuel read rest
          | none => none
      | rest =>
          match statement? rest with
          | some (statement, rest) => statements? fuel (statement :: read) rest
          | none => none

/-- The entries of the document that a text is, if it is one, in the order of their origin. -/
def parse? (text : String) : Option (List (String × Toml)) :=
  let characters :=
    match text.toList with
    | '\uFEFF' :: rest => rest
    | characters => characters
  (statements? (characters.length + 1) [] characters).bind assemble?

end SignInFlow.Toml
