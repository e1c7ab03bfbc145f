import SignInFlow.Decimal.Digits

/-!
# Reading the strings of a TOML document

A string in double quotes has escapes, one in apostrophes has none.  With three quotes at each end a
string runs over several lines: a line break right after the opening ones is dropped, and one or two
quotes may stand anywhere inside, also right before the closing ones.
-/

namespace SignInFlow.Toml

/-- Whether a character may stand in a string or a comment: no control other than the tab. -/
def isPlain (character : Char) : Bool :=
  character = '\t' || (0x20 ≤ character.toNat && character.toNat ≠ 0x7F)

/-- Whether a character separates without ending the line. -/
def isSpace (character : Char) : Bool := character = ' ' || character = '\t'

/-- Drops tabs and spaces. -/
def skipSpaces (input : List Char) : List Char := input.dropWhile isSpace

/-- What follows a line break. -/
def afterBreak? : List Char → Option (List Char)
  | '\n' :: rest => some rest
  | '\r' :: '\n' :: rest => some rest
  | _ => none

/-- Drops spaces and line breaks. -/
def skipLines : List Char → List Char
  | '\r' :: '\n' :: rest => skipLines rest
  | character :: rest =>
      if isSpace character || character = '\n' then skipLines rest else character :: rest
  | [] => []

/-- The character whose code is written in exactly `count` hexadecimal digits. -/
def codePoint? (count : Nat) (input : List Char) : Option (Char × List Char) := do
  let digits := input.take count
  let code := baseValue 16 (fun digit => (hexValue? digit).getD 0) digits
  if digits.length = count ∧ digits.all (fun digit => (hexValue? digit).isSome) ∧
      code.isValidChar then
    some (Char.ofNat code, input.drop count)
  else none

/-- The character that an escape stands for, after its backslash. -/
def escape? : List Char → Option (Char × List Char)
  | 'b' :: rest => some ('\x08', rest)
  | 't' :: rest => some ('\t', rest)
  | 'n' :: rest => some ('\n', rest)
  | 'f' :: rest => some ('\x0c', rest)
  | 'r' :: rest => some ('\r', rest)
  | '"' :: rest => some ('"', rest)
  | '\\' :: rest => some ('\\', rest)
  | 'u' :: rest => codePoint? 4 rest
  | 'U' :: rest => codePoint? 8 rest
  | _ => none

/-- A string on one line after its opening quote; `fuel` bounds its characters, and what is read
stands in reverse. -/
def quotedLine? : Nat → List Char → List Char → Option (List Char × List Char)
  | 0, _, _ => none
  | _ + 1, _, [] => none
  | fuel + 1, read, character :: rest =>
      if character = '"' then some (read.reverse, rest)
      else if character = '\\' then
        match escape? rest with
        | some (escaped, rest) => quotedLine? fuel (escaped :: read) rest
        | none => none
      else if isPlain character then quotedLine? fuel (character :: read) rest
      else none

/-- A string on one line without escapes, after its opening apostrophe. -/
def literalLine? (input : List Char) : Option (List Char × List Char) :=
  let content := input.takeWhile fun character => isPlain character && character ≠ '\''
  match input.drop content.length with
  | '\'' :: rest => some (content, rest)
  | _ => none

/-- What follows a backslash at the end of a line: the next line that is not blank. -/
def continued? (input : List Char) : Option (List Char) :=
  (afterBreak? (skipSpaces input)).map skipLines

/-- A string on several lines after its opening quotes, which `quote` tells apart.  A run of three
to five quotes ends it, the last three of them closing. -/
def quotedLines? (quote : Char) (escapes : Bool) :
    Nat → List Char → List Char → Option (List Char × List Char)
  | 0, _, _ => none
  | _ + 1, _, [] => none
  | fuel + 1, read, character :: rest =>
      if character = quote then
        let count := ((character :: rest).takeWhile (· = quote)).length
        let after := (character :: rest).drop count
        if count < 3 then
          quotedLines? quote escapes fuel (List.replicate count quote ++ read) after
        else if count ≤ 5 then some ((List.replicate (count - 3) quote ++ read).reverse, after)
        else none
      else if escapes && character = '\\' then
        match continued? rest with
        | some rest => quotedLines? quote escapes fuel read rest
        | none =>
            match escape? rest with
            | some (escaped, rest) => quotedLines? quote escapes fuel (escaped :: read) rest
            | none => none
      else
        match afterBreak? (character :: rest) with
        | some rest => quotedLines? quote escapes fuel ('\n' :: read) rest
        | none =>
            if isPlain character then quotedLines? quote escapes fuel (character :: read) rest
            else none

/-- A string on several lines after its opening quotes, less a line break at its start. -/
def lines? (quote : Char) (escapes : Bool) (input : List Char) : Option (List Char × List Char) :=
  let content := (afterBreak? input).getD input
  quotedLines? quote escapes (content.length + 1) [] content

/-- The string at the start of the input, which may stand on one line only. -/
def line? : List Char → Option (String × List Char)
  | '"' :: rest =>
      (quotedLine? (rest.length + 1) [] rest).map fun (content, rest) =>
        (String.ofList content, rest)
  | '\'' :: rest => (literalLine? rest).map fun (content, rest) => (String.ofList content, rest)
  | _ => none

/-- The string at the start of the input. -/
def string? (input : List Char) : Option (String × List Char) :=
  match input with
  | '"' :: '"' :: '"' :: rest =>
      (lines? '"' true rest).map fun (content, rest) => (String.ofList content, rest)
  | '\'' :: '\'' :: '\'' :: rest =>
      (lines? '\'' false rest).map fun (content, rest) => (String.ofList content, rest)
  | _ => line? input

example : string? "\"\"\"\na\\\n  b\"\"\"\"\"x".toList = some ("ab\"\"", ['x']) := by decide +kernel

end SignInFlow.Toml
