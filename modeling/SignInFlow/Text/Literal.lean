import SignInFlow.Text.Hidden

/-!
# Quoted literals

A text in double quotes, with quotes, backslashes and characters that do not show written as
escapes.
-/

namespace SignInFlow

/-- The hexadecimal digits of a code point, in lower case. -/
def hexText (code : Nat) : List Char := Nat.toDigits 16 code

/-- A character as it stands in a literal. -/
def literalCharacter (character : Char) : List Char :=
  match character with
  | '"' => ['\\', '"']
  | '\\' => ['\\', '\\']
  | '\n' => ['\\', 'n']
  | '\r' => ['\\', 'r']
  | '\t' => ['\\', 't']
  | '\x00' => ['\\', '0']
  | other =>
      if isHidden other then ['\\', 'u', '\x7b'] ++ hexText other.toNat ++ ['\x7d'] else [other]

/-- A text as a quoted literal. -/
def literal (text : String) : String :=
  String.ofList ('"' :: (text.toList.flatMap literalCharacter ++ ['"']))

end SignInFlow
