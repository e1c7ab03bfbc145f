/-!
# Substitution in texts

Every occurrence of a pattern is replaced, from left to right and without overlaps; what is put in
is not searched again.
-/

namespace SignInFlow

/-- Whether a pattern occurs somewhere in a text. -/
def occursIn (pattern : List Char) : List Char → Bool
  | [] => pattern.isEmpty
  | character :: rest => pattern.isPrefixOf (character :: rest) || occursIn pattern rest

/-- The text with every occurrence of the pattern replaced, after `skip` characters that belong to
an occurrence already replaced. -/
def substituteFrom (pattern replacement : List Char) : Nat → List Char → List Char
  | _, [] => []
  | 0, character :: rest =>
      if pattern.isPrefixOf (character :: rest) then
        replacement ++ substituteFrom pattern replacement (pattern.length - 1) rest
      else character :: substituteFrom pattern replacement 0 rest
  | skip + 1, _ :: rest => substituteFrom pattern replacement skip rest

/-- The text with every occurrence of a pattern, which is not empty, replaced. -/
def substitute (pattern replacement text : String) : String :=
  String.ofList (substituteFrom pattern.toList replacement.toList 0 text.toList)

example : substitute "aa" "b" "aaaxaa" = "baxb" := by decide +kernel

end SignInFlow
