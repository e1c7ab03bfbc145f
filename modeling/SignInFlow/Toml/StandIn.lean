import SignInFlow.Toml

/-!
# Tables that stand for dates and times

A table whose first key is a reserved one is no table: it stands for the date or time that the text
under that key writes.  Whatever else it holds does not count.
-/

namespace SignInFlow.Toml

/-- The key that is reserved for dates and times. -/
def momentKey : String := "$__toml_private_datetime"

/-- What a table holds for a date or time, if it stands for one. -/
def heldMoment? : List (String × Toml) → Option Toml
  | (key, content) :: _ => if key = momentKey then some content else none
  | [] => none

/-- The date or time that a value writes. -/
def writtenMoment? : Toml → Option Toml
  | .text value => (Moment.ofText? value.toList).map .moment
  | _ => none

mutual

/-- The value with dates and times for the tables that stand for them, if all these hold one. -/
def resolve? : Toml → Option Toml
  | .list elements => (resolveElements? elements).map .list
  | .table entries =>
      match heldMoment? entries with
      | some content => writtenMoment? content
      | none => (resolveEntries? entries).map .table
  | value => some value

/-- The elements of a list, all resolved. -/
def resolveElements? : List Toml → Option (List Toml)
  | [] => some []
  | element :: rest => do pure ((← element.resolve?) :: (← resolveElements? rest))

/-- The entries of a table, all resolved. -/
def resolveEntries? : List (String × Toml) → Option (List (String × Toml))
  | [] => some []
  | (key, content) :: rest => do pure ((key, ← content.resolve?) :: (← resolveEntries? rest))

end

end SignInFlow.Toml
