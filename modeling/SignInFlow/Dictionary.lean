/-!
# Dictionaries

A dictionary is a list of named entries in the order of their names.  It is read with `List.lookup`;
`put` and `drop` keep the order, and the lemmas say what each does to every name, whatever the list.
-/

namespace SignInFlow

/-- Named entries, in the order of their names. -/
abbrev Dictionary (α : Type) := List (String × α)

namespace Dictionary

variable {α : Type}

/-- Enters a value under a name, in place of the one that was there. -/
def put (name : String) (value : α) : Dictionary α → Dictionary α
  | [] => [(name, value)]
  | entry :: rest =>
      if name = entry.1 then (name, value) :: rest
      else if name < entry.1 then (name, value) :: entry :: rest
      else entry :: put name value rest

/-- Removes whatever is entered under a name. -/
def drop (name : String) : Dictionary α → Dictionary α
  | [] => []
  | entry :: rest => if name = entry.1 then drop name rest else entry :: drop name rest

/-- Whether something is entered under a name. -/
def has (name : String) (entries : Dictionary α) : Bool :=
  (List.lookup name entries).isSome

/-- The dictionary of a list of entries, a later one replacing an earlier one of its name. -/
def ofEntries (entries : List (String × α)) : Dictionary α :=
  entries.foldl (fun collected entry => put entry.1 entry.2 collected) []

@[simp] theorem lookup_put_self (name : String) (value : α) (entries : Dictionary α) :
    List.lookup name (put name value entries) = some value := by
  induction entries with
  | nil => simp [put]
  | cons entry rest ih =>
      obtain ⟨key, stored⟩ := entry
      by_cases same : name = key
      · simp [put, same]
      · have away : (name == key) = false := by simp [same]
        by_cases before : name < key <;> simp [put, same, before, List.lookup_cons, away, ih]

theorem lookup_put_of_ne {name other : String} (differs : other ≠ name) (value : α)
    (entries : Dictionary α) :
    List.lookup other (put name value entries) = List.lookup other entries := by
  have away : (other == name) = false := by simp [differs]
  induction entries with
  | nil => simp [put, List.lookup_cons, away]
  | cons entry rest ih =>
      obtain ⟨key, stored⟩ := entry
      by_cases same : name = key
      · subst same
        simp [put, List.lookup_cons, away]
      · by_cases before : name < key <;> simp [put, same, before, List.lookup_cons, away, ih]

@[simp] theorem lookup_drop_self (name : String) (entries : Dictionary α) :
    List.lookup name (drop name entries) = none := by
  induction entries with
  | nil => rfl
  | cons entry rest ih =>
      obtain ⟨key, stored⟩ := entry
      by_cases same : name = key
      · simp [drop, ← same, ih]
      · have away : (name == key) = false := by simp [same]
        simp [drop, same, List.lookup_cons, away, ih]

theorem lookup_drop_of_ne {name other : String} (differs : other ≠ name)
    (entries : Dictionary α) :
    List.lookup other (drop name entries) = List.lookup other entries := by
  induction entries with
  | nil => rfl
  | cons entry rest ih =>
      obtain ⟨key, stored⟩ := entry
      by_cases same : name = key
      · subst same
        have away : (other == name) = false := by simp [differs]
        simp [drop, List.lookup_cons, away, ih]
      · simp [drop, same, List.lookup_cons, ih]

end Dictionary
end SignInFlow
