import SignInFlow.Toml

/-!
# Assembling the tables of a TOML document

A document is a list of statements: entries, headers of tables and headers of further elements of a
list of tables.  A table is declared once, by its own header; what dotted keys have made, headers do
not declare and entries elsewhere do not extend.  Entries stay in the order in which they came to
be.
-/

namespace SignInFlow.Toml

/-- A key with the tables that lead to it. -/
structure KeyPath where
  /-- The tables on the way, outermost first. -/
  parents : List String
  /-- The key in the last of them. -/
  name : String
deriving DecidableEq, Repr

/-- All keys, outermost first. -/
def KeyPath.keys (path : KeyPath) : List String := path.parents ++ [path.name]

/-- How a table has come to be. -/
inductive Origin where
  /-- By its own header; the whole document counts as such a table. -/
  | declared
  /-- By the header of something inside it. -/
  | implied
  /-- By a dotted key. -/
  | dotted
deriving DecidableEq, Repr

/-- What is known of an entry while a document is read. -/
inductive Node where
  /-- A value, which nothing extends. -/
  | value (content : Toml)
  /-- A table. -/
  | table (origin : Origin) (entries : List (String × Node))
  /-- A list of tables: the latest one, and those before it, latest first. -/
  | tables (latest : List (String × Node)) (earlier : List (List (String × Node)))
deriving Inhabited

mutual

/-- The value of an entry once everything is read. -/
def Node.toToml : Node → Toml
  | .value content => content
  | .table _ entries => .table (entriesToToml entries)
  | .tables latest earlier =>
      .list (.table (entriesToToml latest) :: tablesToToml earlier).reverse

/-- The values of the entries of a table. -/
def entriesToToml : List (String × Node) → List (String × Toml)
  | [] => []
  | (key, node) :: rest => (key, node.toToml) :: entriesToToml rest

/-- The values of some tables. -/
def tablesToToml : List (List (String × Node)) → List Toml
  | [] => []
  | entries :: rest => .table (entriesToToml entries) :: tablesToToml rest

end

/-- The entries of a table that is being read, in the order in which they came to be. -/
abbrev Nodes := List (String × Node)

/-- Puts a node under a key: where the key stands already, else behind all others. -/
def Nodes.put (key : String) (node : Node) : Nodes → Nodes
  | [] => [(key, node)]
  | entry :: rest => if entry.1 = key then (key, node) :: rest else entry :: Nodes.put key node rest

/-- The entries without a key. -/
def Nodes.drop (key : String) (entries : Nodes) : Nodes := entries.filter fun entry => entry.1 ≠ key

/-- A change of the entries of a table, given its origin. -/
abbrev Change := Origin → Nodes → Option Nodes

/-- Changes the table at the end of a path.  Tables that are missing on the way get the origin
`made`; a list of tables stands for its latest one; a dotted key does not lead through a table with
a header of its own. -/
def alter (made : Origin) (change : Change) : List String → Change
  | [], origin, entries => change origin entries
  | key :: path, _, entries =>
      match List.lookup key entries with
      | none =>
          (alter made change path made []).map fun inner =>
            Nodes.put key (.table made inner) entries
      | some (.value _) => none
      | some (.table origin inner) =>
          if made = .dotted ∧ origin = .declared then none
          else
            (alter made change path origin inner).map fun inner =>
              Nodes.put key (.table origin inner) entries
      | some (.tables latest earlier) =>
          (alter made change path .declared latest).map fun latest =>
            Nodes.put key (.tables latest earlier) entries

/-- Enters a value under a key that is new.  A plain key enters no table that dotted keys have made,
and a dotted one no other table. -/
def enter (path : KeyPath) (content : Toml) : Change :=
  alter .dotted
    (fun origin entries =>
      if (origin == .dotted) == path.parents.isEmpty || Dictionary.has path.name entries then none
      else some (Nodes.put path.name (.value content) entries))
    path.parents

/-- Declares a table that has no header yet, which makes it the last entry so far. -/
def declareTable (name : String) : Change := fun _ entries =>
  match List.lookup name entries with
  | none => some (Nodes.put name (.table .declared []) entries)
  | some (.table .implied inner) =>
      some (Nodes.put name (.table .declared inner) (Nodes.drop name entries))
  | some _ => none

/-- Adds an empty table to a list of tables. -/
def declareElement (name : String) : Change := fun _ entries =>
  match List.lookup name entries with
  | none => some (Nodes.put name (.tables [] []) entries)
  | some (.tables latest earlier) =>
      some (Nodes.put name (.tables [] (latest :: earlier)) entries)
  | some _ => none

/-- A statement of a document. -/
inductive Statement where
  /-- A value under a key of the table at hand. -/
  | entry (path : KeyPath) (content : Toml)
  /-- The header of a table. -/
  | table (path : KeyPath)
  /-- The header of a further element of a list of tables. -/
  | element (path : KeyPath)

/-- A document that is being read. -/
structure Draft where
  /-- What has been entered so far. -/
  root : Nodes
  /-- The way to the table at hand. -/
  current : List String

/-- A document of which nothing has been read. -/
def Draft.blank : Draft := ⟨[], []⟩

/-- The document after one more statement, if the statement is acceptable. -/
def Draft.step (draft : Draft) : Statement → Option Draft
  | .entry path content =>
      (alter .implied (enter path content) draft.current .declared draft.root).map fun root =>
        ⟨root, draft.current⟩
  | .table path =>
      (alter .implied (declareTable path.name) path.parents .declared draft.root).map fun root =>
        ⟨root, path.keys⟩
  | .element path =>
      (alter .implied (declareElement path.name) path.parents .declared draft.root).map fun root =>
        ⟨root, path.keys⟩

/-- The entries of the document that some statements make up. -/
def assemble? (statements : List Statement) : Option (List (String × Toml)) :=
  (statements.foldlM Draft.step Draft.blank).map fun draft => entriesToToml draft.root

/-- The table whose entries stand in one pair of braces. -/
def assembleInline? (entries : List (KeyPath × Toml)) : Option Toml :=
  (entries.foldlM (fun root entry => enter entry.1 entry.2 .declared root) []).map fun root =>
    .table (entriesToToml root)

end SignInFlow.Toml
