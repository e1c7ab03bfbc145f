import SignInFlow.Toml.Reader

/-!
# Distinct keys

No table of a document holds a key twice, however deep it lies.  Whatever is entered while a
document is read goes under a new key, or into the place of what stands under the same key.
-/

namespace SignInFlow.Toml

/-- Every table in a value, and the value if it is a table, holds each of its keys once. -/
inductive Distinct : Toml → Prop where
  | text (value : String) : Distinct (.text value)
  | integer (value : Int) : Distinct (.integer value)
  | number (value : Extended) : Distinct (.number value)
  | truth (value : Bool) : Distinct (.truth value)
  | moment (value : Moment) : Distinct (.moment value)
  | list {elements : List Toml} (within : ∀ element ∈ elements, Distinct element) :
      Distinct (.list elements)
  | table {entries : List (String × Toml)} (once : (entries.map Prod.fst).Nodup)
      (within : ∀ entry ∈ entries, Distinct entry.2) : Distinct (.table entries)

/-- Every table in a node holds each of its keys once. -/
inductive Node.Distinct : Node → Prop where
  | value {content : Toml} (distinct : content.Distinct) : Node.Distinct (.value content)
  | table {origin : Origin} {entries : Nodes} (once : (entries.map Prod.fst).Nodup)
      (within : ∀ entry ∈ entries, Node.Distinct entry.2) : Node.Distinct (.table origin entries)
  | tables {latest : Nodes} {earlier : List Nodes}
      (once : ∀ entries ∈ latest :: earlier, (entries.map Prod.fst).Nodup)
      (within : ∀ entries ∈ latest :: earlier, ∀ entry ∈ entries, Node.Distinct entry.2) :
      Node.Distinct (.tables latest earlier)

/-- The entries of a table have distinct keys, and so do those of all tables in it. -/
structure Nodes.Distinct (entries : Nodes) : Prop where
  once : (entries.map Prod.fst).Nodup
  within : ∀ entry ∈ entries, entry.2.Distinct

theorem mem_of_lookup {α : Type} {key : String} {value : α} {entries : List (String × α)}
    (found : List.lookup key entries = some value) : (key, value) ∈ entries := by
  obtain ⟨front, back, rfl, -⟩ := List.lookup_eq_some_iff.mp found
  exact List.mem_append_right _ List.mem_cons_self

theorem Distinct.once {entries : List (String × Toml)} (distinct : Distinct (.table entries)) :
    (entries.map Prod.fst).Nodup := by
  cases distinct with
  | table once _ => exact once

theorem Distinct.of_lookup {key : String} {value : Toml} {entries : List (String × Toml)}
    (distinct : Distinct (.table entries)) (found : List.lookup key entries = some value) :
    value.Distinct := by
  cases distinct with
  | table _ within => exact within _ (mem_of_lookup found)

/-! ## What nodes become -/

theorem entriesToToml_eq (entries : Nodes) :
    entriesToToml entries = entries.map fun entry => (entry.1, entry.2.toToml) := by
  induction entries with
  | nil => rw [entriesToToml, List.map_nil]
  | cons entry rest ih => rw [entriesToToml, ih, List.map_cons]

theorem tablesToToml_eq (tables : List Nodes) :
    tablesToToml tables = tables.map fun entries => .table (entriesToToml entries) := by
  induction tables with
  | nil => rw [tablesToToml, List.map_nil]
  | cons entries rest ih => rw [tablesToToml, ih, List.map_cons]

/-- A table holds each key once if its nodes do, given what these become. -/
theorem distinct_entriesToToml {entries : Nodes} (once : (entries.map Prod.fst).Nodup)
    (within : ∀ entry ∈ entries, entry.2.toToml.Distinct) :
    Distinct (.table (entriesToToml entries)) := by
  rw [entriesToToml_eq]
  refine .table (by simpa [Function.comp_def] using once) fun entry member => ?_
  obtain ⟨stored, present, rfl⟩ := List.mem_map.mp member
  exact within stored present

theorem Node.Distinct.toToml {node : Node} (distinct : node.Distinct) : node.toToml.Distinct := by
  induction distinct with
  | value distinct => rwa [Node.toToml]
  | table once _ within =>
      rw [Node.toToml]
      exact distinct_entriesToToml once within
  | @tables latest earlier once _ within =>
      rw [Node.toToml, tablesToToml_eq]
      refine .list fun element member => ?_
      obtain ⟨entries, present, rfl⟩ := List.mem_map.mp
        (show element ∈ (latest :: earlier).map fun entries => .table (entriesToToml entries) from
          List.mem_reverse.mp member)
      exact distinct_entriesToToml (once entries present) (within entries present)

theorem Nodes.Distinct.toToml {entries : Nodes} (distinct : Nodes.Distinct entries) :
    Toml.Distinct (.table (entriesToToml entries)) :=
  distinct_entriesToToml distinct.once fun entry member => (distinct.within entry member).toToml

/-! ## Changes of nodes -/

namespace Nodes

theorem mem_put {key : String} {node : Node} {entries : Nodes} {entry : String × Node}
    (member : entry ∈ put key node entries) : entry = (key, node) ∨ entry ∈ entries := by
  induction entries with
  | nil => exact .inl (List.mem_singleton.mp member)
  | cons first rest ih =>
      rw [put] at member
      split at member
      · rcases List.mem_cons.mp member with same | later
        · exact .inl same
        · exact .inr (List.mem_cons_of_mem _ later)
      · rcases List.mem_cons.mp member with rfl | later
        · exact .inr List.mem_cons_self
        · exact (ih later).imp_right (List.mem_cons_of_mem _)

theorem nodup_put {entries : Nodes} (once : (entries.map Prod.fst).Nodup) (key : String)
    (node : Node) : ((put key node entries).map Prod.fst).Nodup := by
  induction entries with
  | nil => simp [put]
  | cons first rest ih =>
      obtain ⟨fresh, once⟩ := List.nodup_cons.mp once
      rw [put]
      split
      · rename_i same
        exact List.nodup_cons.mpr ⟨same ▸ fresh, once⟩
      · rename_i differs
        refine List.nodup_cons.mpr ⟨fun member => ?_, ih once⟩
        obtain ⟨entry, present, same⟩ := List.mem_map.mp member
        rcases mem_put present with rfl | later
        · exact differs same.symm
        · exact fresh (List.mem_map.mpr ⟨entry, later, same⟩)

namespace Distinct

variable {entries : Nodes} {key : String} {node : Node}

theorem nil : Nodes.Distinct [] := ⟨List.nodup_nil, List.forall_mem_nil _⟩

theorem put (distinct : Nodes.Distinct entries) (added : node.Distinct) :
    Nodes.Distinct (Nodes.put key node entries) := by
  refine ⟨nodup_put distinct.once key node, fun entry member => ?_⟩
  rcases mem_put member with rfl | old
  · exact added
  · exact distinct.within entry old

theorem drop (distinct : Nodes.Distinct entries) : Nodes.Distinct (Nodes.drop key entries) :=
  ⟨distinct.once.sublist (List.filter_sublist.map Prod.fst),
    fun entry member => distinct.within entry (List.mem_filter.mp member).1⟩

theorem of_lookup (distinct : Nodes.Distinct entries)
    (found : List.lookup key entries = some node) : node.Distinct :=
  distinct.within _ (mem_of_lookup found)

end Distinct
end Nodes

theorem Node.distinct_table_iff {origin : Origin} {entries : Nodes} :
    Node.Distinct (.table origin entries) ↔ Nodes.Distinct entries := by
  constructor
  · rintro (_ | ⟨once, within⟩)
    exact ⟨once, within⟩
  · exact fun distinct => .table distinct.once distinct.within

theorem Node.distinct_tables_iff {latest : Nodes} {earlier : List Nodes} :
    Node.Distinct (.tables latest earlier) ↔
      ∀ entries ∈ latest :: earlier, Nodes.Distinct entries := by
  constructor
  · rintro (_ | _ | ⟨once, within⟩) entries member
    exact ⟨once entries member, within entries member⟩
  · exact fun distinct => .tables (fun entries member => (distinct entries member).once)
      fun entries member => (distinct entries member).within

/-- A change that leaves keys distinct. -/
def Change.Keeps (change : Change) : Prop :=
  ∀ {origin : Origin} {entries after : Nodes}, Nodes.Distinct entries →
    change origin entries = some after → Nodes.Distinct after

/-- A change at the end of a path keeps keys distinct all along the way to it. -/
theorem keeps_alter {change : Change} (keeps : change.Keeps) (made : Origin) (path : List String) :
    (alter made change path).Keeps := by
  induction path with
  | nil => exact keeps
  | cons key path ih =>
      intro origin entries after distinct changed
      rw [alter] at changed
      cases found : List.lookup key entries with
      | none =>
          rw [found] at changed
          obtain ⟨inner, altered, rfl⟩ := Option.map_eq_some_iff.mp changed
          exact distinct.put (Node.distinct_table_iff.mpr (ih .nil altered))
      | some node =>
          have within := distinct.of_lookup found
          rw [found] at changed
          cases node with
          | value content => cases changed
          | table origin inner =>
              simp only at changed
              split at changed
              · cases changed
              · obtain ⟨inner, altered, rfl⟩ := Option.map_eq_some_iff.mp changed
                exact distinct.put
                  (Node.distinct_table_iff.mpr (ih (Node.distinct_table_iff.mp within) altered))
          | tables latest earlier =>
              obtain ⟨latest, altered, rfl⟩ := Option.map_eq_some_iff.mp changed
              obtain ⟨first, others⟩ := List.forall_mem_cons.mp (Node.distinct_tables_iff.mp within)
              exact distinct.put
                (Node.distinct_tables_iff.mpr (List.forall_mem_cons.mpr ⟨ih first altered, others⟩))

theorem keeps_enter {content : Toml} (distinct : content.Distinct) (path : KeyPath) :
    (enter path content).Keeps := by
  refine keeps_alter ?_ .dotted path.parents
  intro origin entries after held changed
  simp only at changed
  split at changed
  · cases changed
  · cases changed
    exact held.put (.value distinct)

theorem keeps_declareTable (name : String) : (declareTable name).Keeps := by
  intro origin entries after held changed
  unfold declareTable at changed
  split at changed
  · cases changed
    exact held.put (Node.distinct_table_iff.mpr .nil)
  · rename_i inner found
    cases changed
    have within := Node.distinct_table_iff.mp (held.of_lookup found)
    exact held.drop.put (Node.distinct_table_iff.mpr within)
  · cases changed

theorem keeps_declareElement (name : String) : (declareElement name).Keeps := by
  intro origin entries after held changed
  unfold declareElement at changed
  split at changed
  · cases changed
    exact held.put (Node.distinct_tables_iff.mpr
      (List.forall_mem_cons.mpr ⟨.nil, List.forall_mem_nil _⟩))
  · rename_i latest earlier found
    cases changed
    have within := Node.distinct_tables_iff.mp (held.of_lookup found)
    exact held.put (Node.distinct_tables_iff.mpr (List.forall_mem_cons.mpr ⟨.nil, within⟩))
  · cases changed

/-! ## Documents -/

/-- A property that every step keeps holds after all of them. -/
theorem foldlM_keeps {σ α : Type} (holds : σ → Prop) {step : σ → α → Option σ} {items : List α}
    (keeps : ∀ item ∈ items, ∀ {before after : σ},
      holds before → step before item = some after → holds after)
    {start last : σ} (held : holds start) (run : items.foldlM step start = some last) :
    holds last := by
  induction items generalizing start with
  | nil =>
      cases run
      exact held
  | cons item items ih =>
      rw [List.foldlM_cons] at run
      obtain ⟨next, stepped, run⟩ := Option.bind_eq_some_iff.mp run
      obtain ⟨first, others⟩ := List.forall_mem_cons.mp keeps
      exact ih others (first held stepped) run

/-- The value that a statement enters, if it enters one, has distinct keys. -/
def Statement.Distinct : Statement → Prop
  | .entry _ content => content.Distinct
  | .table _ | .element _ => True

theorem Draft.distinct_step {draft after : Draft} {statement : Statement}
    (distinct : statement.Distinct) (held : Nodes.Distinct draft.root)
    (stepped : draft.step statement = some after) : Nodes.Distinct after.root := by
  cases statement with
  | entry path content =>
      obtain ⟨root, changed, rfl⟩ := Option.map_eq_some_iff.mp stepped
      exact keeps_alter (keeps_enter distinct path) .implied draft.current held changed
  | table path =>
      obtain ⟨root, changed, rfl⟩ := Option.map_eq_some_iff.mp stepped
      exact keeps_alter (keeps_declareTable path.name) .implied path.parents held changed
  | element path =>
      obtain ⟨root, changed, rfl⟩ := Option.map_eq_some_iff.mp stepped
      exact keeps_alter (keeps_declareElement path.name) .implied path.parents held changed

theorem distinct_assemble {statements : List Statement} {entries : List (String × Toml)}
    (distinct : ∀ statement ∈ statements, statement.Distinct)
    (assembled : assemble? statements = some entries) : Distinct (.table entries) := by
  obtain ⟨draft, run, rfl⟩ := Option.map_eq_some_iff.mp assembled
  have held := foldlM_keeps (fun draft => Nodes.Distinct draft.root)
    (fun statement member _ _ => Draft.distinct_step (distinct statement member)) .nil run
  exact held.toToml

theorem distinct_assembleInline {entries : List (KeyPath × Toml)} {table : Toml}
    (distinct : ∀ entry ∈ entries, entry.2.Distinct)
    (assembled : assembleInline? entries = some table) : table.Distinct := by
  obtain ⟨root, run, rfl⟩ := Option.map_eq_some_iff.mp assembled
  have held := foldlM_keeps Nodes.Distinct
    (fun entry member _ _ => keeps_enter (distinct entry member) entry.1) .nil run
  exact held.toToml

/-! ## Reading -/

theorem distinct_integer {integer : Int} {value : Toml} (read : integer? integer = some value) :
    value.Distinct := by
  unfold integer? at read
  split at read
  · cases read
    exact .integer integer
  · cases read

theorem distinct_decimal {negative : Bool} {input rest : List Char} {value : Toml}
    (read : decimal? negative input = some (value, rest)) : value.Distinct := by
  unfold decimal? at read
  obtain ⟨⟨whole, afterWhole⟩, -, read⟩ := Option.bind_eq_some_iff.mp read
  obtain ⟨⟨fraction, afterFraction⟩, -, read⟩ := Option.bind_eq_some_iff.mp read
  obtain ⟨⟨power, afterPower⟩, -, read⟩ := Option.bind_eq_some_iff.mp read
  simp only at read
  split at read
  · obtain ⟨integer, kept, same⟩ := Option.bind_eq_some_iff.mp read
    cases same
    exact distinct_integer kept
  · split at read
    · cases read
    · cases read
      exact .number _

theorem distinct_based {base : Nat} {input rest : List Char} {value : Toml}
    (read : based? base input = some (value, rest)) : value.Distinct := by
  unfold based? at read
  obtain ⟨⟨digits, afterDigits⟩, -, read⟩ := Option.bind_eq_some_iff.mp read
  obtain ⟨integer, kept, same⟩ := Option.bind_eq_some_iff.mp read
  cases same
  exact distinct_integer kept

theorem distinct_number {input rest : List Char} {value : Toml}
    (read : number? input = some (value, rest)) : value.Distinct := by
  unfold number? at read
  split at read
  · exact distinct_based read
  · exact distinct_based read
  · exact distinct_based read
  · simp only [signed?] at read
    split at read
    · cases read
      exact .number _
    · cases read
      exact .number _
    · exact distinct_decimal read

theorem distinct_scalar {input rest : List Char} {value : Toml}
    (read : scalar? input = some (value, rest)) : value.Distinct := by
  unfold scalar? at read
  split at read
  · obtain ⟨_, -, same⟩ := Option.map_eq_some_iff.mp read
    cases same
    exact .text _
  · obtain ⟨_, -, same⟩ := Option.map_eq_some_iff.mp read
    cases same
    exact .text _
  · obtain ⟨_, -, same⟩ := Option.map_eq_some_iff.mp read
    cases same
    exact .truth true
  · obtain ⟨_, -, same⟩ := Option.map_eq_some_iff.mp read
    cases same
    exact .truth false
  · split at read
    · cases read
      exact .moment _
    · exact distinct_number read

/-- What is read with some fuel has distinct keys, if what was read of it before does. -/
structure ReadsDistinct (fuel : Nat) : Prop where
  value : ∀ {depth : Nat} {input rest : List Char} {value : Toml},
    value? fuel depth input = some (value, rest) → value.Distinct
  elements : ∀ {depth : Nat} {earlier : List Toml} {input rest : List Char} {value : Toml},
    (∀ element ∈ earlier, element.Distinct) →
      elements? fuel depth earlier input = some (value, rest) → value.Distinct
  pairs : ∀ {depth : Nat} {earlier : List (KeyPath × Toml)} {input rest : List Char}
    {value : Toml}, (∀ entry ∈ earlier, entry.2.Distinct) →
      pairs? fuel depth earlier input = some (value, rest) → value.Distinct

namespace ReadsDistinct

variable {fuel depth : Nat} {input rest : List Char} {value : Toml}

theorem value_succ (reads : ReadsDistinct fuel)
    (read : value? (fuel + 1) depth input = some (value, rest)) : value.Distinct := by
  unfold value? at read
  split at read
  · cases read
  · cases read
  · exact reads.elements (List.forall_mem_nil _) read
  · split at read
    · cases read
      exact .table List.nodup_nil (List.forall_mem_nil _)
    · exact reads.pairs (List.forall_mem_nil _) read
  · exact distinct_scalar read

theorem elements_succ (reads : ReadsDistinct fuel) {earlier : List Toml}
    (distinct : ∀ element ∈ earlier, element.Distinct)
    (read : elements? (fuel + 1) depth earlier input = some (value, rest)) : value.Distinct := by
  rw [elements?] at read
  split at read
  · cases read
  · cases read
    exact .list fun element member => distinct element (List.mem_reverse.mp member)
  · split at read
    · cases read
    · rename_i element _ found
      have all := List.forall_mem_cons.mpr ⟨reads.value found, distinct⟩
      split at read
      · exact reads.elements all read
      · cases read
        exact .list fun element member => all element (List.mem_reverse.mp member)
      · cases read

theorem pairs_succ (reads : ReadsDistinct fuel) {earlier : List (KeyPath × Toml)}
    (distinct : ∀ entry ∈ earlier, entry.2.Distinct)
    (read : pairs? (fuel + 1) depth earlier input = some (value, rest)) : value.Distinct := by
  rw [pairs?] at read
  split at read
  · split at read
    · cases read
    · rename_i path _ _ _ content _ found
      have all : ∀ entry ∈ (path, content) :: earlier, entry.2.Distinct :=
        List.forall_mem_cons.mpr ⟨reads.value found, distinct⟩
      split at read
      · exact reads.pairs all read
      · obtain ⟨table, assembled, same⟩ := Option.map_eq_some_iff.mp read
        cases same
        exact distinct_assembleInline
          (fun entry member => all entry (List.mem_reverse.mp member)) assembled
      · cases read
  · cases read

end ReadsDistinct

theorem readsDistinct (fuel : Nat) : ReadsDistinct fuel := by
  induction fuel with
  | zero =>
      refine ⟨fun read => ?_, fun _ read => ?_, fun _ read => ?_⟩
      · simp [value?] at read
      · simp [elements?] at read
      · simp [pairs?] at read
  | succ fuel ih => exact ⟨ih.value_succ, ih.elements_succ, ih.pairs_succ⟩

theorem distinct_statement {input rest : List Char} {statement : Statement}
    (read : statement? input = some (statement, rest)) : statement.Distinct := by
  unfold statement? at read
  split at read
  · split at read
    · obtain ⟨_, -, same⟩ := Option.map_eq_some_iff.mp read
      cases same
      trivial
    · cases read
  · split at read
    · obtain ⟨_, -, same⟩ := Option.map_eq_some_iff.mp read
      cases same
      trivial
    · cases read
  · split at read
    · obtain ⟨⟨content, afterValue⟩, found, read⟩ := Option.bind_eq_some_iff.mp read
      obtain ⟨_, -, same⟩ := Option.map_eq_some_iff.mp read
      cases same
      exact (readsDistinct _).value found
    · cases read

theorem distinct_statements {fuel : Nat} {earlier statements : List Statement} {input : List Char}
    (distinct : ∀ statement ∈ earlier, statement.Distinct)
    (read : statements? fuel earlier input = some statements) :
    ∀ statement ∈ statements, statement.Distinct := by
  induction fuel generalizing earlier input with
  | zero => cases read
  | succ fuel ih =>
      rw [statements?] at read
      split at read
      · cases read
        exact fun statement member => distinct statement (List.mem_reverse.mp member)
      · split at read
        · exact ih distinct read
        · cases read
      · split at read
        · rename_i statement _ found
          exact ih (List.forall_mem_cons.mpr ⟨distinct_statement found, distinct⟩) read
        · cases read

/-- No table of a document holds a key twice. -/
theorem distinct_parse {text : String} {entries : List (String × Toml)}
    (read : parse? text = some entries) : Distinct (.table entries) := by
  obtain ⟨statements, found, assembled⟩ := Option.bind_eq_some_iff.mp read
  exact distinct_assemble (distinct_statements (List.forall_mem_nil _) found) assembled

end SignInFlow.Toml
