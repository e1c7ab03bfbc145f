import SignInFlow.Settings.Loading

/-!
# What layers come to

Laying a value under a key touches one entry: that of the name that the key begins with.  So what
comes of an entry is told by the keys that begin with its name, and each setting is taken from one
entry.
-/

namespace SignInFlow

/-! ## Entries that are laid over others -/

namespace Layer

/-- The entry that a key leads to or into. -/
def root (key : String) : String :=
  match path key with
  | .entry name :: _ => folded name
  | _ => folded key

/-- What an entry becomes when a value is placed under a key that leads to it or into it. -/
def grown (key : String) (value : Toml) (stored : Option Toml) : Toml :=
  match path key with
  | .entry _ :: step :: steps => place value (step :: steps) stored
  | _ => settle stored value

/-- A key begins with a name. -/
theorem exists_path_eq (key : String) : ∃ name steps, path key = .entry name :: steps := by
  unfold path
  split
  · rename_i steps written
    rw [steps?] at written
    split at written
    · cases written
    · obtain ⟨rest, -, rfl⟩ := Option.map_eq_some_iff.mp written
      exact ⟨_, _, rfl⟩
  · exact ⟨key, [], rfl⟩

theorem enter_eq (entries : Dictionary Toml) (key : String) (value : Toml) :
    enter entries key value =
      Dictionary.put (root key) (grown key value (List.lookup (root key) entries)) entries := by
  obtain ⟨name, steps, written⟩ := exists_path_eq key
  cases steps with
  | nil => simp only [enter, root, grown, written, place, Option.elim, Toml.entries]
  | cons step steps => simp only [enter, root, grown, written, place, Option.elim, Toml.entries]

section

variable {name : String} (plain : path name = [.entry name]) (lower : folded name = name)
include plain

/-- A plain name is the entry that it leads to. -/
theorem root_of_plain : root name = folded name := by
  simp only [root, plain]

theorem grown_of_plain (value : Toml) (stored : Option Toml) :
    grown name value stored = settle stored value := by
  simp only [grown, plain]

include lower

end

/-- What comes of a name when items are put into a dictionary one after another, each under the name
that its key stands for and in view of what is there: if no other key stands for the name, then only
its own item has a part in it. -/
theorem lookup_foldl_put {stands : String → String} {name : String} (own : stands name = name)
    (becomes : String → Toml → Option Toml → Toml) {items : List (String × Toml)}
    (distinct : (items.map Prod.fst).Nodup)
    (only : ∀ key ∈ items.map Prod.fst, stands key = name → key = name)
    (entries : Dictionary Toml) :
    List.lookup name (items.foldl (fun entries item => Dictionary.put (stands item.1)
        (becomes item.1 item.2 (List.lookup (stands item.1) entries)) entries) entries) =
      ((List.lookup name items).map fun value => becomes name value (List.lookup name entries)).or
        (List.lookup name entries) := by
  induction items generalizing entries with
  | nil => simp
  | cons item items ih =>
      obtain ⟨key, value⟩ := item
      obtain ⟨fresh, distinct⟩ := List.nodup_cons.mp distinct
      have only_rest : ∀ key ∈ items.map Prod.fst, stands key = name → key = name :=
        fun key member => only key (List.mem_cons_of_mem _ member)
      rw [List.foldl_cons, ih distinct only_rest]
      by_cases same : key = name
      · subst same
        have absent : List.lookup key items = none := by
          rw [List.lookup_eq_none_iff]
          rintro ⟨other, content⟩ member
          simp only [bne_iff_ne]
          rintro rfl
          exact fresh (List.mem_map.mpr ⟨(key, content), member, rfl⟩)
        simp [absent, own]
      · have apart : name ≠ stands key := fun stands => same (only key (by simp) stands.symm)
        have away : (name == key) = false := by simpa using Ne.symm same
        rw [Dictionary.lookup_put_of_ne apart, List.lookup_cons, away]

theorem lookup_lay {name : String} (plain : path name = [.entry name])
    (lower : folded name = name) {layer : Layer} (distinct : (layer.map Prod.fst).Nodup)
    (only : ∀ key ∈ layer.map Prod.fst, root key = name → key = name) (entries : Dictionary Toml) :
    List.lookup name (lay entries layer) =
      ((List.lookup name layer).map (settle (List.lookup name entries))).or
        (List.lookup name entries) := by
  have own : root name = name := (root_of_plain plain).trans lower
  simp only [lay, enter_eq, lookup_foldl_put own grown distinct only, grown_of_plain plain]

theorem settleEntries_eq (stored : Dictionary Toml) (entries : List (String × Toml)) :
    settleEntries stored entries = entries.foldl (fun stored item => Dictionary.put (folded item.1)
      (settle (List.lookup (folded item.1) stored) item.2) stored) stored := by
  induction entries generalizing stored with
  | nil => simp [settleEntries]
  | cons entry rest ih => rw [settleEntries, ih, List.foldl_cons]

theorem lookup_settleEntries {name : String} (lower : folded name = name)
    {entries : List (String × Toml)} (distinct : (entries.map Prod.fst).Nodup)
    (only : ∀ key ∈ entries.map Prod.fst, folded key = name → key = name)
    (stored : Dictionary Toml) :
    List.lookup name (settleEntries stored entries) =
      ((List.lookup name entries).map (settle (List.lookup name stored))).or
        (List.lookup name stored) := by
  rw [settleEntries_eq]
  exact lookup_foldl_put lower (fun _ value stored => settle stored value) distinct only stored

end Layer

/-! ## Settings in entries -/

/-- Whether a result is a given value is decided without comparing errors. -/
theorem eq_ok_of_toOption {ε α : Type} {result : Except ε α} {value : α}
    (found : result.toOption = some value) : result = .ok value := by
  cases result with
  | error => cases found
  | ok => exact congrArg Except.ok (Option.some.inj found)

namespace Reading

variable {reading : Reading} {α : Type} {take : Reading → Toml → Option α} {name : String}
  {entries other : Dictionary Toml}

end Reading

theorem Settings.ofToml?_eq_some_iff {reading : Reading} {entries : Dictionary Toml}
    {settings : Settings} :
    Settings.ofToml? reading entries = some settings ↔
      ∃ defaultHandler autoSignIn completionEventName failureTemplate logging,
        reading.field? Reading.text "default_handler" entries = some defaultHandler ∧
        reading.field? Reading.truth "auto_sign_in" entries = some autoSignIn ∧
        reading.field? Reading.text "completion_event_name" entries = some completionEventName ∧
        reading.field? Reading.text "failure_message_template" entries = some failureTemplate ∧
        reading.field? Logging.ofToml? "logging" entries = some logging ∧
        (⟨defaultHandler, autoSignIn.getD standard.autoSignIn,
          completionEventName.getD standard.completionEventName,
          failureTemplate.getD standard.failureTemplate,
          logging.getD standard.logging⟩ : Settings) = settings := by
  simp [Settings.ofToml?, Option.bind_eq_some_iff]

theorem Logging.ofToml?_eq_some_iff {reading : Reading} {value : Toml} {logging : Logging} :
    Logging.ofToml? reading value = some logging ↔
      ∃ entries filter json, reading.record ["filter", "json"] value = some entries ∧
        reading.field? Reading.text "filter" entries = some filter ∧
        reading.field? Reading.truth "json" entries = some json ∧
        (⟨filter.getD standard.filter, json.getD standard.json⟩ : Logging) = logging := by
  simp [Logging.ofToml?, Option.bind_eq_some_iff]

/-! ## Loading -/

namespace Settings

theorem checked_eq_ok_iff {settings checked : Settings} :
    settings.checked = .ok checked ↔ settings = checked ∧ settings.validate = .ok () := by
  unfold Settings.checked
  cases settings.validate <;> simp [Except.map]

/-- The entries that a file alone comes to. -/
def fileEntries (file : SettingsFile) : Except Error (Dictionary Toml) :=
  (fileLayer file).map (Layer.lay [])

theorem load_eq (file : SettingsFile) (start : Option String) (environment : Environment) :
    load file start environment = fileEntries file >>= fun entries =>
      ofEntries .converting (Layer.lay entries (start.elim [] environment.layer)) := by
  unfold load fileEntries
  cases fileLayer file <;> rfl

theorem ofEntries_eq_ok_iff {reading : Reading} {entries : Dictionary Toml} {settings : Settings} :
    ofEntries reading entries = .ok settings ↔
      ofToml? reading entries = some settings ∧ settings.validate = .ok () := by
  unfold ofEntries
  cases ofToml? reading entries with
  | none => simp
  | some held =>
      rw [checked_eq_ok_iff, Option.some.injEq]
      exact and_congr_right fun same => by rw [same]

theorem ofFile_eq_ok_iff {file : SettingsFile} {settings : Settings} :
    ofFile file = .ok settings ↔ ∃ entries, fileEntries file = .ok entries ∧
      ofToml? .converting entries = some settings ∧ settings.validate = .ok () := by
  rw [ofFile, load_eq]
  cases fileEntries file with
  | error error => exact ⟨nofun, fun ⟨_, fails, _⟩ => (nomatch fails)⟩
  | ok entries =>
      refine ofEntries_eq_ok_iff.trans ⟨fun held => ⟨entries, rfl, held⟩, ?_⟩
      rintro ⟨_, ⟨⟩, held⟩
      exact held

end Settings
end SignInFlow
