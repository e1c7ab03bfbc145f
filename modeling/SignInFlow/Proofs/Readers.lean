import SignInFlow.Proofs.DistinctKeys
import SignInFlow.Proofs.Layers

/-!
# The two readers of settings

A document is read for settings by itself, or as a file.  As a file it becomes a layer first: dates
and times take the place of the tables that stand for them, and entries are placed under their keys
as these count.  What a setting is in the document comes through both, so the readers agree on every
document in which the keys that count as a setting are its own name.
-/

namespace SignInFlow

/-! ## Resolved values -/

namespace Toml

variable {entries after : List (String × Toml)}

theorem keys_resolveEntries (resolved : resolveEntries? entries = some after) :
    after.map Prod.fst = entries.map Prod.fst := by
  induction entries generalizing after with
  | nil =>
      rw [resolveEntries?] at resolved
      cases resolved
      rfl
  | cons entry rest ih =>
      rw [resolveEntries?] at resolved
      obtain ⟨content, -, resolved⟩ := Option.bind_eq_some_iff.mp resolved
      obtain ⟨others, further, same⟩ := Option.bind_eq_some_iff.mp resolved
      cases same
      exact congrArg (entry.1 :: ·) (ih further)

/-- Under each key there is, resolved, what was there before. -/
theorem map_lookup_resolveEntries (resolved : resolveEntries? entries = some after)
    (name : String) :
    (List.lookup name entries).map resolve? = (List.lookup name after).map some := by
  induction entries generalizing after with
  | nil =>
      rw [resolveEntries?] at resolved
      cases resolved
      rfl
  | cons entry rest ih =>
      obtain ⟨key, value⟩ := entry
      rw [resolveEntries?] at resolved
      obtain ⟨content, arrived, resolved⟩ := Option.bind_eq_some_iff.mp resolved
      obtain ⟨others, further, same⟩ := Option.bind_eq_some_iff.mp resolved
      cases same
      rw [List.lookup_cons, List.lookup_cons]
      cases name == key with
      | true => exact congrArg some arrived
      | false => exact ih further

theorem lookup_resolveEntries (resolved : resolveEntries? entries = some after) (name : String) :
    List.lookup name after = (List.lookup name entries).bind resolve? := by
  have same := map_lookup_resolveEntries resolved name
  cases stored : List.lookup name entries with
  | none =>
      rw [stored] at same
      exact Option.map_eq_none_iff.mp same.symm
  | some value =>
      rw [stored] at same
      obtain ⟨content, arrives, resolves⟩ := Option.map_eq_some_iff.mp same.symm
      exact arrives.trans resolves

/-- Fields given in their order resolve like the list that gives them. -/
theorem resolveEntries_inOrder {elements resolved : List Toml}
    (arrives : resolveElements? elements = some resolved) (order : List String) :
    resolveEntries? (Reading.inOrder order elements) = some (Reading.inOrder order resolved) := by
  induction order generalizing elements resolved with
  | nil => simp [Reading.inOrder, resolveEntries?]
  | cons name order ih =>
      cases elements with
      | nil =>
          rw [resolveElements?] at arrives
          cases arrives
          simp [Reading.inOrder, resolveEntries?]
      | cons element elements =>
          rw [resolveElements?] at arrives
          obtain ⟨content, arrived, arrives⟩ := Option.bind_eq_some_iff.mp arrives
          obtain ⟨others, further, same⟩ := Option.bind_eq_some_iff.mp arrives
          cases same
          have rest := ih further
          simp only [Reading.inOrder] at rest
          simp only [Reading.inOrder, List.zip_cons_cons, resolveEntries?, arrived, rest]
          rfl

/-- A table resolves to a date or time, or entry by entry. -/
theorem resolve_table {value : Toml} (resolved : (table entries).resolve? = some value) :
    (∃ moment, value = .moment moment) ∨
      ∃ after, resolveEntries? entries = some after ∧ value = .table after := by
  rw [resolve?] at resolved
  split at resolved
  · rename_i content _
    cases content with
    | text written =>
        obtain ⟨moment, -, rfl⟩ := Option.map_eq_some_iff.mp resolved
        exact .inl ⟨moment, rfl⟩
    | integer value => cases resolved
    | number value => cases resolved
    | truth value => cases resolved
    | moment value => cases resolved
    | list elements => cases resolved
    | table entries => cases resolved
  · obtain ⟨after, within, rfl⟩ := Option.map_eq_some_iff.mp resolved
    exact .inr ⟨after, within, rfl⟩

end Toml

namespace Layer

/-- What comes of a value of a file in the settings, where nothing is stored before. -/
def arrive (value : Toml) : Option Toml := value.resolve?.map (settle none)

theorem map_lookup_settle {entries after : List (String × Toml)}
    (resolved : Toml.resolveEntries? entries = some after) (name : String) :
    (List.lookup name after).map (settle none) = (List.lookup name entries).bind arrive := by
  rw [Toml.lookup_resolveEntries resolved, Option.map_bind]
  rfl

theorem settle_none_table (entries : List (String × Toml)) :
    settle none (.table entries) = .table (settleEntries [] entries) := by
  cases entries with
  | nil => simp [settle, settleEntries]
  | cons entry rest => simp [settle]

end Layer

/-! ## Keys that count as names -/

/-- Whether those of some keys that count as one of some names are that name. -/
def spelledOut (counts : String → String) (names keys : List String) : Bool :=
  keys.all fun key => counts key ∉ names || key = counts key

theorem eq_of_spelledOut {counts : String → String} {names keys : List String}
    (spelled : spelledOut counts names keys = true) {key name : String} (member : key ∈ keys)
    (named : name ∈ names) (same : counts key = name) : key = name := by
  have own := List.all_eq_true.mp spelled key member
  simpa [same, named] using own

namespace Layer

variable {names : List String} {entries : List (String × Toml)} {name : String}

theorem lookup_settled (distinct : (entries.map Prod.fst).Nodup)
    (spelled : spelledOut folded names (entries.map Prod.fst) = true) (named : name ∈ names)
    (lower : folded name = name) :
    List.lookup name (settleEntries [] entries) =
      (List.lookup name entries).map (settle none) := by
  rw [lookup_settleEntries lower distinct fun key member => eq_of_spelledOut spelled member named]
  simp

theorem lookup_laid (distinct : (entries.map Prod.fst).Nodup)
    (spelled : spelledOut root names (entries.map Prod.fst) = true) (named : name ∈ names)
    (plain : path name = [.entry name]) (lower : folded name = name) :
    List.lookup name (lay [] entries) = (List.lookup name entries).map (settle none) := by
  rw [lookup_lay plain lower distinct fun key member => eq_of_spelledOut spelled member named]
  simp

end Layer

/-! ## Settings that come through -/

/-- Taken exactly, values are of one kind, and they are taken alike when they are converted. -/
structure Reading.Takes {α : Type} (take : Reading → Toml → Option α) (kind : α → Toml) : Prop where
  exact : ∀ {value : Toml} {taken : α}, take .exact value = some taken → value = kind taken
  converting : ∀ taken, take .converting (kind taken) = some taken
  resolve : ∀ taken, (kind taken).resolve? = some (kind taken)
  settle : ∀ taken, Layer.settle none (kind taken) = kind taken

namespace Reading

theorem takes_text : Takes Reading.text Toml.text where
  exact {value taken} found := by
    cases value <;> cases found
    rfl
  converting taken := rfl
  resolve taken := by simp [Toml.resolve?]
  settle taken := by simp [Layer.settle]

theorem takes_truth : Takes Reading.truth Toml.truth where
  exact {value taken} found := by
    cases value <;> cases found
    rfl
  converting taken := rfl
  resolve taken := by simp [Toml.resolve?]
  settle taken := by simp [Layer.settle]

variable {α : Type} {take : Reading → Toml → Option α} {kind : α → Toml} {name : String}
  {entries other : Dictionary Toml} {taken : Option α}

/-- A field is taken alike from entries among which its value comes as it is. -/
theorem Takes.field? (takes : Takes take kind) {comes : Toml → Option Toml}
    (same : ∀ taken, comes (kind taken) = some (kind taken))
    (carried : List.lookup name other = (List.lookup name entries).bind comes)
    (found : Reading.exact.field? take name entries = some taken) :
    Reading.converting.field? take name other = some taken := by
  unfold Reading.field? at found ⊢
  rw [carried]
  cases stored : List.lookup name entries with
  | none =>
      rw [stored] at found
      exact found
  | some value =>
      rw [stored] at found
      obtain ⟨content, isContent, rfl⟩ := Option.map_eq_some_iff.mp found
      obtain rfl := takes.exact isContent
      simp [same, takes.converting]

theorem Takes.arrive (takes : Takes take kind) (taken : α) :
    Layer.arrive (kind taken) = some (kind taken) := by
  rw [Layer.arrive, takes.resolve, Option.map_some, takes.settle]

end Reading

/-- The names of the logging settings. -/
def Logging.names : List String := ["filter", "json"]

theorem Logging.folded_of_mem_names {name : String} (named : name ∈ names) :
    Layer.folded name = name := by
  have all : names.all (fun name => Layer.folded name = name) = true := by decide +kernel
  simpa using List.all_eq_true.mp all name named

/-- Logging settings come through, unless it is a date or time that they are read from. -/
theorem Logging.ofToml?_settle {value resolved : Toml} {logging : Logging}
    (distinct : value.Distinct) (resolves : value.resolve? = some resolved)
    (spelled : spelledOut Layer.folded names (value.entries.map Prod.fst) = true)
    (undated : ∀ moment, resolved ≠ .moment moment)
    (taken : Logging.ofToml? .exact value = some logging) :
    Logging.ofToml? .converting (Layer.settle none resolved) = some logging := by
  obtain ⟨fields, filter, json, record, filterIs, jsonIs, rfl⟩ := ofToml?_eq_some_iff.mp taken
  rw [ofToml?_eq_some_iff]
  have text := Reading.takes_text
  have truth := Reading.takes_truth
  cases value with
  | text value => cases record
  | integer value => cases record
  | number value => cases record
  | truth value => cases record
  | moment value =>
      simp only [Toml.resolve?, Option.some.injEq] at resolves
      exact absurd resolves.symm (undated value)
  | list elements =>
      cases record
      rw [Toml.resolve?] at resolves
      obtain ⟨after, within, rfl⟩ := Option.map_eq_some_iff.mp resolves
      have carried := Toml.lookup_resolveEntries (Toml.resolveEntries_inOrder within names)
      refine ⟨Reading.inOrder names after, filter, json, ?_, ?_, ?_, rfl⟩
      · simp [Layer.settle, Reading.converting, names]
      · exact text.field? text.resolve (carried _) filterIs
      · exact truth.field? truth.resolve (carried _) jsonIs
  | table entries =>
      cases record
      rcases Toml.resolve_table resolves with ⟨moment, dated⟩ | ⟨after, within, rfl⟩
      · exact absurd dated (undated moment)
      · have carried : ∀ name ∈ names, List.lookup name (Layer.settleEntries [] after) =
            (List.lookup name fields).bind Layer.arrive := by
          intro name named
          rw [← Layer.map_lookup_settle within]
          have keys := Toml.keys_resolveEntries within
          exact Layer.lookup_settled (keys ▸ distinct.once) (keys ▸ spelled) named
            (folded_of_mem_names named)
        rw [Layer.settle_none_table]
        exact ⟨Layer.settleEntries [] after, filter, json, rfl,
          text.field? text.arrive (carried _ (by simp [names])) filterIs,
          truth.field? truth.arrive (carried _ (by simp [names])) jsonIs, rfl⟩

namespace Settings

/-- The names of the settings. -/
def names : List String :=
  ["default_handler", "auto_sign_in", "completion_event_name", "failure_message_template",
    "logging"]

theorem plain_of_mem_names {name : String} (named : name ∈ names) :
    Layer.path name = [.entry name] ∧ Layer.folded name = name := by
  have all : names.all (fun name => Layer.path name = [.entry name] && Layer.folded name = name) =
      true := by decide +kernel
  simpa using List.all_eq_true.mp all name named

/-- Whether those keys of a document that count, in a file, as a setting or as a logging setting are
the name of that setting. -/
def spellsOut (entries : List (String × Toml)) : Bool :=
  spelledOut Layer.root names (entries.map Prod.fst) &&
    spelledOut Layer.folded Logging.names
      (((List.lookup "logging" entries).elim [] Toml.entries).map Prod.fst)

section

variable {entries layer : List (String × Toml)} {settings : Settings}
  (distinct : Toml.Distinct (.table entries))
  (resolved : Toml.resolveEntries? entries = some layer) (spelled : spellsOut entries = true)
include distinct resolved spelled

theorem lookup_laid {name : String} (named : name ∈ names) :
    List.lookup name (Layer.lay [] layer) = (List.lookup name layer).map (Layer.settle none) := by
  obtain ⟨plain, lower⟩ := plain_of_mem_names named
  have keys := Toml.keys_resolveEntries resolved
  exact Layer.lookup_laid (keys ▸ distinct.once) (keys ▸ (Bool.and_eq_true_iff.mp spelled).1) named
    plain lower

/-- Settings come through, unless logging settings are read from a date or time. -/
theorem ofToml?_lay (undated : ∀ moment, List.lookup "logging" layer ≠ some (.moment moment))
    (taken : ofToml? .exact entries = some settings) :
    ofToml? .converting (Layer.lay [] layer) = some settings := by
  obtain ⟨handler, auto, event, template, logging, handlerIs, autoIs, eventIs, templateIs,
    loggingIs, rfl⟩ := ofToml?_eq_some_iff.mp taken
  have carried : ∀ name ∈ names,
      List.lookup name (Layer.lay [] layer) = (List.lookup name entries).bind Layer.arrive := by
    intro name named
    rw [lookup_laid distinct resolved spelled named, Layer.map_lookup_settle resolved]
  have text := Reading.takes_text
  have truth := Reading.takes_truth
  rw [ofToml?_eq_some_iff]
  refine ⟨handler, auto, event, template, logging,
    text.field? text.arrive (carried _ (by simp [names])) handlerIs,
    truth.field? truth.arrive (carried _ (by simp [names])) autoIs,
    text.field? text.arrive (carried _ (by simp [names])) eventIs,
    text.field? text.arrive (carried _ (by simp [names])) templateIs, ?_, rfl⟩
  have comes := Toml.map_lookup_resolveEntries resolved "logging"
  have spelledLogging := (Bool.and_eq_true_iff.mp spelled).2
  unfold Reading.field? at loggingIs ⊢
  rw [lookup_laid distinct resolved spelled (by simp [names])]
  cases stored : List.lookup "logging" entries with
  | none =>
      rw [stored] at loggingIs comes
      rw [Option.map_eq_none_iff.mp comes.symm]
      exact loggingIs
  | some value =>
      rw [stored] at loggingIs comes spelledLogging
      obtain ⟨arrived, arrives, resolves⟩ := Option.map_eq_some_iff.mp comes.symm
      obtain ⟨held, isHeld, rfl⟩ := Option.map_eq_some_iff.mp loggingIs
      have settles := Logging.ofToml?_settle (distinct.of_lookup stored) resolves.symm
        spelledLogging (fun moment dated => undated moment (dated ▸ arrives)) isHeld
      simp [arrives, settles]

/-- A date or time is not read as logging settings once it is laid. -/
theorem undated_of_lay (taken : ofToml? .converting (Layer.lay [] layer) = some settings) :
    ∀ moment, List.lookup "logging" layer ≠ some (.moment moment) := by
  intro moment dated
  obtain ⟨-, -, -, -, logging, -, -, -, -, loggingIs, -⟩ := ofToml?_eq_some_iff.mp taken
  have laid : List.lookup "logging" (Layer.lay [] layer) = some (.moment moment) := by
    rw [lookup_laid distinct resolved spelled (by simp [names]), dated, Option.map_some]
    simp [Layer.settle]
  rw [Reading.field?, laid] at loggingIs
  cases loggingIs

end

theorem layerOf_eq_ok_iff {entries : List (String × Toml)} {layer : Layer} :
    layerOf entries = .ok layer ↔ (Toml.table entries).resolve? = some (.table layer) := by
  unfold layerOf
  cases (Toml.table entries).resolve? with
  | none => simp
  | some value => cases value <;> simp

theorem entriesOf_eq_ok_iff {text : String} {entries : List (String × Toml)} :
    entriesOf text = .ok entries ↔ Toml.parse? text = some entries := by
  unfold entriesOf
  cases Toml.parse? text <;> simp

/-- A file is accepted with the settings that its layer holds once it is laid over nothing. -/
theorem ofFile_holding_iff {text : String} {entries : List (String × Toml)} {settings : Settings}
    (document : entriesOf text = .ok entries) :
    ofFile (.holding text) = .ok settings ↔ ∃ layer, layerOf entries = .ok layer ∧
      ofToml? .converting (Layer.lay [] layer) = some settings ∧ settings.validate = .ok () := by
  have held : fileEntries (.holding text) = (layerOf entries).map (Layer.lay []) := by
    simp only [fileEntries, fileLayer, document]
    rfl
  rw [ofFile_eq_ok_iff, held]
  cases layerOf entries <;> simp [Except.map]

theorem resolveEntries_of_layerOf {entries : List (String × Toml)} {layer : Layer}
    (made : layerOf entries = .ok layer) : Toml.resolveEntries? entries = some layer := by
  rcases Toml.resolve_table (layerOf_eq_ok_iff.mp made) with ⟨moment, dated⟩ | ⟨after, within, same⟩
  · cases dated
  · cases same
    exact within

/-- Where the keys that count as settings are spelled out, a document that is accepted by itself is
accepted as a file just if it makes up a layer in which the logging settings are no date or time;
and as a file it never gives other settings. -/
theorem readers_agree {text : String} {entries : List (String × Toml)} {settings : Settings}
    (document : entriesOf text = .ok entries) (spelled : spellsOut entries = true)
    (accepted : ofDocument text = .ok settings) :
    (ofFile (.holding text) = .ok settings ↔ ∃ layer, layerOf entries = .ok layer ∧
      ∀ moment, List.lookup "logging" layer ≠ some (.moment moment)) ∧
    ∀ other, ofFile (.holding text) = .ok other → other = settings := by
  have distinct := Toml.distinct_parse (entriesOf_eq_ok_iff.mp document)
  rw [ofDocument, document] at accepted
  obtain ⟨taken, valid⟩ := ofEntries_eq_ok_iff.mp accepted
  have agrees : ∀ layer, layerOf entries = .ok layer →
      (∀ moment, List.lookup "logging" layer ≠ some (.moment moment)) →
      ofToml? .converting (Layer.lay [] layer) = some settings := by
    intro layer made undated
    exact ofToml?_lay distinct (resolveEntries_of_layerOf made) spelled undated taken
  have undated : ∀ layer other, layerOf entries = .ok layer →
      ofToml? .converting (Layer.lay [] layer) = some other →
      ∀ moment, List.lookup "logging" layer ≠ some (.moment moment) := by
    intro layer other made laid
    exact undated_of_lay distinct (resolveEntries_of_layerOf made) spelled laid
  refine ⟨?_, fun other found => ?_⟩
  · rw [ofFile_holding_iff document]
    constructor
    · rintro ⟨layer, made, laid, -⟩
      exact ⟨layer, made, undated layer settings made laid⟩
    · rintro ⟨layer, made, plain⟩
      exact ⟨layer, made, agrees layer made plain, valid⟩
  · obtain ⟨layer, made, laid, -⟩ := (ofFile_holding_iff document).mp found
    have same := agrees layer made (undated layer other made laid)
    exact Option.some.inj (laid.symm.trans same)

/-- A document that sets a handler and, in a table, a log filter. -/
def plainDocument : String := "default_handler = 'graph'\n[logging]\nfilter = 'debug'"

/-- A document with plain keys gives the same settings by itself and as a file. -/
theorem plain_document_agrees :
    let settings := { standard with defaultHandler := some "graph", logging := ⟨"debug", false⟩ }
    ofDocument plainDocument = .ok settings ∧ ofFile (.holding plainDocument) = .ok settings := by
  intro settings
  have sure : (entriesOf plainDocument).toOption.any (fun entries => spellsOut entries &&
      (layerOf entries).toOption.any fun layer =>
        !((List.lookup "logging" layer).elim [] Toml.entries).isEmpty) = true := by
    decide +kernel
  obtain ⟨entries, document, sure⟩ := (Option.any_eq_true _ _).mp sure
  obtain ⟨spelled, sure⟩ := Bool.and_eq_true_iff.mp sure
  obtain ⟨layer, made, filled⟩ := (Option.any_eq_true _ _).mp sure
  have undated : ∀ moment, List.lookup "logging" layer ≠ some (.moment moment) := by
    intro moment dated
    simp [dated, Toml.entries] at filled
  have accepted : ofDocument plainDocument = .ok settings :=
    eq_ok_of_toOption (by decide +kernel)
  have agree := readers_agree (eq_ok_of_toOption document) spelled accepted
  exact ⟨accepted, agree.1.mpr ⟨layer, eq_ok_of_toOption made, undated⟩⟩

/-- A key in other letters sets the handler in a file alone, and a date for the logging settings or
a reserved key without a date is refused in a file alone. -/
theorem readers_differ :
    (ofDocument "Default_Handler = 'graph'" = .ok standard ∧
      ofFile (.holding "Default_Handler = 'graph'") =
        .ok { standard with defaultHandler := some "graph" }) ∧
    (ofDocument "logging = 2024-03-01" = .ok standard ∧
      (ofFile (.holding "logging = 2024-03-01")).isOk = false) ∧
    ofDocument "[owner]\n'$__toml_private_datetime' = 'soon'" = .ok standard ∧
      (ofFile (.holding "[owner]\n'$__toml_private_datetime' = 'soon'")).isOk = false := by
  refine ⟨⟨eq_ok_of_toOption ?_, eq_ok_of_toOption ?_⟩, ⟨eq_ok_of_toOption ?_, ?_⟩,
    eq_ok_of_toOption ?_, ?_⟩ <;> decide +kernel

end Settings
end SignInFlow
