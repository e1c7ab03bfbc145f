import SignInFlow.Settings.Environment
import SignInFlow.Settings.Reading
import SignInFlow.Toml.Reader
import SignInFlow.Toml.StandIn

/-!
# Loading settings

Settings are read from a document of their own, or from a file with environment variables laid over
it. However they are loaded, they have to meet the requirements.
-/

namespace SignInFlow

/-- The file that settings are loaded from. -/
inductive SettingsFile where
  /-- No file is wanted. -/
  | unused
  /-- There is no such file. -/
  | missing
  /-- The file holds a text. -/
  | holding (text : String)
deriving DecidableEq, Repr

namespace Settings

/-- The settings, if they meet the requirements. -/
def checked (settings : Settings) : Except Error Settings :=
  settings.validate.map fun _ => settings

/-- The entries of a document. -/
def entriesOf (text : String) : Except Error (List (String × Toml)) :=
  match Toml.parse? text with
  | some entries => .ok entries
  | none => .error (.configuration "not a TOML document")

/-- The settings that some entries hold. -/
def ofEntries (reading : Reading) (entries : Dictionary Toml) : Except Error Settings :=
  match Settings.ofToml? reading entries with
  | some settings => settings.checked
  | none => .error (.configuration "a setting has a value of another kind")

/-- The settings of a document of their own. -/
def ofDocument (text : String) : Except Error Settings := do
  ofEntries .exact (← entriesOf text)

/-- The layer that some entries are, if they make up a table. -/
def layerOf (entries : List (String × Toml)) : Except Error Layer :=
  match (Toml.table entries).resolve? with
  | some (.table entries) => .ok entries
  | _ => .error (.configuration "not a table of settings")

/-- The layer that a file is. -/
def fileLayer : SettingsFile → Except Error Layer
  | .unused => .ok []
  | .missing => .error (.configuration "no such file")
  | .holding text => do layerOf (← entriesOf text)

/-- The settings of a file, with the environment variables that count under a prefix laid over it,
if a prefix is given. -/
def load (file : SettingsFile) (start : Option String) (environment : Environment) :
    Except Error Settings := do
  let base ← fileLayer file
  let entries := Layer.lay (Layer.lay [] base) (start.elim [] environment.layer)
  ofEntries .converting entries

/-- The settings of a file alone. -/
def ofFile (file : SettingsFile) : Except Error Settings := load file none []

end Settings
end SignInFlow
