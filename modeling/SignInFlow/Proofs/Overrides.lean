import SignInFlow.Proofs.Layers
import SignInFlow.Proofs.Variables

/-!
# Settings overridden by environment variables

A variable touches one entry of the settings, and with it one setting.  The setting is the text that
the variable hands on; the others stay as the file has them, but for one that a file gives in the
same list.
-/

namespace SignInFlow

/-! ## Names in lower case -/

namespace Settings

/-- A setting that is a text. -/
inductive TextField where
  | defaultHandler
  | completionEventName
  | failureTemplate
  | logFilter
deriving DecidableEq

namespace TextField

/-- The key of a setting. -/
def key : TextField → String
  | defaultHandler => "default_handler"
  | completionEventName => "completion_event_name"
  | failureTemplate => "failure_message_template"
  | logFilter => "logging.filter"

/-- The settings with another text for one of them. -/
def put (settings : Settings) (text : String) : TextField → Settings
  | defaultHandler => { settings with defaultHandler := some text }
  | completionEventName => { settings with completionEventName := text }
  | failureTemplate => { settings with failureTemplate := text }
  | logFilter => { settings with logging := { settings.logging with filter := text } }

end TextField

/-! ## A variable laid over entries -/

section

variable {entries : Dictionary Toml} {settings : Settings}
  (holds : ofToml? .converting entries = some settings) (text : String)
include holds

end

/-! ## Loading with a variable -/

end Settings
end SignInFlow
