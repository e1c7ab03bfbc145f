import SignInFlow.Error
import SignInFlow.Text.Blank
import SignInFlow.Text.Substitution

/-!
# Settings

The settings of the sign-in flow, their defaults, what they must satisfy, and the message that a
failed flow sends when nobody is registered to hear of it.
-/

namespace SignInFlow

/-- What is logged, and how. -/
structure Logging where
  /-- The directive that selects what is logged. -/
  filter : String
  /-- Whether log lines are JSON. -/
  json : Bool
deriving DecidableEq, Repr

/-- The settings of the sign-in flow. -/
structure Settings where
  /-- The handler to use when none is asked for. -/
  defaultHandler : Option String
  /-- Whether every turn without an active flow starts one. -/
  autoSignIn : Bool
  /-- The name of the completion event. -/
  completionEventName : String
  /-- The message that a failed flow sends, with places for the handler and the cause. -/
  failureTemplate : String
  /-- What is logged. -/
  logging : Logging
deriving DecidableEq, Repr

namespace Settings

/-- The name of the completion event, unless another is set. -/
def completionEventDefault : String := "application/vnd.synapsed.signin.completion"

/-- The usual prefix of environment variables. -/
def environmentPrefix : String := "SYNAPSED_SIGNIN"

/-- The place of the handler in the failure template. -/
def handlerPlace : String := "\x7bhandler\x7d"

/-- The place of the cause in the failure template. -/
def causePlace : String := "\x7bcause\x7d"

/-- The failure template, unless another is set. -/
def failureTemplateDefault : String :=
  "Sign in for '" ++ handlerPlace ++ "' completed without a token. Status=" ++ causePlace

end Settings

namespace Logging

/-- The default logging. -/
def standard : Logging := ⟨"info", false⟩

/-- The logging settings that a value holds, over the defaults. -/
def ofJson (value : Json) : Decoded Logging := do
  let record ← value.record "logging settings" ["filter", "json"]
  pure ⟨(← record.present Json.text "filter").getD standard.filter,
    (← record.present Json.truth "json").getD standard.json⟩

end Logging

namespace Settings

/-- The default settings. -/
def standard : Settings where
  defaultHandler := none
  autoSignIn := false
  completionEventName := completionEventDefault
  failureTemplate := failureTemplateDefault
  logging := .standard

/-- The settings that a value holds, over the defaults. -/
def ofJson (value : Json) : Decoded Settings := do
  let record ← value.record "settings"
    ["default_handler", "auto_sign_in", "completion_event_name", "failure_message_template",
      "logging"]
  pure {
    defaultHandler := ← record.optional Json.text "default_handler"
    autoSignIn := (← record.present Json.truth "auto_sign_in").getD standard.autoSignIn
    completionEventName :=
      (← record.present Json.text "completion_event_name").getD standard.completionEventName
    failureTemplate :=
      (← record.present Json.text "failure_message_template").getD standard.failureTemplate
    logging := (← record.present Logging.ofJson "logging").getD standard.logging }

/-- The settings as an object that lists every field. -/
def toJson (settings : Settings) : Json :=
  .obj [
    ("auto_sign_in", .bool settings.autoSignIn),
    ("completion_event_name", .str settings.completionEventName),
    ("default_handler", (settings.defaultHandler.map .str).getD .null),
    ("failure_message_template", .str settings.failureTemplate),
    ("logging", .obj [
      ("filter", .str settings.logging.filter),
      ("json", .bool settings.logging.json)])]

/-- The first requirement that the settings do not meet. -/
def fault (settings : Settings) : Option String :=
  if blankText settings.completionEventName then
    some "completion_event_name must not be empty"
  else if !occursIn handlerPlace.toList settings.failureTemplate.toList then
    some ("failure_message_template must contain '" ++ handlerPlace ++ "'")
  else if settings.defaultHandler.any blankText then
    some "default_handler must not be blank"
  else none

/-- Checks the requirements. -/
def validate (settings : Settings) : Except Error Unit :=
  match settings.fault with
  | some reason => .error (.configuration reason)
  | none => .ok ()

/-- The message of a failed flow: the handler is put into the template first, then the cause into
the result. -/
def failureMessage (settings : Settings) (handler cause : String) : String :=
  substitute causePlace cause (substitute handlerPlace handler settings.failureTemplate)

end Settings
end SignInFlow
