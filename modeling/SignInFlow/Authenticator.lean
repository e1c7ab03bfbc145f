import SignInFlow.Settings
import SignInFlow.Turn.Scope

/-!
# The authenticator

The settings, the dispatcher of handlers, the start policy and the callbacks, wired together.  The
wiring is checked once, in a fixed order, before anything runs.
-/

namespace SignInFlow

/-- What runs the sign-in flows of all users. -/
structure Authenticator (σ : Type) where
  /-- The settings. -/
  settings : Settings
  /-- The handler to use when none is asked for. -/
  defaultHandler : String
  /-- What calls the handlers. -/
  dispatcher : Dispatcher σ
  /-- Whether a turn without an active flow starts one. -/
  policy : StartPolicy σ
  /-- What hears of successes. -/
  onSuccess : Option (Turn → Success → HostCall σ Unit)
  /-- What hears of failures. -/
  onFailure : Option (Turn → Failure → HostCall σ Unit)

/-- Which outcomes a callback hears of. -/
inductive Outcome where
  | success
  | failure
deriving DecidableEq, Repr

namespace Outcome

/-- The name of the callback for an outcome. -/
def callbackName : Outcome → String
  | success => "success handler"
  | failure => "failure handler"

end Outcome

/-- The parts of an authenticator, as far as they are given. -/
structure Wiring (σ : Type) where
  /-- The settings. -/
  settings : Settings
  /-- What calls the handlers. -/
  dispatcher : Option (Dispatcher σ) := none
  /-- Whether a replay queue is connected. -/
  queueConnected : Bool := false
  /-- The start policy, in place of the one that the settings say. -/
  policy : Option (StartPolicy σ) := none
  /-- What hears of successes. -/
  onSuccess : Option (Turn → Success → HostCall σ Unit) := none
  /-- What hears of failures. -/
  onFailure : Option (Turn → Failure → HostCall σ Unit) := none
  /-- The callbacks that were given more than once, in order. -/
  repeated : List Outcome := []

namespace Wiring

variable {σ : Type}

/-- Gives the dispatcher; the last one given counts. -/
def withDispatcher (wiring : Wiring σ) (dispatcher : Dispatcher σ) : Wiring σ :=
  { wiring with dispatcher := some dispatcher }

/-- Connects the replay queue. -/
def withQueue (wiring : Wiring σ) : Wiring σ := { wiring with queueConnected := true }

/-- Gives the start policy; the last one given counts. -/
def withPolicy (wiring : Wiring σ) (policy : StartPolicy σ) : Wiring σ :=
  { wiring with policy := some policy }

/-- Gives the callback for successes, once. -/
def withSuccess (wiring : Wiring σ) (callback : Turn → Success → HostCall σ Unit) : Wiring σ :=
  { wiring with
    onSuccess := some callback
    repeated := if wiring.onSuccess.isSome then wiring.repeated ++ [.success] else wiring.repeated }

/-- Gives the callback for failures, once. -/
def withFailure (wiring : Wiring σ) (callback : Turn → Failure → HostCall σ Unit) : Wiring σ :=
  { wiring with
    onFailure := some callback
    repeated := if wiring.onFailure.isSome then wiring.repeated ++ [.failure] else wiring.repeated }

/-- Checks the wiring and makes the authenticator: the settings hold, no callback is repeated, a
dispatcher and a queue are given, and the default handler exists. -/
def build (wiring : Wiring σ) : Except Error (Authenticator σ) := do
  wiring.settings.validate
  match wiring.repeated with
  | outcome :: _ => throw (.configuration (outcome.callbackName ++ " registered more than once"))
  | [] => pure ()
  let dispatcher ← match wiring.dispatcher with
    | some dispatcher => pure dispatcher
    | none => throw (.missingDependency "handler dispatcher")
  if !wiring.queueConnected then throw (.missingDependency "continuation queue")
  let defaultHandler := wiring.settings.defaultHandler.getD dispatcher.defaultName
  if !dispatcher.contains defaultHandler then throw (.handlerNotFound defaultHandler)
  pure {
    settings := wiring.settings
    defaultHandler := defaultHandler
    dispatcher := dispatcher
    policy := wiring.policy.getD (.ofBool wiring.settings.autoSignIn)
    onSuccess := wiring.onSuccess
    onFailure := wiring.onFailure }

end Wiring

namespace Authenticator

variable {σ : Type}

/-- The handler to start a flow with: the one asked for, or else the default, if it exists. -/
def requestedHandler (auth : Authenticator σ) (requested : Option String) : Except Error String :=
  let name := requested.getD auth.defaultHandler
  if auth.dispatcher.contains name then .ok name else .error (.handlerNotFound name)

/-- The handlers that a sign-out or reset is for: the one asked for, or else all. -/
def targetHandlers (auth : Authenticator σ) : Option String → Except Error (List String)
  | some name =>
      if auth.dispatcher.contains name then .ok [name] else .error (.handlerNotFound name)
  | none => .ok auth.dispatcher.names

/-- Whether an activity is the completion event. -/
def isCompletionEvent (auth : Authenticator σ) (activity : Activity) : Bool :=
  activity.isEventNamed auth.settings.completionEventName

/-- Calls the dispatcher.  A completion without a token counts as a failure. -/
def invoke (auth : Authenticator σ) (turn : Turn) (request : Request) : TurnAction σ Response := do
  let response ← TurnAction.ofHost (auth.dispatcher.signIn turn request)
  if response.status = .complete ∧ response.token = none then
    pure (.failed .other "handler completed without a token")
  else pure response

/-- Tells of a success, if anything hears of it. -/
def reportSuccess (auth : Authenticator σ) (turn : Turn) (success : Success) : TurnAction σ Unit :=
  match auth.onSuccess with
  | some callback => TurnAction.ofHost (callback turn success)
  | none => pure ()

/-- Tells of a failure: to the callback, or else to the user in the failure message. -/
def reportFailure (auth : Authenticator σ) (services : Services σ) (turn : Turn)
    (failure : Failure) : TurnAction σ Unit :=
  match auth.onFailure with
  | some callback => TurnAction.ofHost (callback turn failure)
  | none =>
      TurnAction.sendText services turn
        (auth.settings.failureMessage failure.handler failure.response.causeOrOther.name)

/-- Keeps the token of a response for the user of the turn. -/
def cacheToken (turn : Turn) (handler : String) (response : Response) : TurnAction σ String := do
  let token := response.token.getD ""
  TurnAction.ofAction (modify fun world =>
    { world with tokens := world.tokens.insert turn.user handler token })
  pure token

/-- The token that is kept for the user of a turn and a handler. -/
def cachedToken (world : World σ) (turn : Turn) (handler : String) : Option String :=
  world.tokens.get? turn.user handler

/-- Queues an activity for replay and counts it. -/
def submit (services : Services σ) (activity : Activity) (handler : String) :
    TurnAction σ Unit := do
  TurnAction.ofAction (Action.submit services activity)
  TurnAction.count (.submitted handler)

/-- Queues a completion event for replay. -/
def redeliver (auth : Authenticator σ) (services : Services σ) (event : Completion) :
    TurnAction σ Unit :=
  submit services (event.toActivity auth.settings.completionEventName) event.handler

/-- The handler of the flow in progress. -/
def activeFlow : TurnAction σ (Option String) := do pure (← TurnAction.flow).handler

end Authenticator
end SignInFlow
