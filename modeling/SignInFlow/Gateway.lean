import SignInFlow.Authenticator.Explicit
import SignInFlow.Authenticator.Gate
import SignInFlow.Authenticator.SignOut

/-!
# The gateway

The gateway runs a whole turn: it loads the user's state, takes replayed completion events to their
report and everything else through the gate, hands what passes to the application, and saves the
state.  A completion event that comes from the channel is dropped.
-/

namespace SignInFlow

/-- An authenticator in front of an application. -/
structure Gateway (σ : Type) where
  /-- What signs users in. -/
  auth : Authenticator σ
  /-- The application behind it. -/
  application : Turn → TurnAction σ Unit
  /-- The handler to ask for, in place of the default. -/
  handler : Option String

namespace Gateway

variable {σ : Type}

/-- The part of a turn between loading and saving the user's state. -/
def route (gateway : Gateway σ) (services : Services σ) (turn : Turn) : TurnAction σ Unit := do
  if gateway.auth.isCompletionEvent turn.activity then
    if turn.redelivered then
      gateway.auth.handleCompletion services turn
      TurnAction.save services
  else
    if ← gateway.auth.startOrContinue services turn gateway.handler then
      gateway.application turn
    TurnAction.save services

/-- Runs a turn from its beginning to its end. -/
def process (gateway : Gateway σ) (services : Services σ) (turn : Turn) (cancelled : Bool) :
    Action σ Unit := do
  let state ← UserState.load services turn.activity
  (gateway.route services turn).run state cancelled

end Gateway
end SignInFlow
