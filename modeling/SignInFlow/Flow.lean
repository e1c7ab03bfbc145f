import SignInFlow.Completion
import SignInFlow.UserState

/-!
# The flow of a user

At most one sign-in flow is active for a user.  It is kept in two properties of the user's state:
the handler that runs it, and what is banked until it concludes; the second counts only beside the
first.
-/

namespace SignInFlow

/-- The sign-in flow of a user. -/
inductive Flow where
  /-- No flow is in progress. -/
  | idle
  /-- A handler runs a flow, with something banked. -/
  | active (handler : String) (banked : Option Banked)
deriving Repr, BEq

namespace Flow

/-- The property that holds the active handler. -/
def handlerKey : String := "active-flow"

/-- The property that holds what is banked. -/
def bankedKey : String := "continuation-activity"

/-- The handler of the flow in progress. -/
def handler : Flow → Option String
  | idle => none
  | active handler _ => some handler

/-- What is banked. -/
def banked : Flow → Option Banked
  | idle => none
  | active _ banked => banked

/-- Whether a flow is in progress. -/
def isActive : Flow → Bool
  | idle => false
  | active _ _ => true

/-- The exchange parameters to forward with every request. -/
def exchange (flow : Flow) : Option Exchange :=
  match flow.banked with
  | some (.completion event) => event.exchange
  | _ => none

/-- The flow that the properties of a user tell of. -/
def load (state : UserState) : Except Error Flow := do
  match ← state.read Json.text handlerKey with
  | none => pure idle
  | some handler => pure (active handler (← state.read Banked.ofJson bankedKey))

/-- Writes the flow into the properties of a user. -/
def store (flow : Flow) (state : UserState) : UserState :=
  match flow with
  | idle => (state.remove handlerKey).remove bankedKey
  | active handler (some banked) =>
      (state.set handlerKey (.str handler)).set bankedKey banked.toJson
  | active handler none => (state.set handlerKey (.str handler)).remove bankedKey

end Flow
end SignInFlow
