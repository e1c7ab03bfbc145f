import SignInFlow.Flow

/-!
# Within a turn

During a turn an operation works on the world, on the user's state as the turn has loaded it, and on
the cancellation of the turn, which is never taken back.
-/

namespace SignInFlow

/-- What an operation within a turn works on. -/
structure Scope (σ : Type) where
  /-- What lasts beyond the turn. -/
  world : World σ
  /-- The user's state as the turn sees it. -/
  state : UserState
  /-- Whether the turn is cancelled. -/
  cancelled : Bool

/-- An effect within a turn that may fail. -/
abbrev TurnAction (σ α : Type) := EStateM Error (Scope σ) α

namespace TurnAction

variable {σ α : Type}

/-- An effect on the world alone. -/
def ofAction (action : Action σ α) : TurnAction σ α := fun scope =>
  match action scope.world with
  | .ok value world => .ok value { scope with world := world }
  | .error error world => .error error { scope with world := world }

/-- A call of the host, which may cancel the turn. -/
def ofHost (call : HostCall σ α) : TurnAction σ α := fun scope =>
  let leave (visit : Visit σ) : Scope σ :=
    { scope with
      world := { scope.world with host := visit.host }
      cancelled := scope.cancelled || visit.cancelled }
  match call ⟨scope.world.host, scope.cancelled⟩ with
  | .ok value visit => .ok value (leave visit)
  | .error error visit => .error error (leave visit)

/-- Fails once the turn is cancelled. -/
def ensureNotCancelled : TurnAction σ Unit := do
  if (← get).cancelled then throw .cancelled

/-- The user's flow as the turn sees it. -/
def flow : TurnAction σ Flow := do
  MonadExcept.ofExcept (Flow.load (← get).state)

/-- Changes the user's state in memory. -/
def modifyState (change : UserState → UserState) : TurnAction σ Unit :=
  modify fun scope => { scope with state := change scope.state }

/-- Writes the user's state back. -/
def save (services : Services σ) : TurnAction σ Unit := do
  let saved ← ofAction ((← get).state.save services)
  modifyState fun _ => saved

/-- Stores a flow in the user's state and writes it back. -/
def persist (services : Services σ) (flow : Flow) : TurnAction σ Unit := do
  modifyState flow.store
  save services

/-- Counts one event. -/
def count (metric : Metric) : TurnAction σ Unit := ofAction (Action.count metric)

/-- Sends a text in reply to the activity of the turn. -/
def sendText (services : Services σ) (turn : Turn) (text : String) : TurnAction σ Unit := do
  let now := services.clock (← get).world.host
  ofAction (Action.ofHost (services.send (turn.activity.reply text now)))

/-- Runs the effects of a turn for a user's state, from the outside. -/
def run (action : TurnAction σ α) (state : UserState) (cancelled : Bool) : Action σ α :=
  fun world =>
  match action ⟨world, state, cancelled⟩ with
  | .ok value scope => .ok value scope.world
  | .error error scope => .error error scope.world

end TurnAction
end SignInFlow
