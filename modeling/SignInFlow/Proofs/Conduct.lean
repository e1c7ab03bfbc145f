import SignInFlow.Proofs.Flows
import SignInFlow.Proofs.Recording

/-!
# What applications do, and runs

An application only asks: it signs users in and out, resets, looks up tokens, and keeps properties
of its own beside the two of the flow. A run is a sequence of turns from the channel and of replays
from the queue, each carried to its end.
-/

namespace SignInFlow

variable {σ α : Type}

/-- What an application does in a turn, one step after the other, each depending on what the one
before it gave. -/
inductive Conduct (σ : Type) : Type 1 where
  /-- The end, well or with an error. -/
  | finish (outcome : Except Error Unit)
  /-- An explicit sign-in. -/
  | signIn (handler : String) (exchange : Option Exchange) (next : Except Error Unit → Conduct σ)
  /-- Signing out of one handler, or of all. -/
  | signOut (handler : Option String) (next : Except Error Unit → Conduct σ)
  /-- Resetting one handler, or all. -/
  | reset (handler : Option String) (next : Except Error Unit → Conduct σ)
  /-- Looking up the token that is kept for a handler. -/
  | token (handler : String) (next : Option String → Conduct σ)
  /-- Looking at the user's state. -/
  | look (next : UserState → Conduct σ)
  /-- Setting a property of its own. -/
  | set (name : String) (value : Json) (foreign : Flow.foreign name = true) (next : Conduct σ)
  /-- Removing a property of its own. -/
  | remove (name : String) (foreign : Flow.foreign name = true) (next : Conduct σ)
  /-- Writing the user's state back. -/
  | save (next : Except Error Unit → Conduct σ)
  /-- Anything that concerns only the host. -/
  | call {α : Type} (action : HostCall σ α) (next : Except Error α → Conduct σ)

namespace TurnAction

/-- The outcome of an action, a failure too; what it changed before it failed stays changed. -/
def attempt (action : TurnAction σ α) : TurnAction σ (Except Error α) := fun scope =>
  match action scope with
  | .ok value after => .ok (.ok value) after
  | .error error after => .ok (.error error) after

end TurnAction

/-- What an action leaves, whether it succeeds or fails. -/
def remains {τ : Type} : EStateM.Result Error τ α → τ
  | .ok _ after => after
  | .error _ after => after

/-- What an action comes to, whatever it leaves. -/
def told {τ : Type} : EStateM.Result Error τ α → Except Error α
  | .ok value _ => .ok value
  | .error error _ => .error error

namespace Conduct

/-- Carries out what an application does. -/
def perform (auth : Authenticator σ) (services : Services σ) (turn : Turn) :
    Conduct σ → TurnAction σ Unit
  | finish outcome => MonadExcept.ofExcept outcome
  | signIn handler exchange next => do
      let outcome ← TurnAction.attempt (auth.signIn services turn handler exchange)
      (next outcome).perform auth services turn
  | signOut handler next => do
      let outcome ← TurnAction.attempt (auth.signOut services turn handler)
      (next outcome).perform auth services turn
  | reset handler next => do
      let outcome ← TurnAction.attempt (auth.reset services turn handler)
      (next outcome).perform auth services turn
  | token handler next => do
      (next (Authenticator.cachedToken (← get).world turn handler)).perform auth services turn
  | look next => do (next (← get).state).perform auth services turn
  | set name value _ next => do
      TurnAction.modifyState fun state => state.set name value
      next.perform auth services turn
  | remove name _ next => do
      TurnAction.modifyState fun state => state.remove name
      next.perform auth services turn
  | save next => do
      let outcome ← TurnAction.attempt (TurnAction.save services)
      (next outcome).perform auth services turn
  | .call action next => do
      let outcome ← TurnAction.attempt (TurnAction.ofHost action)
      (next outcome).perform auth services turn

/-- The same conduct before a recorded host. -/
def recorded : Conduct σ → Conduct (Recorded σ)
  | finish outcome => .finish outcome
  | signIn handler exchange next => .signIn handler exchange fun outcome => (next outcome).recorded
  | signOut handler next => .signOut handler fun outcome => (next outcome).recorded
  | reset handler next => .reset handler fun outcome => (next outcome).recorded
  | token handler next => .token handler fun token => (next token).recorded
  | look next => .look fun state => (next state).recorded
  | set name value foreign next => .set name value foreign next.recorded
  | remove name foreign next => .remove name foreign next.recorded
  | save next => .save fun outcome => (next outcome).recorded
  | .call action next => .call action.unnoticed fun outcome => (next outcome).recorded

end Conduct

/-- What happens to a gateway from outside. -/
inductive Input where
  /-- An activity arrives from the channel, in a turn that may be cancelled from the start. -/
  | arrival (activity : Activity) (cancelled : Bool)
  /-- The worker takes the oldest activity off the queue. -/
  | delivery

/-- A gateway, and what its host provides to each turn. -/
structure Deployment (σ : Type) where
  /-- The gateway. -/
  gateway : Gateway σ
  /-- The services for each turn. -/
  services : Turn → Services σ

namespace Deployment

/-- Processes one turn. -/
def process (deployment : Deployment σ) (turn : Turn) (cancelled : Bool) : Action σ Unit :=
  deployment.gateway.process (deployment.services turn) turn cancelled

/-- Carries what happens to its end. -/
def advance (deployment : Deployment σ) (world : World σ) : Input → World σ
  | .arrival activity cancelled => remains (deployment.process ⟨activity, false⟩ cancelled world)
  | .delivery =>
      match world.queue.waiting with
      | [] => world
      | activity :: _ =>
          (Replay.step (deployment.services ⟨activity, true⟩)
            (fun turn => deployment.process turn false) world).getD world

/-- The world after everything that happens. -/
def run (deployment : Deployment σ) (world : World σ) (inputs : List Input) : World σ :=
  inputs.foldl deployment.advance world

end Deployment

/-- A host that refuses nothing. -/
def Services.lenient : Services σ where
  permit := fun _ => pure ()
  note := fun _ host => host
  send := fun _ => pure ()
  openSender := fun _ host => host
  clock := fun _ => .epoch

/-- An authenticator in front of an application that only asks, with the services of its host. -/
structure Site (σ : Type) where
  /-- What signs users in. -/
  auth : Authenticator σ
  /-- The services of the host. -/
  services : Services σ
  /-- What the application does in each turn that passes the gate. -/
  conduct : Turn → Conduct σ
  /-- The handler to ask for, in place of the default. -/
  handler : Option String

namespace Site

/-- The site as it is. -/
def deployment (site : Site σ) : Deployment σ where
  gateway :=
    { auth := site.auth
      application := fun turn => (site.conduct turn).perform site.auth site.services turn
      handler := site.handler }
  services := fun _ => site.services

/-- The site with its host recorded. -/
def recorded (site : Site σ) : Deployment (Recorded σ) where
  gateway :=
    { auth := site.auth.recorded .gate
      application := fun turn => do
        TurnAction.noteAdmitted turn
        (site.conduct turn).recorded.perform (site.auth.recorded .application)
          (site.services.recorded turn) turn
      handler := site.handler }
  services := site.services.recorded

/-- A site with one handler, which wants to hear from the user once more and then gives a token; the
application signs in explicitly, and the host counts how often the handler was asked. -/
def sample : Site Nat where
  auth :=
    { settings := .standard
      defaultHandler := "code"
      dispatcher :=
        { defaultName := "code"
          names := ["code"]
          contains := fun name => name == "code"
          signIn := fun _ _ visit =>
            .ok (if visit.host = 0 then .pending else .complete "token")
              { visit with host := visit.host + 1 }
          signOut := fun _ _ => pure ()
          reset := fun _ _ => pure () }
      policy := .never
      onSuccess := some fun _ _ => pure ()
      onFailure := none }
  services := .lenient
  conduct := fun _ => .signIn "code" none fun outcome => .finish outcome
  handler := none

/-- A user asks for a sign-in and then says the code, and what comes of it is replayed. -/
def sampleInputs : List Input :=
  [.arrival (.message "chat" "ada" "room" "sign in") false,
    .arrival (.message "chat" "ada" "room" "42") false, .delivery]

end Site
end SignInFlow
