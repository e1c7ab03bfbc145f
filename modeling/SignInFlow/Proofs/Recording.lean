import SignInFlow.Gateway
import SignInFlow.Replay.Worker

/-!
# Recording what the host sees

Any host can keep a record of the calls that reach it.  A recorded host behaves as the one it is
made of and remembers every answer of a handler, every access and whether it has taken effect, and
every report, the latest first.
-/

namespace SignInFlow

/-- Which of the two ways to sign in asks a handler. -/
inductive Asker where
  /-- The gate, for every turn that continues or starts a flow. -/
  | gate
  /-- The application, by an explicit sign-in. -/
  | application
deriving DecidableEq, Repr

/-- How a handler is made to forget a user. -/
inductive Withdrawal where
  | signOut
  | reset
deriving DecidableEq, Repr

/-- What a recorded host remembers. -/
inductive Event where
  /-- An access to storage or queue has taken effect. -/
  | accessed (turn : Turn) (access : Access)
  /-- An access to storage or queue was refused. -/
  | refused (turn : Turn) (access : Access)
  /-- A request to sign in was answered. -/
  | answered (asker : Asker) (turn : Turn) (request : Request) (answer : Except Error Response)
  /-- A handler was asked to forget the user of the turn. -/
  | withdrew (turn : Turn) (way : Withdrawal) (handler : String) (outcome : Except Error Unit)
  /-- The gate has let a turn through to the application. -/
  | admitted (turn : Turn)
  /-- A success was reported to the callback. -/
  | succeeded (turn : Turn) (report : Success)
  /-- A failure was reported to the callback. -/
  | failed (turn : Turn) (report : Failure)
  /-- A message was sent to the channel. -/
  | sent (turn : Turn) (message : Activity)

/-- A host with its record. -/
structure Recorded (σ : Type) where
  /-- The host. -/
  host : σ
  /-- What it has seen, the latest first. -/
  log : List Event

variable {σ α : Type}

namespace Recorded

/-- The host notices something. -/
def see (event : Event) (recorded : Recorded σ) : Recorded σ :=
  { recorded with log := event :: recorded.log }

/-- An effect on the host alone. -/
def ofHost (call : EStateM Error σ α) : EStateM Error (Recorded σ) α := fun recorded =>
  match call recorded.host with
  | .ok value host => .ok value { recorded with host := host }
  | .error error host => .error error { recorded with host := host }

end Recorded

namespace HostCall

/-- A call that leaves no trace in the record. -/
def unnoticed (call : HostCall σ α) : HostCall (Recorded σ) α := fun visit =>
  match call ⟨visit.host.host, visit.cancelled⟩ with
  | .ok value after => .ok value ⟨{ visit.host with host := after.host }, after.cancelled⟩
  | .error error after => .error error ⟨{ visit.host with host := after.host }, after.cancelled⟩

/-- A call that is remembered with its outcome. -/
def noticed (call : HostCall σ α) (event : Except Error α → Event) : HostCall (Recorded σ) α :=
  fun visit =>
    match call ⟨visit.host.host, visit.cancelled⟩ with
    | .ok value after =>
        .ok value ⟨⟨after.host, event (.ok value) :: visit.host.log⟩, after.cancelled⟩
    | .error error after =>
        .error error ⟨⟨after.host, event (.error error) :: visit.host.log⟩, after.cancelled⟩

end HostCall

/-- The host notices that a turn has passed the gate. -/
def TurnAction.noteAdmitted (turn : Turn) : TurnAction (Recorded σ) Unit :=
  TurnAction.ofAction (Action.changeHost (Recorded.see (.admitted turn)))

/-- The services of a recorded host, as they serve one turn. -/
def Services.recorded (services : Services σ) (turn : Turn) : Services (Recorded σ) where
  permit := fun access recorded =>
    match services.permit access recorded.host with
    | .ok _ host => .ok () { recorded with host := host }
    | .error error host =>
        .error error (Recorded.see (.refused turn access) { recorded with host := host })
  note := fun access recorded =>
    Recorded.see (.accessed turn access)
      { recorded with host := services.note access recorded.host }
  send := fun message recorded =>
    Recorded.ofHost (services.send message) (recorded.see (.sent turn message))
  openSender := fun activity recorded =>
    { recorded with host := services.openSender activity recorded.host }
  clock := fun recorded => services.clock recorded.host

/-- The start policy of a recorded host. -/
def StartPolicy.recorded : StartPolicy σ → StartPolicy (Recorded σ)
  | .always => .always
  | .never => .never
  | .ask predicate => .ask fun turn visit =>
      let (answer, after) := predicate turn ⟨visit.host.host, visit.cancelled⟩
      (answer, ⟨{ visit.host with host := after.host }, after.cancelled⟩)

/-- The dispatcher of a recorded host, as one of the two ways to sign in uses it. -/
def Dispatcher.recorded (dispatcher : Dispatcher σ) (asker : Asker) : Dispatcher (Recorded σ) where
  defaultName := dispatcher.defaultName
  names := dispatcher.names
  contains := dispatcher.contains
  signIn := fun turn request =>
    (dispatcher.signIn turn request).noticed (.answered asker turn request)
  signOut := fun turn handler =>
    (dispatcher.signOut turn handler).noticed (.withdrew turn .signOut handler)
  reset := fun turn handler =>
    (dispatcher.reset turn handler).noticed (.withdrew turn .reset handler)

/-- The authenticator of a recorded host, as one of the two ways to sign in uses it. -/
def Authenticator.recorded (auth : Authenticator σ) (asker : Asker) :
    Authenticator (Recorded σ) where
  settings := auth.settings
  defaultHandler := auth.defaultHandler
  dispatcher := auth.dispatcher.recorded asker
  policy := auth.policy.recorded
  onSuccess := auth.onSuccess.map fun callback turn report =>
    (callback turn report).noticed fun _ => .succeeded turn report
  onFailure := auth.onFailure.map fun callback turn report =>
    (callback turn report).noticed fun _ => .failed turn report

end SignInFlow
