import SignInFlow.World

/-!
# The stage of a rehearsal

A rehearsal runs the library against a host that follows a script: handlers answer with prepared
cues, switches refuse accesses, and everything that reaches the host is recorded as an event.
-/

namespace SignInFlow.Rehearsal

/-- What a handler does when it is next called. -/
structure Cue where
  /-- A text to send first. -/
  say : Option String
  /-- Whether to cancel the turn after that. -/
  cancel : Bool
  /-- The answer to give. -/
  answer : Except Error Response

/-- What has reached the host. -/
inductive Event where
  /-- A handler was asked to sign in. -/
  | signIn (handler : String) (force : Bool) (exchange : Option Exchange)
  /-- A handler was asked to sign out. -/
  | signOut (handler : String)
  /-- A handler was asked to reset. -/
  | reset (handler : String)
  /-- Documents were written. -/
  | wrote (keys : List String)
  /-- Documents were deleted. -/
  | deleted (keys : List String)
  /-- An activity was queued. -/
  | queued (activity : Activity)
  /-- An activity was sent. -/
  | sent (activity : Activity)
  /-- A success was reported. -/
  | success (report : Success)
  /-- A failure was reported. -/
  | failure (report : Failure)
  /-- The start policy was asked. -/
  | asked (answer : Bool)
  /-- The application was reached. -/
  | application (text : Option String) (token : Option String) (redelivered : Bool)
  /-- A replayed turn was given its sender. -/
  | senderFor (user : String)

/-- The accesses to storage that a switch can refuse. -/
inductive Operation where
  | read
  | write
  | delete
deriving DecidableEq, Repr

namespace Operation

/-- The name of an operation. -/
def name : Operation → String
  | read => "read"
  | write => "write"
  | delete => "delete"

end Operation

/-- The state of the scripted host. -/
structure Stage where
  /-- The events since the last look, the latest first. -/
  events : List Event
  /-- The cues that are left, by the name of the script. -/
  scripts : Dictionary (List Cue)
  /-- The tokens that handlers remember for their users. -/
  held : TokenCache
  /-- Every activity that the queue has accepted, the latest first. -/
  accepted : List Activity
  /-- The storage operations that are refused. -/
  down : List Operation
  /-- Whether queueing is refused. -/
  queueDown : Bool
  /-- Whether sending is refused. -/
  senderDown : Bool

namespace Stage

/-- The stage before anything has happened. -/
def empty : Stage := ⟨[], [], [], [], [], false, false⟩

/-- Records an event. -/
def record (stage : Stage) (event : Event) : Stage := { stage with events := event :: stage.events }

/-- Refuses a storage operation that is switched off. -/
def permitOperation (operation : Operation) : EStateM Error Stage Unit := do
  if operation ∈ (← get).down then throw (.storageFailed (operation.name ++ " unavailable"))

/-- Refuses the accesses that are switched off. -/
def permit : Access → EStateM Error Stage Unit
  | .read _ => permitOperation .read
  | .write _ => permitOperation .write
  | .delete _ => permitOperation .delete
  | .submit _ => do
      if (← get).queueDown then throw (.deliveryFailed "queue unavailable")

/-- Records the accesses that change something. -/
def note : Access → Stage → Stage
  | .read _, stage => stage
  | .write changes, stage => stage.record (.wrote (changes.map Prod.fst))
  | .delete keys, stage => stage.record (.deleted keys)
  | .submit activity, stage =>
      { stage with accepted := activity :: stage.accepted }.record (.queued activity)

/-- Records an activity that is sent, unless sending is switched off. -/
def send (activity : Activity) : EStateM Error Stage Unit := do
  if (← get).senderDown then throw (.deliveryFailed "sender unavailable")
  modify fun stage => stage.record (.sent activity)

/-- The services of the scripted host; its clock stands still. -/
def services : Services Stage where
  permit := permit
  note := note
  send := send
  openSender := fun activity stage => stage.record (.senderFor activity.sender.id)
  clock := fun _ => .epoch

/-- A call on the stage within a turn. -/
def call {α : Type} (action : EStateM Error Stage α) : HostCall Stage α := fun visit =>
  match action visit.host with
  | .ok value stage => .ok value { visit with host := stage }
  | .error error stage => .error error { visit with host := stage }

/-- Records an event within a turn. -/
def log (event : Event) : HostCall Stage Unit :=
  call (modify fun stage => stage.record event)

/-- Sends a text in reply to the activity of a turn. -/
def say (turn : Turn) (text : String) : HostCall Stage Unit :=
  call (send (turn.activity.reply text .epoch))

end Stage
end SignInFlow.Rehearsal
