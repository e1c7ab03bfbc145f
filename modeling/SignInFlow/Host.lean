import SignInFlow.Activity
import SignInFlow.Error

/-!
# The host

Everything outside the library - handlers, callbacks, the application's senders, the machines behind
storage and queue - shares one state of a type `σ` that the library never looks into.  What the host
is called with sees that state and the cancellation of the current turn, and nothing else, so that
it cannot touch the stored documents, the token cache or the queue.
-/

namespace SignInFlow

/-- One turn: an activity to be processed, from the channel or from the replay queue. -/
structure Turn where
  /-- The activity that triggered the turn. -/
  activity : Activity
  /-- Whether the replay queue delivered it. -/
  redelivered : Bool
deriving Repr, BEq

namespace Turn

/-- The id of the user whose turn it is. -/
def user (turn : Turn) : String := turn.activity.sender.id

end Turn

/-- What a call of the host sees and may change. -/
structure Visit (σ : Type) where
  /-- The state of the host. -/
  host : σ
  /-- Whether the current turn is cancelled. -/
  cancelled : Bool

/-- A call of the host within a turn. -/
abbrev HostCall (σ α : Type) := EStateM Error (Visit σ) α

/-- An access to storage or queue, which the host may refuse. -/
inductive Access where
  /-- Reading the documents under some keys. -/
  | read (keys : List String)
  /-- Writing documents, each under its key. -/
  | write (changes : Dictionary Json)
  /-- Deleting the documents under some keys. -/
  | delete (keys : List String)
  /-- Queueing an activity for replay. -/
  | submit (activity : Activity)
deriving Repr

/-- What the host provides to every turn. -/
structure Services (σ : Type) where
  /-- Lets an access through, or refuses it with an error. -/
  permit : Access → EStateM Error σ Unit
  /-- Hears of an access that has taken effect. -/
  note : Access → σ → σ
  /-- Sends an activity to the channel. -/
  send : Activity → EStateM Error σ Unit
  /-- Prepares to send for the turn of a replayed activity. -/
  openSender : Activity → σ → σ
  /-- The current time. -/
  clock : σ → Instant

/-- A named handler of one way to sign in. -/
structure Handler (σ : Type) where
  /-- The name. -/
  name : String
  /-- Starts or continues a flow for the user of the turn. -/
  signIn : Turn → Request → HostCall σ Response
  /-- Revokes the user's token and forgets progress. -/
  signOut : Turn → HostCall σ Unit
  /-- Forgets progress and revokes nothing. -/
  reset : Turn → HostCall σ Unit

/-- What dispatches requests to handlers by name. -/
structure Dispatcher (σ : Type) where
  /-- The handler to use when none is asked for. -/
  defaultName : String
  /-- The names of the handlers, in order. -/
  names : List String
  /-- Whether a handler has the name. -/
  contains : String → Bool
  /-- Calls the handler that the request names. -/
  signIn : Turn → Request → HostCall σ Response
  /-- Signs the user out of the named handler. -/
  signOut : Turn → String → HostCall σ Unit
  /-- Resets the progress of the named handler. -/
  reset : Turn → String → HostCall σ Unit

/-- A flow has given a token. -/
structure Success where
  /-- The handler that gave it. -/
  handler : String
  /-- The token. -/
  token : String
  /-- The activity that started the flow. -/
  initiating : Activity
deriving Repr, BEq

/-- A flow has ended without a token. -/
structure Failure where
  /-- The handler that reported it. -/
  handler : String
  /-- The response that ended the flow. -/
  response : Response
  /-- The activity that started the flow. -/
  initiating : Activity
deriving Repr, BEq

/-- Whether a turn without an active flow starts one. -/
inductive StartPolicy (σ : Type) where
  /-- Always. -/
  | always
  /-- Never: only explicit sign-ins and flows in progress run. -/
  | never
  /-- If the host says so. -/
  | ask (predicate : Turn → StateM (Visit σ) Bool)

namespace StartPolicy

variable {σ : Type}

/-- The policy of a switch. -/
def ofBool (enabled : Bool) : StartPolicy σ := if enabled then always else never

/-- Whether the turn is to start a flow. -/
def shouldStart (policy : StartPolicy σ) (turn : Turn) : HostCall σ Bool := fun visit =>
  match policy with
  | always => .ok true visit
  | never => .ok false visit
  | ask predicate =>
      let (answer, visit) := predicate turn visit
      .ok answer visit

/-- The name of a policy. -/
def label : StartPolicy σ → String
  | always => "Enabled"
  | never => "Disabled"
  | ask _ => "When(..)"

end StartPolicy
end SignInFlow
