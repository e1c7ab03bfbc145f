import SignInFlow.Authenticator
import SignInFlow.Registry
import SignInFlow.Rehearsal.Stage

/-!
# The cast of a rehearsal

Handlers that follow their cues or wait for a code, dispatchers made of them, callbacks and start
policies.
-/

namespace SignInFlow.Rehearsal

open Stage

/-- How a part decides its answers. -/
inductive Method where
  /-- It follows the cues of a script. -/
  | cues (script : String)
  /-- It waits for the user to say a code, and remembers the token that it then gives. -/
  | code (code : String)

/-- A handler of the rehearsal. -/
structure Part where
  /-- The name. -/
  name : String
  /-- How it decides its answers. -/
  method : Method
  /-- The names of handlers that cannot sign out or reset. -/
  stuck : List String

/-- Takes the next cue of a script. -/
def nextCue (script : String) : HostCall Stage Cue := do
  match List.lookup script (← get).host.scripts with
  | some (cue :: rest) =>
      call (modify fun stage => { stage with scripts := stage.scripts.put script rest })
      pure cue
  | _ => throw (.handlerFailed "script exhausted")

/-- Follows the next cue of a script: the text, the cancellation, the answer. -/
def followCue (script : String) (turn : Turn) : HostCall Stage Response := do
  let cue ← nextCue script
  match cue.say with
  | some text => say turn text
  | none => pure ()
  if cue.cancel then modify fun visit => { visit with cancelled := true }
  MonadExcept.ofExcept cue.answer

/-- Waits for a code: a token that is held answers at once, the code gives one, anything else asks
the user to sign in. -/
def awaitCode (name code : String) (turn : Turn) (force : Bool) : HostCall Stage Response := do
  match (← get).host.held.get? turn.user name with
  | some token => pure (.complete token)
  | none =>
      if !force && turn.activity.text == some code then
        let token := "token-for-" ++ turn.user
        call (modify fun stage => { stage with held := stage.held.insert turn.user name token })
        pure (.complete token)
      else
        say turn "Please sign in"
        pure .pending

/-- The answer of a part to a request. -/
def answer (method : Method) (name : String) (turn : Turn) (request : Request) :
    HostCall Stage Response := do
  log (.signIn name request.force request.exchange)
  match method with
  | .cues script => followCue script turn
  | .code code => awaitCode name code turn request.force

/-- Signs out, unless the handler is stuck; a token that is held is then forgotten. -/
def leave (stuck : List String) (name : String) (turn : Turn) : HostCall Stage Unit := do
  log (.signOut name)
  if name ∈ stuck then throw (.handlerFailed "sign_out failed")
  call (modify fun stage => { stage with held := stage.held.remove turn.user name })

/-- Resets, unless the handler is stuck. -/
def restart (stuck : List String) (name : String) : HostCall Stage Unit := do
  log (.reset name)
  if name ∈ stuck then throw (.handlerFailed "reset_state failed")

namespace Part

/-- The part as a handler. -/
def toHandler (part : Part) : Handler Stage where
  name := part.name
  signIn := answer part.method part.name
  signOut := leave part.stuck part.name
  reset := fun _ => restart part.stuck part.name

end Part

/-- Who dispatches in a rehearsal. -/
inductive Casting where
  /-- A registry of parts, with a default that may be configured. -/
  | registry (parts : List Part) (default : Option String)
  /-- A plain dispatcher for some names, with one script for all. -/
  | plain (names : List String) (default : String) (script : String) (stuck : List String)

namespace Casting

/-- The dispatcher of a casting. -/
def toDispatcher : Casting → Except Error (Dispatcher Stage)
  | registry parts default => do
      pure (← Registry.ofHandlers (parts.map Part.toHandler) default).toDispatcher
  | plain names default script stuck => pure {
      defaultName := default
      names := names
      contains := fun name => decide (name ∈ names)
      signIn := fun turn request => answer (.cues script) request.handler turn request
      signOut := fun turn name => leave stuck name turn
      reset := fun _ name => restart stuck name }

end Casting

/-- What a callback does. -/
inductive Manner where
  /-- It records the report. -/
  | record
  /-- It records the report and then fails. -/
  | fail
  /-- It tells the user. -/
  | text
deriving DecidableEq, Repr

/-- The callback for successes of a given manner. -/
def onSuccess (manner : Manner) (turn : Turn) (report : Success) : HostCall Stage Unit :=
  match manner with
  | .record => log (.success report)
  | .fail => do
      log (.success report)
      throw (.handlerFailed "success callback failed")
  | .text => say turn ("Signed in to " ++ report.handler)

/-- The callback for failures of a given manner. -/
def onFailure (manner : Manner) (turn : Turn) (report : Failure) : HostCall Stage Unit :=
  match manner with
  | .record => log (.failure report)
  | .fail => do
      log (.failure report)
      throw (.handlerFailed "failure callback failed")
  | .text => say turn ("Could not sign in to " ++ report.handler)

/-- Whether the text of an activity starts with a given one. -/
def textStartsWith (start : String) (activity : Activity) : Bool :=
  activity.text.any fun text => start.toList.isPrefixOf text.toList

/-- The policy that starts flows for texts that start in a given way. -/
def startingWith (start : String) : StartPolicy Stage :=
  .ask fun turn visit =>
    let answer := textStartsWith start turn.activity
    (answer, { visit with host := visit.host.record (.asked answer) })

/-- Adds a callback to a wiring. -/
def withCallback (wiring : Wiring Stage) (outcome : Outcome) (manner : Manner) : Wiring Stage :=
  match outcome with
  | .success => wiring.withSuccess (onSuccess manner)
  | .failure => wiring.withFailure (onFailure manner)

end SignInFlow.Rehearsal
