import SignInFlow.Rehearsal.Application
import SignInFlow.Rehearsal.Cast
import SignInFlow.Replay.Worker
import SignInFlow.Text.Literal

/-!
# The script of a rehearsal

A rehearsal is wired from a plan and then follows steps.  Some set switches, some run whole turns,
and some run one operation within a turn, which may be kept under a name and come back later with
the state that it had loaded.
-/

namespace SignInFlow.Rehearsal

/-- How activities are queued. -/
inductive Queueing where
  /-- There is no queue. -/
  | missing
  /-- Activities are accepted, and nobody replays them. -/
  | recorded
  /-- Activities are accepted for a worker. -/
  | worked
deriving DecidableEq, Repr

/-- What a rehearsal is wired from. -/
structure Plan where
  /-- The settings. -/
  settings : Settings
  /-- Who dispatches, if anyone. -/
  casting : Option Casting
  /-- How activities are queued. -/
  queueing : Queueing
  /-- The start policy, if one is given. -/
  policy : Option (StartPolicy Stage)
  /-- The callbacks, in the order in which they are given. -/
  callbacks : List (Outcome × Manner)
  /-- The handler that the gateway asks for. -/
  handler : Option String
  /-- The cues of each script. -/
  scripts : Dictionary (List Cue)

namespace Plan

/-- The wiring of a plan. -/
def wiring (plan : Plan) : Except Error (Wiring Stage) := do
  let base : Wiring Stage := { settings := plan.settings }
  let withDispatcher ← match plan.casting with
    | some casting => pure (base.withDispatcher (← casting.toDispatcher))
    | none => pure base
  let withQueue := if plan.queueing = .missing then withDispatcher else withDispatcher.withQueue
  let withPolicy := match plan.policy with
    | some policy => withQueue.withPolicy policy
    | none => withQueue
  pure (plan.callbacks.foldl
    (fun wiring callback => withCallback wiring callback.1 callback.2) withPolicy)

/-- The gateway of a plan, in front of the application of the rehearsal. -/
def gateway (plan : Plan) : Except Error (Gateway Stage) := do
  let auth ← (← plan.wiring).build
  pure ⟨auth, application auth, plan.handler⟩

end Plan

/-- An operation within a turn. -/
inductive TurnOperation where
  | openTurn
  | startOrContinue (handler : Option String)
  | signIn (handler : String) (exchange : Decoded (Option Exchange))
  | signOut (handler : Option String)
  | reset (handler : Option String)
  | cachedToken (handler : String)
  | activeFlow
  | handleCompletion
  | cancel
  | set (name : String) (value : Json)
  | remove (name : String)
  | save

/-- An activity as a step names it. -/
inductive Source where
  /-- It is written out, and may not decode. -/
  | written (activity : Decoded Activity)
  /-- It is the one that the queue accepted after so many others. -/
  | accepted (index : Nat)

/-- The turn that an operation runs in. -/
structure Target where
  /-- The activity of a new turn; without one a turn that was kept comes back. -/
  source : Option Source
  /-- Whether a new turn counts as replayed. -/
  redelivered : Bool
  /-- Whether a new turn is cancelled from the start. -/
  cancelled : Bool
  /-- The name to keep the turn under. -/
  name : Option String

/-- One step of a script. -/
inductive Step where
  | refuseQueueing (value : Bool)
  | refuseSending (value : Bool)
  | refuseStorage (operations : List Operation)
  | seed (key : String) (document : Json)
  | addCue (script : String) (cue : Cue)
  | inTurn (target : Target) (operation : TurnOperation)
  | isCompletionEvent (source : Source)
  | process (source : Source) (redelivered cancelled : Bool)
  | drain
  | dropWorker
  | stats
  | settings
  | describe

/-- A turn that is kept: what triggered it, the user's state as it was loaded, and its
cancellation. -/
structure KeptTurn where
  /-- The turn. -/
  turn : Turn
  /-- The user's state. -/
  state : UserState
  /-- Whether it is cancelled. -/
  cancelled : Bool

/-- Why a step has no result. -/
inductive StepError where
  /-- An operation failed. -/
  | failed (error : Error)
  /-- No turn is kept under the name. -/
  | noTurn

/-- What a step has shown. -/
structure Shown where
  /-- The result. -/
  result : Except StepError Json
  /-- What reached the host, in order. -/
  events : List Event
  /-- Every stored document. -/
  documents : Dictionary Json
  /-- Whether the user's state has changes that are not written back, for a step with a turn. -/
  dirty : Option Bool

/-- A rehearsal on its way. -/
structure Running where
  /-- What is rehearsed. -/
  gateway : Gateway Stage
  /-- How activities are queued. -/
  queueing : Queueing
  /-- What lasts from turn to turn. -/
  world : World Stage
  /-- The turns that are kept. -/
  kept : Dictionary KeptTurn

namespace Running

/-- The rehearsal of a plan before its first step. -/
def ofPlan (plan : Plan) : Except Error Running := do
  let gateway ← plan.gateway
  pure ⟨gateway, plan.queueing, .initial { Stage.empty with scripts := plan.scripts }, []⟩

/-- Changes the stage. -/
def onStage (running : Running) (change : Stage → Stage) : Running :=
  { running with world := { running.world with host := change running.world.host } }

/-- The activity that a step names. -/
def activityOf (running : Running) : Source → Except StepError Activity
  | .written activity => activity.mapError fun mismatch => .failed (.serialization mismatch)
  | .accepted index =>
      match running.world.host.accepted.reverse[index]? with
      | some activity => .ok activity
      | none => .error .noTurn

/-- What an operation does within a turn, and shows. -/
def operate (auth : Authenticator Stage) (turn : Turn) : TurnOperation → TurnAction Stage Json
  | .openTurn => do pure (.str (← get).state.key)
  | .startOrContinue handler => do
      pure (.bool (← auth.startOrContinue Stage.services turn handler))
  | .signIn handler exchange => do
      let exchange ← MonadExcept.ofExcept exchange.orError
      auth.signIn Stage.services turn handler exchange
      pure .null
  | .signOut handler => do
      auth.signOut Stage.services turn handler
      pure .null
  | .reset handler => do
      auth.reset Stage.services turn handler
      pure .null
  | .cachedToken handler => do
      pure (((Authenticator.cachedToken (← get).world turn handler).map Json.str).getD .null)
  | .activeFlow => do pure (((← Authenticator.activeFlow).map Json.str).getD .null)
  | .handleCompletion => do
      auth.handleCompletion Stage.services turn
      pure .null
  | .cancel => do
      modify fun scope => { scope with cancelled := true }
      pure .null
  | .set name value => do
      TurnAction.modifyState fun state => state.set name value
      pure .null
  | .remove name => do
      TurnAction.modifyState fun state => state.remove name
      pure .null
  | .save => do
      TurnAction.save Stage.services
      pure .null

/-- The turn that a step asks for: a new one with freshly loaded state, or one that was kept. -/
def enter (running : Running) (target : Target) : Except StepError KeptTurn × Running :=
  match target.source with
  | some source =>
      match running.activityOf source with
      | .error error => (.error error, running)
      | .ok activity =>
          match UserState.load Stage.services activity running.world with
          | .ok state world =>
              (.ok ⟨⟨activity, target.redelivered⟩, state, target.cancelled⟩,
                { running with world := world })
          | .error error world => (.error (.failed error), { running with world := world })
  | none =>
      match target.name.bind fun name => List.lookup name running.kept with
      | some kept => (.ok kept, running)
      | none => (.error .noTurn, running)

/-- Leaves a turn, which stays kept if it has a name. -/
def leave (running : Running) (target : Target) (turn : Turn) (scope : Scope Stage) : Running :=
  let kept := match target.name with
    | some name => Dictionary.put name ⟨turn, scope.state, scope.cancelled⟩ running.kept
    | none => running.kept
  { running with world := scope.world, kept := kept }

/-- Runs an operation within a turn; also tells whether the user's state is left with changes. -/
def runInTurn (running : Running) (target : Target) (operation : TurnOperation) :
    (Except StepError Json × Option Bool) × Running :=
  match running.enter target with
  | (.error error, running) => ((.error error, none), running)
  | (.ok entered, running) =>
      let scope : Scope Stage := ⟨running.world, entered.state, entered.cancelled⟩
      match operate running.gateway.auth entered.turn operation scope with
      | .ok value scope =>
          ((.ok value, some scope.state.dirty), running.leave target entered.turn scope)
      | .error error scope =>
          ((.error (.failed error), some scope.state.dirty),
            running.leave target entered.turn scope)

/-- The description of an authenticator. -/
def describe (running : Running) : String :=
  let auth := running.gateway.auth
  let switch (value : Bool) : String := if value then "true" else "false"
  "AuthorizationOrchestrator \x7b default_handler: " ++ literal auth.defaultHandler
    ++ ", auto_sign_in: " ++ auth.policy.label
    ++ ", on_success: " ++ switch auth.onSuccess.isSome
    ++ ", on_failure: " ++ switch auth.onFailure.isSome
    ++ ", cached_tokens: " ++ Decimal.digitText running.world.tokens.length ++ ", .. \x7d"

/-- Whether a worker is there to replay. -/
def hasWorker (running : Running) : Bool :=
  running.queueing == .worked && running.world.queue.receiving

/-- The cues that are left in all scripts. -/
def cuesLeft (running : Running) : Nat :=
  running.world.host.scripts.foldl (fun total script => total + script.2.length) 0

/-- Enough replays to empty the queue: a flow that cannot be cleared takes a cue for each. -/
def replayLimit (running : Running) : Nat := Replay.bound running.world + running.cuesLeft

/-- Carries out a step; the result may come with the state of a turn. -/
def perform (running : Running) : Step → (Except StepError Json × Option Bool) × Running
  | .refuseQueueing value =>
      ((.ok .null, none), running.onStage fun stage => { stage with queueDown := value })
  | .refuseSending value =>
      ((.ok .null, none), running.onStage fun stage => { stage with senderDown := value })
  | .refuseStorage operations =>
      ((.ok .null, none), running.onStage fun stage => { stage with down := operations })
  | .seed key document =>
      ((.ok .null, none), { running with world :=
        { running.world with documents := running.world.documents.put key document } })
  | .addCue script cue =>
      ((.ok .null, none), running.onStage fun stage =>
        let cues := (List.lookup script stage.scripts).getD []
        { stage with scripts := stage.scripts.put script (cues ++ [cue]) })
  | .inTurn target operation => running.runInTurn target operation
  | .isCompletionEvent source =>
      ((do
        let activity ← running.activityOf source
        pure (.bool (running.gateway.auth.isCompletionEvent activity)), none), running)
  | .process source redelivered cancelled =>
      match running.activityOf source with
      | .error error => ((.error error, none), running)
      | .ok activity =>
          match running.gateway.process Stage.services ⟨activity, redelivered⟩ cancelled
            running.world with
          | .ok _ world => ((.ok .null, none), { running with world := world })
          | .error error world => ((.error (.failed error), none), { running with world := world })
  | .drain =>
      if running.hasWorker then
        let process (turn : Turn) := running.gateway.process Stage.services turn false
        let (replayed, world) :=
          Replay.drain Stage.services process running.replayLimit running.world
        ((.ok (.int replayed), none), { running with world := world })
      else ((.ok .null, none), running)
  | .dropWorker =>
      let dropped := { running.world with queue := running.world.queue.dropReceiver }
      ((.ok .null, none), if running.hasWorker then { running with world := dropped } else running)
  | .stats =>
      let tally := running.world.queue.tally
      let shown : Json :=
        if running.queueing = .worked then
          .arr [.int tally.submitted, .int tally.processed, .int tally.failed]
        else .null
      ((.ok shown, none), running)
  | .settings =>
      let auth := running.gateway.auth
      ((.ok (.arr [.str auth.defaultHandler, auth.settings.toJson]), none), running)
  | .describe => ((.ok (.str running.describe), none), running)

/-- Carries out a step and shows what it did. -/
def watch (running : Running) (step : Step) : Shown × Running :=
  let fresh := running.onStage fun stage => { stage with events := [] }
  let ((result, dirty), after) := fresh.perform step
  (⟨result, after.world.host.events.reverse, after.world.documents, dirty⟩, after)

/-- Carries out all steps in order. -/
def watchAll (running : Running) : List Step → List Shown × Running
  | [] => ([], running)
  | step :: rest =>
      let (shown, after) := running.watch step
      let (others, final) := after.watchAll rest
      (shown :: others, final)

end Running
end SignInFlow.Rehearsal
