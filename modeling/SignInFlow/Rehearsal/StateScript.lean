import SignInFlow.Flow
import SignInFlow.Rehearsal.Stage

/-!
# Rehearsing storage and state

Steps on the stored documents, on the states of users and on flows, which are kept under names.
-/

namespace SignInFlow.Rehearsal

/-- One step on storage, states or flows. -/
inductive StateStep where
  | write (changes : Dictionary Json)
  | read (keys : List String)
  | delete (keys : List String)
  | snapshot (key : String)
  | count
  | refuse (operations : List Operation)
  | openState (state : String) (activity : Decoded Activity)
  | newFlow (flow : String)
  | loadFlow (flow state : String)
  | showFlow (flow : String)
  | beginFlow (flow handler : String) (banked : Decoded Banked)
  | finishFlow (flow : String)
  | sameFlow (flow other : String)
  | get (state property : String) (reread : Json → Decoded Json)
  | set (state property : String) (value : Json)
  | remove (state property : String)
  | has (state property : String)
  | save (state : String)
  | storeFlow (state flow : String)

/-- The states and flows that are kept, over a world. -/
structure Desk where
  /-- The documents, and the stage behind them. -/
  world : World Stage
  /-- The states of users by name. -/
  states : Dictionary UserState
  /-- The flows by name. -/
  flows : Dictionary Flow

namespace Desk

/-- The desk before the first step. -/
def empty : Desk := ⟨.initial .empty, [], []⟩

/-- The flow of a name, idle if there is none. -/
def flow (desk : Desk) (name : String) : Flow := (List.lookup name desk.flows).getD .idle

/-- Keeps a flow under a name. -/
def keepFlow (desk : Desk) (name : String) (flow : Flow) : Desk :=
  { desk with flows := desk.flows.put name flow }

/-- Keeps a state under a name. -/
def keepState (desk : Desk) (name : String) (state : UserState) : Desk :=
  { desk with states := desk.states.put name state }

/-- A flow as an object. -/
def flowToJson (flow : Flow) : Json :=
  .obj [
    ("active", (flow.handler.map Json.str).getD .null),
    ("continuation", (flow.banked.map Banked.toJson).getD .null),
    ("is_active", .bool flow.isActive)]

/-- Runs an action on the world. -/
def act {α : Type} (desk : Desk) (action : Action Stage α) : Except Error α × Desk :=
  match action desk.world with
  | .ok value world => (.ok value, { desk with world := world })
  | .error error world => (.error error, { desk with world := world })

/-- Carries out a step on a state that is kept. -/
def onState (desk : Desk) (name : String)
    (step : UserState → Except Error Json × Desk) : Except Error Json × Desk :=
  match List.lookup name desk.states with
  | some state => step state
  | none => (.ok .null, desk)

/-- The name of the state that a step leaves open to view, if any. -/
def stateOf : StateStep → Option String
  | .get state _ _ | .set state _ _ | .remove state _ | .has state _ | .save state
  | .storeFlow state _ => some state
  | _ => none

/-- Carries out a step. -/
def perform (desk : Desk) : StateStep → Except Error Json × Desk
  | .write changes =>
      let (result, desk) := desk.act (Storage.write Stage.services changes)
      (result.map fun _ => .null, desk)
  | .read keys =>
      let (result, desk) := desk.act (Storage.read Stage.services keys)
      (result.map .obj, desk)
  | .delete keys =>
      let (result, desk) := desk.act (Storage.delete Stage.services keys)
      (result.map fun _ => .null, desk)
  | .snapshot key => (.ok ((List.lookup key desk.world.documents).getD .null), desk)
  | .count =>
      let count := desk.world.documents.length
      (.ok (.arr [.int count, .int (if count = 0 then 1 else 0)]), desk)
  | .refuse operations =>
      (.ok .null, { desk with world :=
        { desk.world with host := { desk.world.host with down := operations } } })
  | .openState name activity =>
      match activity.orError with
      | .error error => (.error error, desk)
      | .ok activity =>
          match desk.act (UserState.load Stage.services activity) with
          | (.ok state, desk) => (.ok (.str state.key), desk.keepState name state)
          | (.error error, desk) => (.error error, desk)
  | .newFlow name => (.ok .null, desk.keepFlow name .idle)
  | .loadFlow name stateName =>
      desk.onState stateName fun state =>
        match Flow.load state with
        | .ok flow => (.ok (flowToJson flow), desk.keepFlow name flow)
        | .error error => (.error error, desk)
  | .showFlow name => (.ok (flowToJson (desk.flow name)), desk)
  | .beginFlow name handler banked =>
      match banked.orError with
      | .ok banked => (.ok .null, desk.keepFlow name (.active handler (some banked)))
      | .error error => (.error error, desk)
  | .finishFlow name =>
      (.ok (((desk.flow name).banked.map Banked.toJson).getD .null), desk.keepFlow name .idle)
  | .sameFlow name other => (.ok (.bool (desk.flow name == desk.flow other)), desk)
  | .get name property reread =>
      desk.onState name fun state =>
        ((state.read reread property).map fun
          | some value => .arr [value]
          | none => .null, desk)
  | .set name property value =>
      desk.onState name fun state => (.ok .null, desk.keepState name (state.set property value))
  | .remove name property =>
      desk.onState name fun state => (.ok .null, desk.keepState name (state.remove property))
  | .has name property => desk.onState name fun state => (.ok (.bool (state.has property)), desk)
  | .save name =>
      desk.onState name fun state =>
        match desk.act (state.save Stage.services) with
        | (.ok saved, desk) => (.ok .null, desk.keepState name saved)
        | (.error error, desk) => (.error error, desk)
  | .storeFlow name flow =>
      desk.onState name fun state =>
        (.ok .null, desk.keepState name ((desk.flow flow).store state))

/-- What a step has shown. -/
structure Shown where
  /-- The result. -/
  result : Except Error Json
  /-- The accesses that took effect, in order. -/
  events : List Event
  /-- Every stored document. -/
  documents : Dictionary Json
  /-- Whether the state that the step is about has changes that are not written back. -/
  dirty : Option Bool

/-- Carries out a step and shows what it did. -/
def watch (desk : Desk) (step : StateStep) : Shown × Desk :=
  let fresh := { desk with world :=
    { desk.world with host := { desk.world.host with events := [] } } }
  let (result, after) := fresh.perform step
  let dirty := (stateOf step).bind fun name => (List.lookup name after.states).map UserState.dirty
  (⟨result, after.world.host.events.reverse, after.world.documents, dirty⟩, after)

/-- Carries out all steps in order. -/
def watchAll (desk : Desk) : List StateStep → List Shown
  | [] => []
  | step :: rest =>
      let (shown, after) := desk.watch step
      shown :: after.watchAll rest

end Desk
end SignInFlow.Rehearsal
