import SignInFlow.Activity.Codec
import SignInFlow.Cancellation
import SignInFlow.Replay.Station

/-!
# Rehearsing the replay queue

Steps on the numbered handles of a queue, on its receiving end, and on a worker that has it.
-/

namespace SignInFlow.Rehearsal

/-- What the worker has done. -/
inductive WorkerEvent where
  /-- A turn was given its sender. -/
  | senderFor (user : String)
  /-- A turn was processed. -/
  | processed (turn : Turn)

/-- One step on a queue and its worker. -/
inductive ReplayStep where
  | submit (handle : Nat) (activity : Decoded Activity)
  | cloneHandle (handle : Nat)
  | dropHandle (handle : Nat)
  | stats (handle : Nat)
  | tryReceive
  | receive
  | dropReceiver
  | makeWorker
  | drain
  | run (untilShutdown : Bool)
  | poll
  | shutdown

/-- A station with the names of its handles. -/
structure ReplayDesk where
  /-- The station, with the latest events of the worker as the host's state. -/
  station : Station (List WorkerEvent)
  /-- The texts whose turns fail. -/
  failing : List String
  /-- How many handles were ever made. -/
  handlesMade : Nat
  /-- The handles that were given up. -/
  gone : List Nat

namespace ReplayDesk

/-- The desk before the first step. -/
def start (failing : List String) : ReplayDesk := ⟨.start [], failing, 1, []⟩

/-- Services that refuse nothing and record only the senders that are made. -/
def services : Services (List WorkerEvent) where
  permit := fun _ => pure ()
  note := fun _ events => events
  send := fun _ => pure ()
  openSender := fun activity events => .senderFor activity.sender.id :: events
  clock := fun _ => .epoch

/-- Records a turn, and fails if its text is to fail. -/
def process (failing : List String) : TurnProcessor (List WorkerEvent) := fun turn => do
  Action.changeHost fun events => .processed turn :: events
  if turn.activity.text.any fun text => decide (text ∈ failing) then throw (.handlerFailed "boom")

/-- Does something at the station, and shows what it comes to. -/
def use (desk : ReplayDesk) (use : Station.Use) (answered : Station.Answer → Except Error Json) :
    Except Error Json × ReplayDesk :=
  let (answer, station) := desk.station.perform services (process desk.failing) use
  (answered answer, { desk with station := station })

/-- How many activities wait; turns queue none. -/
def waits (desk : ReplayDesk) : Nat := desk.station.world.queue.waiting.length

/-- Whether a handle was made and not given up. -/
def holds (desk : ReplayDesk) (handle : Nat) : Bool :=
  decide (handle < desk.handlesMade) && decide (handle ∉ desk.gone)

/-- Carries out a step on a handle. -/
def onHandle (desk : ReplayDesk) (handle : Nat)
    (step : ReplayDesk → Except Error Json × ReplayDesk) : Except Error Json × ReplayDesk :=
  if desk.holds handle then step desk else (.ok .null, desk)

/-- How the end of a submission is shown. -/
def showSubmitted : Station.Answer → Except Error Json
  | .refused error => .error error
  | _ => .ok (.obj [("ok", .null)])

/-- How anything else is shown. -/
def showAnswer : Station.Answer → Except Error Json
  | .found (some activity) => .ok activity.toJson
  | .shown (.received activity) => .ok (.obj [("task", activity.toJson)])
  | .shown .waiting => .ok (.str "pending")
  | .shown .closed => .ok (.str "closed")
  | .drained count => .ok (.int count)
  | _ => .ok .null

/-- How a look at a worker in the background is shown. -/
def showPolled : Station.Answer → Except Error Json
  | .polled true => .ok (.str "ready")
  | .polled false => .ok (.str "pending")
  | _ => .ok (.str "finished")

/-- Carries out a step. -/
def perform (desk : ReplayDesk) : ReplayStep → Except Error Json × ReplayDesk
  | .submit handle activity =>
      match activity.orError with
      | .error error => (.error error, desk)
      | .ok activity =>
          desk.onHandle handle fun desk => desk.use (.handle (.submit activity)) showSubmitted
  | .cloneHandle handle =>
      desk.onHandle handle fun desk =>
        { desk with handlesMade := desk.handlesMade + 1 }.use (.handle .addHandle)
          fun _ => .ok (.int desk.handlesMade)
  | .dropHandle handle =>
      desk.onHandle handle fun desk =>
        { desk with gone := handle :: desk.gone }.use (.handle .dropHandle) showAnswer
  | .stats handle =>
      desk.onHandle handle fun desk =>
        let tally := desk.station.world.queue.tally
        (.ok (.arr [.int tally.submitted, .int tally.processed, .int tally.failed]), desk)
  | .tryReceive => desk.use .tryReceive showAnswer
  | .receive => desk.use .receive showAnswer
  | .dropReceiver => desk.use .dropReceiver showAnswer
  | .makeWorker => desk.use .makeWorker showAnswer
  | .drain => desk.use (.drain desk.waits) showAnswer
  | .run untilShutdown => desk.use (.run untilShutdown) showAnswer
  | .poll => desk.use (.poll desk.waits) showPolled
  | .shutdown => desk.use .shutdown showAnswer

/-- Carries out a step and shows its result and what the worker did. -/
def watch (desk : ReplayDesk) (step : ReplayStep) :
    (Except Error Json × List WorkerEvent) × ReplayDesk :=
  let fresh : ReplayDesk :=
    { desk with
      station := { desk.station with world := { desk.station.world with host := [] } } }
  let (result, after) := fresh.perform step
  ((result, after.station.world.host.reverse), after)

/-- Carries out all steps in order. -/
def watchAll (desk : ReplayDesk) : List ReplayStep → List (Except Error Json × List WorkerEvent)
  | [] => []
  | step :: rest =>
      let (shown, after) := desk.watch step
      shown :: after.watchAll rest

end ReplayDesk
end SignInFlow.Rehearsal
