import SignInFlow.Replay.Worker

/-!
# The replay station

A queue has any number of handles to submit with, and one receiving end.  Whoever has that end
receives by hand, or leaves it to a worker, which drains the queue when it is told to or runs in the
background until the queue is closed.
-/

namespace SignInFlow

/-- Who has the receiving end, as long as that exists. -/
inductive Receiver where
  /-- It can be received from by hand. -/
  | free
  /-- A worker has it. -/
  | worker
  /-- A worker runs until the queue closes, or, if told so, until shutdown. -/
  | running (untilShutdown : Bool)
deriving DecidableEq, Repr

/-- What can be done with a handle. -/
inductive ReplayQueue.Handling where
  /-- Submitting an activity. -/
  | submit (activity : Activity)
  /-- Making one more handle. -/
  | addHandle
  /-- Giving up the handle. -/
  | dropHandle

/-- What can be done at a station. -/
inductive Station.Use where
  /-- Doing something with a handle. -/
  | handle (handling : ReplayQueue.Handling)
  /-- Receiving what is there by hand. -/
  | tryReceive
  /-- One look at whether something can be received by hand. -/
  | receive
  /-- Giving up the receiving end, or the worker that has it. -/
  | dropReceiver
  /-- Handing the receiving end to a worker. -/
  | makeWorker
  /-- Draining the queue, some activities at most. -/
  | drain (limit : Nat)
  /-- Starting the worker, with or without an eye on shutdown. -/
  | run (untilShutdown : Bool)
  /-- Letting the worker that runs go on, for some activities at most. -/
  | poll (limit : Nat)
  /-- Asking for shutdown. -/
  | shutdown

/-- What a use comes to. -/
inductive Station.Answer where
  /-- There is nothing to do it with. -/
  | unavailable
  | done
  /-- The queue refuses. -/
  | refused (error : Error)
  /-- What was there to be received. -/
  | found (activity : Option Activity)
  /-- What a look has shown. -/
  | shown (reception : Reception)
  /-- How many activities were replayed. -/
  | drained (count : Nat)
  /-- Whether the worker has come to its end. -/
  | polled (finished : Bool)

/-- A queue, as a part of its world, and whoever has its receiving end. -/
structure Station (σ : Type) where
  /-- The world of the queue. -/
  world : World σ
  /-- Who has the receiving end, as long as that exists. -/
  receiver : Receiver
  /-- Whether shutdown was asked for. -/
  shutdown : Bool

namespace ReplayQueue

/-- Does something with one of the handles. -/
def handle (queue : ReplayQueue) : Handling → Except Error ReplayQueue
  | .submit activity => queue.submit activity
  | .addHandle => .ok (if queue.handles = 0 then queue else queue.addHandle)
  | .dropHandle => .ok queue.dropHandle

end ReplayQueue

namespace Station

variable {σ : Type}

/-- A new station, with one handle and the receiving end free. -/
def start (host : σ) : Station σ := ⟨.initial host, .free, false⟩

/-- The station with another queue. -/
def withQueue (station : Station σ) (queue : ReplayQueue) : Station σ :=
  { station with world := { station.world with queue := queue } }

/-- Gives up the receiving end. -/
def finish (station : Station σ) : Station σ := station.withQueue station.world.queue.dropReceiver

/-- Whether somebody has the receiving end. -/
def held (station : Station σ) (receiver : Receiver) : Bool :=
  station.world.queue.receiving && decide (station.receiver = receiver)

variable (services : Services σ) (process : TurnProcessor σ) (station : Station σ)

/-- Replays what waits, some activities at most; tells how many there were. -/
def replay (limit : Nat) : Nat × Station σ :=
  let (count, world) := Replay.drain services process limit station.world
  (count, { station with world := world })

/-- A worker that runs goes on: a shutdown that it minds ends it, else it replays what waits, and
ends once the queue is closed. -/
def goOn (untilShutdown : Bool) (limit : Nat) : Answer × Station σ :=
  if untilShutdown && station.shutdown then (.polled true, station.finish)
  else
    let (_, after) := station.replay services process limit
    match after.world.queue.receive.1 with
    | .closed => (.polled true, after.finish)
    | _ => (.polled false, after)

/-- Does something at a station. -/
def perform : Use → Answer × Station σ
  | .handle handling =>
      if station.world.queue.handles = 0 then (.unavailable, station)
      else
        match station.world.queue.handle handling with
        | .ok queue => (.done, station.withQueue queue)
        | .error error => (.refused error, station)
  | .tryReceive =>
      if station.held .free then
        match station.world.queue.take? with
        | some (activity, queue) => (.found (some activity), station.withQueue queue)
        | none => (.found none, station)
      else (.unavailable, station)
  | .receive =>
      if station.held .free then
        let (reception, queue) := station.world.queue.receive
        (.shown reception, station.withQueue queue)
      else (.unavailable, station)
  | .dropReceiver => (.done, station.finish)
  | .makeWorker =>
      if station.held .free then (.done, { station with receiver := .worker })
      else (.unavailable, station)
  | .drain limit =>
      if station.held .worker then
        let (count, after) := station.replay services process limit
        (.drained count, after)
      else (.unavailable, station)
  | .run untilShutdown =>
      if station.held .worker then
        (.done, { station with receiver := .running untilShutdown })
      else (.unavailable, station)
  | .poll limit =>
      match station.receiver with
      | .running untilShutdown =>
          if station.world.queue.receiving then station.goOn services process untilShutdown limit
          else (.unavailable, station)
      | _ => (.unavailable, station)
  | .shutdown => (.done, { station with shutdown := true })

/-- What everything that is done at a station makes of it. -/
def run (uses : List Use) : Station σ :=
  uses.foldl (fun station use => (station.perform services process use).2) station

end Station
end SignInFlow
