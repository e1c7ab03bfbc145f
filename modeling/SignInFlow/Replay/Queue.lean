import SignInFlow.Activity
import SignInFlow.Error

/-!
# The replay queue

Activities that wait to be processed as turns of their own, in the order in which they were
accepted, and a tally of what became of them.  Submitting needs the receiving end; receiving is over
once every handle to submit with is gone and nothing waits.
-/

namespace SignInFlow

/-- How many activities were accepted, and how their turns ended. -/
structure ReplayTally where
  /-- Activities accepted. -/
  submitted : Nat
  /-- Turns that succeeded. -/
  processed : Nat
  /-- Turns that failed. -/
  failed : Nat
deriving DecidableEq, Repr

/-- The activities that wait to be replayed. -/
structure ReplayQueue where
  /-- What waits, the oldest first. -/
  waiting : List Activity
  /-- What has become of the activities so far. -/
  tally : ReplayTally
  /-- Whether the receiving end still exists. -/
  receiving : Bool
  /-- How many handles to submit with exist. -/
  handles : Nat
deriving Repr

/-- What one look at the receiving end shows. -/
inductive Reception where
  /-- The oldest activity that waits. -/
  | received (activity : Activity)
  /-- Nothing waits, and something may still come. -/
  | waiting
  /-- Nothing waits, and nothing can come any more. -/
  | closed
deriving Repr

namespace ReplayQueue

/-- A new queue with one handle. -/
def new : ReplayQueue := ⟨[], ⟨0, 0, 0⟩, true, 1⟩

/-- Queues an activity, unless there is no receiving end. -/
def submit (queue : ReplayQueue) (activity : Activity) : Except Error ReplayQueue :=
  if queue.receiving then
    .ok { queue with
      waiting := queue.waiting ++ [activity]
      tally := { queue.tally with submitted := queue.tally.submitted + 1 } }
  else .error (.deliveryFailed "continuation receiver dropped")

/-- Takes the oldest activity, if one waits. -/
def take? (queue : ReplayQueue) : Option (Activity × ReplayQueue) :=
  match queue.waiting with
  | [] => none
  | activity :: rest => some (activity, { queue with waiting := rest })

/-- One look at the receiving end, which takes what it shows. -/
def receive (queue : ReplayQueue) : Reception × ReplayQueue :=
  match queue.take? with
  | some (activity, rest) => (.received activity, rest)
  | none => (if queue.handles = 0 then .closed else .waiting, queue)

/-- Makes one more handle. -/
def addHandle (queue : ReplayQueue) : ReplayQueue := { queue with handles := queue.handles + 1 }

/-- Gives up one handle. -/
def dropHandle (queue : ReplayQueue) : ReplayQueue := { queue with handles := queue.handles - 1 }

/-- Gives up the receiving end, and with it all that waits. -/
def dropReceiver (queue : ReplayQueue) : ReplayQueue :=
  { queue with waiting := [], receiving := false }

/-- Counts a turn that has ended. -/
def settle (queue : ReplayQueue) (succeeded : Bool) : ReplayQueue :=
  { queue with tally :=
    if succeeded then { queue.tally with processed := queue.tally.processed + 1 }
    else { queue.tally with failed := queue.tally.failed + 1 } }

end ReplayQueue
end SignInFlow
