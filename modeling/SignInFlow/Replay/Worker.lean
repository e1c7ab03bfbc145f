import SignInFlow.World

/-!
# Replaying

A worker takes activities off the queue and runs each as a turn of its own.  A turn that fails is
counted and stops nothing.  Turns may queue further activities, so how many are replayed is bounded
by the caller.
-/

namespace SignInFlow

/-- What processes the turn of a replayed activity. -/
abbrev TurnProcessor (σ : Type) := Turn → Action σ Unit

namespace Replay

variable {σ : Type} (services : Services σ) (process : TurnProcessor σ)

/-- Runs the turn of an activity taken off the queue, and counts how it ended. -/
def dispatch (activity : Activity) (world : World σ) : World σ :=
  let prepared := { world with host := services.openSender activity world.host }
  match process ⟨activity, true⟩ prepared with
  | .ok _ after => { after with queue := after.queue.settle true }
  | .error _ after => { after with queue := after.queue.settle false }

/-- Replays the oldest activity, if one waits. -/
def step (world : World σ) : Option (World σ) :=
  world.queue.take?.map fun (activity, rest) =>
    dispatch services process activity { world with queue := rest }

/-- Replays until nothing waits, `limit` activities at most; tells how many there were. -/
def drain : Nat → World σ → Nat × World σ
  | 0, world => (0, world)
  | limit + 1, world =>
      match step services process world with
      | none => (0, world)
      | some after =>
          let (replayed, final) := drain limit after
          (replayed + 1, final)

/-- Enough replays to empty the queue when a turn clears a flow for everything it queues: two for
each activity that waits, and one for each user with a document. -/
def bound (world : World σ) : Nat := 2 * world.queue.waiting.length + world.documents.length

end Replay
end SignInFlow
