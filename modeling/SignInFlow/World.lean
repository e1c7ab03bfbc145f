import SignInFlow.Host
import SignInFlow.Metric
import SignInFlow.Replay.Queue
import SignInFlow.TokenCache

/-!
# The world

What lasts from turn to turn: the stored documents, the cached tokens, the metrics, the replay queue
and the state of the host.  An action changes the world and may fail; what it changed before it
failed stays changed.
-/

namespace SignInFlow

/-- What lasts from turn to turn. -/
structure World (σ : Type) where
  /-- The stored documents by key. -/
  documents : Dictionary Json
  /-- The tokens acquired so far. -/
  tokens : TokenCache
  /-- The increments of all counters. -/
  metrics : List Metric
  /-- The activities that wait to be replayed. -/
  queue : ReplayQueue
  /-- The state of the host. -/
  host : σ

/-- An effect on the world that may fail. -/
abbrev Action (σ α : Type) := EStateM Error (World σ) α

namespace World

variable {σ : Type}

/-- The world before the first turn, with a given host. -/
def initial (host : σ) : World σ := ⟨[], [], [], .new, host⟩

end World

namespace Action

variable {σ α : Type}

/-- A call of the host outside of any turn. -/
def ofHost (call : EStateM Error σ α) : Action σ α := fun world =>
  match call world.host with
  | .ok value host => .ok value { world with host := host }
  | .error error host => .error error { world with host := host }

/-- A change of the host's state. -/
def changeHost (change : σ → σ) : Action σ Unit :=
  modify fun world => { world with host := change world.host }

/-- Counts one event. -/
def count (metric : Metric) : Action σ Unit :=
  modify fun world => { world with metrics := world.metrics ++ [metric] }

/-- Queues an activity for replay: the host permits it, the queue accepts it, the host is told. -/
def submit (services : Services σ) (activity : Activity) : Action σ Unit := do
  ofHost (services.permit (.submit activity))
  let queue ← MonadExcept.ofExcept ((← get).queue.submit activity)
  modify fun world => { world with queue := queue }
  changeHost (services.note (.submit activity))

end Action
end SignInFlow
