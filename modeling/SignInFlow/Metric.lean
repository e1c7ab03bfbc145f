import SignInFlow.Response

/-!
# Metrics

Each increment of a counter is one entry of a list, so a counter reads as the number of its entries.
-/

namespace SignInFlow

/-- A counter with its labels. -/
inductive Metric where
  /-- Flows that became pending when they were started. -/
  | started (handler : String)
  /-- Flows that gave a token. -/
  | completed (handler : String)
  /-- Flows that ended without a token. -/
  | failed (handler : String) (cause : Cause)
  /-- Activities handed to the replay queue. -/
  | submitted (handler : String)
  /-- Explicit sign-ins answered from the token cache. -/
  | cacheHit (handler : String)
deriving DecidableEq, Repr

namespace Metric

/-- The name of started flows. -/
def startedName : String := "signin_flows_started_total"

/-- The name of completed flows. -/
def completedName : String := "signin_flows_completed_total"

/-- The name of failed flows. -/
def failedName : String := "signin_flows_failed_total"

/-- The name of submitted continuations. -/
def submittedName : String := "signin_continuations_submitted_total"

/-- The name of cache hits. -/
def cacheHitName : String := "signin_cache_hits_total"

/-- The name of a counter. -/
def name : Metric → String
  | started _ => startedName
  | completed _ => completedName
  | failed _ _ => failedName
  | submitted _ => submittedName
  | cacheHit _ => cacheHitName

/-- The labels of a counter, as an object. -/
def labels : Metric → Json
  | started handler | completed handler | submitted handler | cacheHit handler =>
      .obj [("handler", .str handler)]
  | failed handler cause => .obj [("cause", .str cause.name), ("handler", .str handler)]

end Metric
end SignInFlow
