import SignInFlow.Authenticator

/-!
# The gate

Every turn passes the gate before the application sees it.  The gate continues the user's flow, or
starts one if the policy says so, and answers whether the application is to go on with the turn. The
activity that starts a flow is banked, and replayed in a turn of its own once the flow is complete.
-/

namespace SignInFlow.Authenticator

variable {σ : Type} (auth : Authenticator σ) (services : Services σ)

/-- Whether the turn may pass without any flow. -/
def passes (turn : Turn) (flow : Flow) : TurnAction σ Bool := do
  if flow.isActive then pure false
  else pure !(← TurnAction.ofHost (auth.policy.shouldStart turn))

/-- The handler for the turn: the one of the flow in progress, or the one requested. -/
def handlerFor (flow : Flow) (requested : Option String) : Except Error String :=
  match flow with
  | .active handler _ => .ok handler
  | .idle => auth.requestedHandler requested

/-- The user has to do something: a new flow is kept with the activity of the turn, one in progress
stays as it is. -/
def suspend (turn : Turn) (flow : Flow) (handler : String) : TurnAction σ Unit := do
  if flow.isActive then pure ()
  else
    TurnAction.persist services (.active handler (some (.activity turn.activity)))
    TurnAction.count (.started handler)

/-- The flow has failed: an explicit sign-in hears of it through its completion event, queued before
the flow is cleared; an automatic one is cleared, and the failure reported. -/
def concludeFailure (turn : Turn) (flow : Flow) (handler : String) (response : Response) :
    TurnAction σ Unit := do
  TurnAction.count (.failed handler response.causeOrOther)
  match flow.banked with
  | some (.completion event) =>
      auth.redeliver services (event.withResult handler response)
      TurnAction.persist services .idle
  | banked =>
      TurnAction.persist services .idle
      auth.reportFailure services turn
        ⟨handler, response, (banked.map Banked.initiating).getD turn.activity⟩

/-- The flow has given a token: it is kept, and what was banked is queued before the flow is
cleared.  The turn goes on to the application if nothing else was banked than its own activity. -/
def concludeSuccess (turn : Turn) (flow : Flow) (handler : String) (response : Response) :
    TurnAction σ Bool := do
  discard (cacheToken turn handler response)
  TurnAction.count (.completed handler)
  let proceed ← match flow.banked with
    | some (.completion event) => do
        auth.redeliver services (event.withResult handler response)
        pure false
    | some (.activity trigger) =>
        if trigger == turn.activity then pure true
        else do
          submit services trigger handler
          pure false
    | none => pure true
  TurnAction.persist services .idle
  pure proceed

/-- Passes a turn through the gate; the answer is whether the application goes on with it. -/
def startOrContinue (turn : Turn) (requested : Option String) : TurnAction σ Bool := do
  TurnAction.ensureNotCancelled
  let flow ← TurnAction.flow
  if ← auth.passes turn flow then pure true
  else
    let handler ← MonadExcept.ofExcept (auth.handlerFor flow requested)
    let response ← auth.invoke turn ⟨handler, !flow.isActive, flow.exchange⟩
    match response.status with
    | .pending => do
        suspend services turn flow handler
        pure false
    | .error => do
        auth.concludeFailure services turn flow handler response
        pure false
    | .complete => auth.concludeSuccess services turn flow handler response

end SignInFlow.Authenticator
