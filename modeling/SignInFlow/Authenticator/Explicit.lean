import SignInFlow.Authenticator

/-!
# Explicit sign-in and its completion

An application asks for a sign-in by name.  If it stays pending, a completion event is banked in
place of the user's message, and the outcome comes back later as a replayed event, which only the
replay queue can deliver.
-/

namespace SignInFlow.Authenticator

variable {σ : Type} (auth : Authenticator σ) (services : Services σ)

/-- The user has to do something: the flow is kept with a completion event. -/
def bankCompletion (turn : Turn) (handler : String) (exchange : Option Exchange) :
    TurnAction σ Unit := do
  TurnAction.persist services
    (.active handler (some (.completion (.start handler exchange turn.activity))))
  TurnAction.count (.started handler)

/-- The sign-in has failed at once: the callback hears of it, or else the caller. -/
def refuse (turn : Turn) (handler : String) (response : Response) : TurnAction σ Unit := do
  TurnAction.count (.failed handler response.causeOrOther)
  match auth.onFailure with
  | some callback => TurnAction.ofHost (callback turn ⟨handler, response, turn.activity⟩)
  | none => throw (.signInFailed handler response.causeOrOther (response.error.getD ""))

/-- The sign-in has given a token at once. -/
def accept (turn : Turn) (handler : String) (response : Response) : TurnAction σ Unit := do
  let token ← cacheToken turn handler response
  TurnAction.count (.completed handler)
  auth.reportSuccess turn ⟨handler, token, turn.activity⟩

/-- Signs in with a handler, unless a flow is active.  A token that is kept answers at once. -/
def signIn (turn : Turn) (handler : String) (exchange : Option Exchange) : TurnAction σ Unit := do
  TurnAction.ensureNotCancelled
  match ← TurnAction.flow with
  | .active owner _ => throw (.alreadyActive owner handler)
  | .idle =>
      if !auth.dispatcher.contains handler then throw (.handlerNotFound handler)
      match cachedToken (← get).world turn handler with
      | some token =>
          TurnAction.count (.cacheHit handler)
          auth.reportSuccess turn ⟨handler, token, turn.activity⟩
      | none =>
          let response ← auth.invoke turn ⟨handler, true, exchange⟩
          match response.status with
          | .pending => bankCompletion services turn handler exchange
          | .error => auth.refuse turn handler response
          | .complete => auth.accept turn handler response

/-- The completion event that an activity carries. -/
def completionOf (activity : Activity) : Except Error Completion :=
  match activity.value with
  | none => .error (.invalidCompletion "event has no value")
  | some payload =>
      (Completion.ofJson payload).mapError fun mismatch => .invalidCompletion mismatch.message

/-- Reports the outcome that a replayed completion event carries; it touches neither the token cache
nor any flow. -/
def handleCompletion (turn : Turn) : TurnAction σ Unit := do
  if !turn.redelivered then
    throw (.invalidCompletion "completion event did not arrive through continuation delivery")
  let event ← MonadExcept.ofExcept (completionOf turn.activity)
  match event.response with
  | none => throw (.invalidCompletion "event carries no response")
  | some response =>
      match response.status with
      | .complete =>
          auth.reportSuccess turn ⟨event.handler, response.token.getD "", event.initiating⟩
      | .error => auth.reportFailure services turn ⟨event.handler, response, event.initiating⟩
      | .pending =>
          throw (.invalidCompletion ("flow for '" ++ event.handler ++ "' has not concluded"))

end SignInFlow.Authenticator
