import SignInFlow.Authenticator

/-!
# Signing out and resetting

A sign-out or a reset is for one handler or for all, one after the other.  After the dispatcher has
done its part, the token that is kept and the flow that the handler owns are forgotten together.
-/

namespace SignInFlow.Authenticator

variable {σ : Type} (auth : Authenticator σ) (services : Services σ)

/-- Forgets the user's token of a handler, and the user's flow if that handler owns it. -/
def forget (turn : Turn) (handler : String) : TurnAction σ Unit := do
  TurnAction.ofAction (modify fun world =>
    { world with tokens := world.tokens.remove turn.user handler })
  if (← TurnAction.flow).handler = some handler then TurnAction.persist services .idle

/-- Lets the dispatcher act on each handler in turn, and forgets what is kept for it. -/
def forgetEach (turn : Turn) (act : String → HostCall σ Unit) : List String → TurnAction σ Unit
  | [] => pure ()
  | handler :: rest => do
      TurnAction.ofHost (act handler)
      forget services turn handler
      forgetEach turn act rest

/-- Signs the user out of one handler, or of all. -/
def signOut (turn : Turn) (handler : Option String) : TurnAction σ Unit := do
  let targets ← MonadExcept.ofExcept (auth.targetHandlers handler)
  forgetEach services turn (auth.dispatcher.signOut turn) targets

/-- Resets the progress of one handler, or of all. -/
def reset (turn : Turn) (handler : Option String) : TurnAction σ Unit := do
  let targets ← MonadExcept.ofExcept (auth.targetHandlers handler)
  forgetEach services turn (auth.dispatcher.reset turn) targets

end SignInFlow.Authenticator
