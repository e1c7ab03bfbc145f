import SignInFlow.Response

/-!
# Errors

A pending sign-in is no error, and a handler that fails is answered by a response; what is left are
faults of the wiring, of the collaborators and of the data, and a second flow of one user.
-/

namespace SignInFlow

/-- What an operation may fail with. -/
inductive Error where
  /-- A second flow was asked for while one is in progress. -/
  | alreadyActive (active requested : String)
  /-- No handler has the name. -/
  | handlerNotFound (name : String)
  /-- A collaborator was not supplied. -/
  | missingDependency (what : String)
  /-- A registry was to be made of no handlers. -/
  | noHandlers
  /-- An explicit sign-in failed, and nobody is registered to hear of it. -/
  | signInFailed (handler : String) (cause : Cause) (detail : String)
  /-- The activity says too little about its user. -/
  | invalidActivity (reason : String)
  /-- A completion event is not acceptable. -/
  | invalidCompletion (reason : String)
  /-- The document store failed. -/
  | storageFailed (reason : String)
  /-- An activity could not be queued or sent. -/
  | deliveryFailed (reason : String)
  /-- A handler or the application failed. -/
  | handlerFailed (reason : String)
  /-- The settings or the wiring are not acceptable. -/
  | configuration (reason : String)
  /-- A JSON value does not decode. -/
  | serialization (mismatch : Mismatch)
  /-- The turn was cancelled before the operation could run. -/
  | cancelled
deriving Repr, Inhabited

namespace Error

/-- The text of an error. -/
def message : Error → String
  | alreadyActive active requested =>
      "Sign-in flow for '" ++ active ++ "' is already active (requested '" ++ requested ++ "')"
  | handlerNotFound name => "Authentication handler not found: " ++ name
  | missingDependency what => "Missing dependency: " ++ what
  | noHandlers => "No authentication handlers registered"
  | signInFailed handler cause detail =>
      "Sign in for '" ++ handler ++ "' failed (" ++ cause.name ++ "): " ++ detail
  | invalidActivity reason => "Invalid activity: " ++ reason
  | invalidCompletion reason => "Invalid sign-in completion event: " ++ reason
  | storageFailed reason => "Storage error: " ++ reason
  | deliveryFailed reason => "Continuation delivery error: " ++ reason
  | handlerFailed reason => "Handler error: " ++ reason
  | configuration reason => "Configuration error: " ++ reason
  | serialization mismatch => "Serialization error: " ++ mismatch.message
  | cancelled => "Turn cancelled"

/-- Errors of the wiring, after which there is nothing to run. -/
def isConfiguration : Error → Bool
  | handlerNotFound _ | missingDependency _ | noHandlers | configuration _ => true
  | _ => false

/-- Errors that tell the outcome of a flow. -/
def isFlow : Error → Bool
  | alreadyActive _ _ | signInFailed _ _ _ => true
  | _ => false

end Error

/-- What decodes, with a mismatch as an error. -/
def Decoded.orError {α : Type} (decoded : Decoded α) : Except Error α :=
  decoded.mapError .serialization

end SignInFlow
