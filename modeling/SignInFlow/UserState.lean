import SignInFlow.Storage

/-!
# The state of a user

The properties that are kept for the sender of an activity, loaded at the start of a turn and
written back when they have changed.  They are stored as one object under a key made of channel and
sender.
-/

namespace SignInFlow

/-- The key of the state of an activity's sender. -/
def Activity.userKey (activity : Activity) : Except Error String :=
  if activity.channel.isEmpty then .error (.invalidActivity "missing channel id")
  else if activity.sender.id.isEmpty then .error (.invalidActivity "missing sender id")
  else .ok (activity.channel ++ "/users/" ++ activity.sender.id)

/-- The properties of a user, as one turn sees them. -/
structure UserState where
  /-- The key they are stored under. -/
  key : String
  /-- The properties by name. -/
  properties : Dictionary Json
  /-- Whether they may differ from what is stored. -/
  dirty : Bool
deriving Repr

namespace UserState

variable {σ : Type}

/-- The properties that a document holds. -/
def propertiesOf (key : String) : Option Json → Except Error (Dictionary Json)
  | none => .ok []
  | some (.obj properties) => .ok properties
  | some other =>
      .error (.storageFailed
        ("user state under '" ++ key ++ "' is not an object: " ++ other.render))

/-- Loads the state of an activity's sender. -/
def load (services : Services σ) (activity : Activity) : Action σ UserState := do
  let key ← MonadExcept.ofExcept activity.userKey
  let found ← Storage.read services [key]
  let properties ← MonadExcept.ofExcept (propertiesOf key (List.lookup key found))
  pure ⟨key, properties, false⟩

/-- Reads a property, if it is there. -/
def read {α : Type} (state : UserState) (decode : Json → Decoded α) (name : String) :
    Except Error (Option α) :=
  match List.lookup name state.properties with
  | some value => (decode value).orError.map some
  | none => .ok none

/-- Whether a property is there. -/
def has (state : UserState) (name : String) : Bool := state.properties.has name

/-- Sets a property. -/
def set (state : UserState) (name : String) (value : Json) : UserState :=
  { state with properties := state.properties.put name value, dirty := true }

/-- Removes a property; nothing changes if it is not there. -/
def remove (state : UserState) (name : String) : UserState :=
  if state.has name then { state with properties := state.properties.drop name, dirty := true }
  else state

/-- Writes back what has changed.  A user without properties has no document. -/
def save (services : Services σ) (state : UserState) : Action σ UserState := do
  if state.dirty then
    if state.properties.isEmpty then Storage.delete services [state.key]
    else Storage.write services [(state.key, .obj state.properties)]
    pure { state with dirty := false }
  else pure state

end UserState
end SignInFlow
