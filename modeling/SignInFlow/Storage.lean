import SignInFlow.World

/-!
# Document storage

Documents are JSON values under keys.  A refused access changes no document.
-/

namespace SignInFlow.Storage

variable {σ : Type}

/-- The documents that exist under some keys. -/
def select (documents : Dictionary Json) (keys : List String) : Dictionary Json :=
  .ofEntries (keys.filterMap fun key =>
    (List.lookup key documents).map fun document => (key, document))

/-- Reads the documents under some keys; a missing one is missing in the result. -/
def read (services : Services σ) (keys : List String) : Action σ (Dictionary Json) := do
  Action.ofHost (services.permit (.read keys))
  let found := select (← get).documents keys
  Action.changeHost (services.note (.read keys))
  pure found

/-- Writes documents, in place of those under the same keys. -/
def write (services : Services σ) (changes : Dictionary Json) : Action σ Unit := do
  Action.ofHost (services.permit (.write changes))
  modify fun world => { world with
    documents :=
      changes.foldl (fun documents change => documents.put change.1 change.2) world.documents }
  Action.changeHost (services.note (.write changes))

/-- Deletes the documents under some keys; it does not matter whether they exist. -/
def delete (services : Services σ) (keys : List String) : Action σ Unit := do
  Action.ofHost (services.permit (.delete keys))
  modify fun world => { world with
    documents := keys.foldl (fun documents key => documents.drop key) world.documents }
  Action.changeHost (services.note (.delete keys))

end SignInFlow.Storage
