import SignInFlow.Host

/-!
# The registry of handlers

Handlers by name, in the order in which they were registered, one of which is the default: the one
that is configured, which must be registered, or else the first.
-/

namespace SignInFlow

/-- The default among registered names. -/
def defaultName (registered : List String) : Option String → Except Error String
  | some name => if name ∈ registered then .ok name else .error (.handlerNotFound name)
  | none =>
      match registered with
      | first :: _ => .ok first
      | [] => .error .noHandlers

/-- The first name that is already among those before it. -/
def firstRepeated (seen : List String) : List String → Option String
  | [] => none
  | name :: rest => if name ∈ seen then some name else firstRepeated (name :: seen) rest

/-- Handlers with pairwise different names. -/
structure Registry (σ : Type) where
  /-- The handlers, in the order of registration. -/
  handlers : List (Handler σ)
  /-- The name of the default handler. -/
  default : String

namespace Registry

variable {σ : Type}

/-- Makes a registry; a repeated name is reported before a default that is not registered. -/
def ofHandlers (handlers : List (Handler σ)) (configured : Option String) :
    Except Error (Registry σ) := do
  let names := handlers.map Handler.name
  match firstRepeated [] names with
  | some name =>
      .error (.configuration ("authentication handler '" ++ name ++ "' registered twice"))
  | none => pure ⟨handlers, ← defaultName names configured⟩

/-- The registered names, in order. -/
def names (registry : Registry σ) : List String := registry.handlers.map Handler.name

/-- Whether a name is registered. -/
def contains (registry : Registry σ) (name : String) : Bool :=
  registry.handlers.any fun handler => handler.name == name

/-- The handler of a name. -/
def resolve (registry : Registry σ) (name : String) : Except Error (Handler σ) :=
  match registry.handlers.find? fun handler => handler.name == name with
  | some handler => .ok handler
  | none => .error (.handlerNotFound name)

theorem contains_iff {registry : Registry σ} {name : String} :
    registry.contains name = true ↔ name ∈ registry.names := by
  simp [contains, names]

/-- A registered name is that of a handler. -/
theorem resolve_of_mem {registry : Registry σ} {name : String} (member : name ∈ registry.names) :
    ∃ handler ∈ registry.handlers, handler.name = name ∧ registry.resolve name = .ok handler := by
  obtain ⟨registered, among, named⟩ := List.mem_map.mp member
  cases found : registry.handlers.find? fun handler => handler.name == name with
  | none =>
      have absent := List.find?_eq_none.mp found registered among
      exact absurd (beq_iff_eq.mpr named) absent
  | some handler =>
      have same : (handler.name == name) = true :=
        List.find?_some (p := fun other : Handler σ => other.name == name) found
      exact ⟨handler, List.mem_of_find?_eq_some found, beq_iff_eq.mp same,
        by simp only [resolve, found]⟩

/-- The default handler. -/
def defaultHandler? (registry : Registry σ) : Option (Handler σ) :=
  (registry.handlers.find? fun handler => handler.name == registry.default).or
    registry.handlers.head?

/-- Calls a handler.  Any failure but cancellation becomes a response that tells of it. -/
def signIn (registry : Registry σ) (turn : Turn) (request : Request) : HostCall σ Response := do
  let handler ← MonadExcept.ofExcept (registry.resolve request.handler)
  try handler.signIn turn request
  catch
    | .cancelled => throw .cancelled
    | error => pure (.failed .other error.message)

/-- Signs the user out of a handler. -/
def signOut (registry : Registry σ) (turn : Turn) (name : String) : HostCall σ Unit := do
  (← MonadExcept.ofExcept (registry.resolve name)).signOut turn

/-- Resets the progress of a handler. -/
def reset (registry : Registry σ) (turn : Turn) (name : String) : HostCall σ Unit := do
  (← MonadExcept.ofExcept (registry.resolve name)).reset turn

/-- The registry as a dispatcher. -/
def toDispatcher (registry : Registry σ) : Dispatcher σ where
  defaultName := registry.default
  names := registry.names
  contains := registry.contains
  signIn := registry.signIn
  signOut := registry.signOut
  reset := registry.reset

end Registry
end SignInFlow
