import SignInFlow.Proofs.Erasure
import SignInFlow.Proofs.Turns

/-!
# Sessions

The turns of several users, and of one user, may overlap: each has loaded its own state and makes
its calls when it comes to them.  A call sees the documents as the others have left them and the
state as its own turn knows it.
-/

namespace SignInFlow

variable {σ : Type}

/-- The world with an empty record. -/
def World.blank (world : World σ) : World (Recorded σ) where
  documents := world.documents
  tokens := world.tokens
  metrics := world.metrics
  queue := world.queue
  host := ⟨world.host, []⟩

/-- The scope with an empty record. -/
def Scope.blank (scope : Scope σ) : Scope (Recorded σ) where
  world := scope.world.blank
  state := scope.state
  cancelled := scope.cancelled

/-- What an action comes to can be told from what it comes to with a record. -/
theorem Mirrors.of_ok {α : Type} {action : TurnAction (Recorded σ) α} {plain : TurnAction σ α}
    (mirrors : Mirrors Scope.erase action plain) {scope after : Scope σ} {value : α}
    (succeeds : plain scope = .ok value after) :
    ∃ left, action scope.blank = .ok value left ∧ left.erase = after := by
  have same : plain scope = seenAs Scope.erase (action scope.blank) := mirrors scope.blank
  rw [succeeds] at same
  cases result : action scope.blank with
  | error error left =>
      rw [result] at same
      cases same
  | ok other left =>
      rw [result] at same
      cases same
      exact ⟨left, rfl, rfl⟩

theorem Mirrors.of_error {α : Type} {action : TurnAction (Recorded σ) α} {plain : TurnAction σ α}
    (mirrors : Mirrors Scope.erase action plain) {scope after : Scope σ} {error : Error}
    (fails : plain scope = .error error after) :
    ∃ left, action scope.blank = .error error left ∧ left.erase = after := by
  have same : plain scope = seenAs Scope.erase (action scope.blank) := mirrors scope.blank
  rw [fails] at same
  cases result : action scope.blank with
  | ok value left =>
      rw [result] at same
      cases same
  | error other left =>
      rw [result] at same
      cases same
      exact ⟨left, rfl, rfl⟩

theorem Mirrors.remains_eq {α : Type} {action : TurnAction (Recorded σ) α} {plain : TurnAction σ α}
    (mirrors : Mirrors Scope.erase action plain) (scope : Scope σ) :
    remains (plain scope) = (remains (action scope.blank)).erase := by
  have same : plain scope = seenAs Scope.erase (action scope.blank) := mirrors scope.blank
  rw [same]
  cases action scope.blank <;> rfl

theorem Mirrors.told_eq {α : Type} {action : TurnAction (Recorded σ) α} {plain : TurnAction σ α}
    (mirrors : Mirrors Scope.erase action plain) (scope : Scope σ) :
    told (plain scope) = told (action scope.blank) := by
  have same : plain scope = seenAs Scope.erase (action scope.blank) := mirrors scope.blank
  rw [same]
  cases action scope.blank <;> rfl

/-- Loading the state of a user changes the host alone. -/
theorem ends_loadAlone (services : Services σ) (activity : Activity) (world : World σ) :
    Ends (UserState.load services activity) world
      (fun _ after => ∃ host, after = { world with host := host })
      (fun _ after => ∃ host, after = { world with host := host }) := by
  simp only [UserState.load, Storage.read, ends_bind, ends_ofExcept, ends_get, ends_pure,
    Action.ends_changeHost, Action.ends_ofHost]
  refine ⟨fun key keyed => ?_, fun _ _ => ⟨world.host, rfl⟩⟩
  unfold Ends
  cases services.permit (.read [key]) world.host with
  | ok _ host => exact ⟨fun _ _ => ⟨_, rfl⟩, fun _ _ => ⟨_, rfl⟩⟩
  | error error host => exact ⟨host, rfl⟩

/-- A turn that loads its user's state loads what is stored for it, and changes no document. -/
theorem ends_loadStored (services : Services σ) (activity : Activity) (world : World σ) :
    Ends (UserState.load services activity) world
      (fun state after => activity.userKey = .ok state.key ∧
        UserState.propertiesOf state.key (List.lookup state.key world.documents) =
          .ok state.properties ∧
          after.documents = world.documents)
      (fun _ after => after.documents = world.documents) := by
  have ends : Ends (UserState.load (services.recorded ⟨activity, false⟩) activity)
      world.blank _ _ :=
    ends_load services ⟨activity, false⟩
  have same : UserState.load services activity world =
      seenAs World.erase
        (UserState.load (services.recorded ⟨activity, false⟩) activity world.blank) :=
    mirrors_load services ⟨activity, false⟩ activity world.blank
  unfold Ends
  rw [same]
  cases result : UserState.load (services.recorded ⟨activity, false⟩) activity world.blank with
  | ok state after =>
      have loads := ends.of_ok result
      exact ⟨loads.keyed, loads.stored, congrArg Standing.documents loads.standing⟩
  | error error after =>
      rcases ends.of_error result with standing | ⟨access, standing⟩ | ⟨key, -, standing⟩
      · exact congrArg Standing.documents standing
      · exact congrArg Standing.documents standing
      · exact congrArg Standing.documents standing

/-- One call of an authenticator within a turn. -/
inductive Call (σ : Type) : Type 1 where
  /-- Passing the gate. -/
  | gate (handler : Option String)
  /-- What an application does: signing in and out, resetting, and what is none of the flow. -/
  | conduct (conduct : Conduct σ)
  /-- Reporting a replayed completion event. -/
  | completion

namespace Call

/-- Carries out a call. -/
def perform (auth : Authenticator σ) (services : Services σ) (turn : Turn) :
    Call σ → TurnAction σ Unit
  | gate handler => do
      let _ ← auth.startOrContinue services turn handler
      pure ()
  | conduct asked => asked.perform auth services turn
  | completion => auth.handleCompletion services turn

/-- Carries out a call before a recorded host. -/
def performRecorded (auth : Authenticator σ) (services : Services σ) (turn : Turn) :
    Call σ → TurnAction (Recorded σ) Unit
  | gate handler => do
      if ← (auth.recorded .gate).startOrContinue (services.recorded turn) turn handler then
        TurnAction.noteAdmitted turn
  | conduct asked =>
      asked.recorded.perform (auth.recorded .application) (services.recorded turn) turn
  | completion => (auth.recorded .gate).handleCompletion (services.recorded turn) turn

theorem mirrors_perform (auth : Authenticator σ) (services : Services σ) (turn : Turn)
    (call : Call σ) :
    Mirrors Scope.erase (call.performRecorded auth services turn)
      (call.perform auth services turn) := by
  cases call with
  | gate handler =>
      refine (Authenticator.mirrors_startOrContinue auth services turn .gate handler).bind
          fun passes => ?_
      cases passes with
      | true => exact TurnAction.mirrors_noteAdmitted turn
      | false => exact mirrors_pure ()
  | conduct asked => exact SignInFlow.mirrors_perform auth services turn asked
  | completion => exact Authenticator.mirrors_handleCompletion auth services turn .gate

/-- What a call comes down to: steps, or a report of the completion route. -/
def Comes (auth : Authenticator σ) (turn : Turn) (view after : View) : Prop :=
  auth.Reaches turn view after ∨ auth.Completes turn view after

theorem adds_of_comes {auth : Authenticator σ} {turn : Turn} {view after : View}
    (comes : Comes auth turn view after) : Adds turn view.log after.log := by
  rcases comes with reaches | completes
  · exact View.adds_of_reaches turn reaches
  · exact View.adds_of_completes turn completes

theorem ends_performRecorded (auth : Authenticator σ) (services : Services σ) (turn : Turn)
    (call : Call σ) {scope : Scope (Recorded σ)} :
    Ends (call.performRecorded auth services turn) scope
      (fun _ after => Comes auth turn scope.view after.view)
      (fun _ after => Comes auth turn scope.view after.view) := by
  cases call with
  | gate handler =>
      rw [performRecorded, ends_bind]
      refine (Authenticator.ends_startOrContinue auth services turn handler).mono ?_
        (fun _ _ => .inl)
      intro passes after reached
      cases passes with
      | true => exact .inl reached
      | false => exact .inl reached
  | conduct asked =>
      exact (Authenticator.moves_perform auth services turn asked scope).mono
        (fun _ _ => .inl) (fun _ _ => .inl)
  | completion =>
      exact (Authenticator.ends_handleCompletion auth services turn).mono
        (fun _ _ => .inr) (fun _ _ => .inr)

/-- What a call leaves in the view of its turn is what it comes down to. -/
theorem comes_performRecorded (auth : Authenticator σ) (services : Services σ) (turn : Turn)
    (call : Call σ) (scope : Scope (Recorded σ)) :
    Comes auth turn scope.view (remains (call.performRecorded auth services turn scope)).view :=
  Ends.left (ends_performRecorded auth services turn call)

/-- What a call leaves without a record is what it comes down to. -/
theorem comes_of_perform (auth : Authenticator σ) (services : Services σ) (turn : Turn)
    (call : Call σ) (scope : Scope σ) :
    ∃ view after : View, view.documents = scope.world.documents ∧
      view.state = scope.state ∧ Comes auth turn view after ∧
      (remains (call.perform auth services turn scope)).world.documents = after.documents ∧
      (remains (call.perform auth services turn scope)).state = after.state := by
  let start : Scope (Recorded σ) := ⟨scope.world.blank, scope.state, scope.cancelled⟩
  have same : call.perform auth services turn scope =
      seenAs Scope.erase (call.performRecorded auth services turn start) :=
    mirrors_perform auth services turn call start
  refine ⟨start.view, _, rfl, rfl, comes_performRecorded auth services turn call start, ?_, ?_⟩
  · rw [same]
    cases call.performRecorded auth services turn start <;> rfl
  · rw [same]
    cases call.performRecorded auth services turn start <;> rfl

end Call

/-- A turn in progress. -/
structure Session where
  /-- The turn. -/
  turn : Turn
  /-- The user's state as the turn knows it. -/
  state : UserState
  /-- Whether the turn is cancelled. -/
  cancelled : Bool

/-- A world with the turns in progress. -/
structure Sessions (σ : Type) where
  /-- What lasts beyond the turns. -/
  world : World σ
  /-- The turns, in the order in which they began. -/
  turns : List Session

/-- What happens next among the turns in progress. -/
inductive Command (σ : Type) : Type 1 where
  /-- A turn begins, and loads the state of its user. -/
  | begin (turn : Turn) (cancelled : Bool)
  /-- One of the turns makes a call. -/
  | call (index : Nat) (call : Call σ)
  /-- All but the documents changes: the queue is drained or gone, tokens go, the host moves on. -/
  | elsewhere (tokens : TokenCache) (queue : ReplayQueue) (host : σ)

namespace Sessions

/-- Carries out what happens next. -/
def advance (auth : Authenticator σ) (services : Services σ) (sessions : Sessions σ) :
    Command σ → Sessions σ
  | .begin turn cancelled =>
      match UserState.load services turn.activity sessions.world with
      | .ok state world => ⟨world, sessions.turns ++ [⟨turn, state, cancelled⟩]⟩
      | .error _ world => { sessions with world := world }
  | .call index call =>
      match sessions.turns[index]? with
      | none => sessions
      | some session =>
          let scope := remains (call.perform auth services session.turn
            ⟨sessions.world, session.state, session.cancelled⟩)
          ⟨scope.world, sessions.turns.set index ⟨session.turn, scope.state, scope.cancelled⟩⟩
  | .elsewhere tokens queue host =>
      { sessions with
          world := { sessions.world with tokens := tokens, queue := queue, host := host } }

/-- What becomes of the turns and the world. -/
def run (auth : Authenticator σ) (services : Services σ) (sessions : Sessions σ)
    (commands : List (Command σ)) : Sessions σ :=
  commands.foldl (advance auth services) sessions

/-! ### Before a recorded host -/

/-- The turns in progress, without the record. -/
def erase (sessions : Sessions (Recorded σ)) : Sessions σ :=
  ⟨sessions.world.erase, sessions.turns⟩

/-- Carries out what happens next, before a recorded host. -/
def advanceRecorded (auth : Authenticator σ) (services : Services σ)
    (sessions : Sessions (Recorded σ)) : Command σ → Sessions (Recorded σ)
  | .begin turn cancelled =>
      match UserState.load (services.recorded turn) turn.activity sessions.world with
      | .ok state world => ⟨world, sessions.turns ++ [⟨turn, state, cancelled⟩]⟩
      | .error _ world => { sessions with world := world }
  | .call index call =>
      match sessions.turns[index]? with
      | none => sessions
      | some session =>
          let scope := remains (call.performRecorded auth services session.turn
            ⟨sessions.world, session.state, session.cancelled⟩)
          ⟨scope.world, sessions.turns.set index ⟨session.turn, scope.state, scope.cancelled⟩⟩
  | .elsewhere tokens queue host =>
      { sessions with
          world := { sessions.world with
            tokens := tokens, queue := queue, host := { sessions.world.host with host := host } } }

/-- What becomes of the turns and the world, before a recorded host. -/
def runRecorded (auth : Authenticator σ) (services : Services σ) (sessions : Sessions (Recorded σ))
    (commands : List (Command σ)) : Sessions (Recorded σ) :=
  commands.foldl (advanceRecorded auth services) sessions

variable (auth : Authenticator σ) (services : Services σ)

theorem erase_advanceRecorded (sessions : Sessions (Recorded σ)) (command : Command σ) :
    (sessions.advanceRecorded auth services command).erase =
      sessions.erase.advance auth services command := by
  cases command with
  | elsewhere tokens queue host => rfl
  | begin turn cancelled =>
      have same : UserState.load services turn.activity sessions.world.erase =
          seenAs World.erase (UserState.load (services.recorded turn) turn.activity
            sessions.world) := mirrors_load services turn turn.activity sessions.world
      simp only [advanceRecorded, advance, erase]
      rw [same]
      cases UserState.load (services.recorded turn) turn.activity sessions.world <;> rfl
  | call index call =>
      simp only [advanceRecorded, advance, erase]
      cases sessions.turns[index]? with
      | none => rfl
      | some session =>
          have same : call.perform auth services session.turn
              ⟨sessions.world.erase, session.state, session.cancelled⟩ =
              seenAs Scope.erase (call.performRecorded auth services session.turn
                ⟨sessions.world, session.state, session.cancelled⟩) :=
            call.mirrors_perform auth services session.turn
              ⟨sessions.world, session.state, session.cancelled⟩
          simp only [same]
          cases call.performRecorded auth services session.turn
            ⟨sessions.world, session.state, session.cancelled⟩ <;> rfl

theorem erase_runRecorded (sessions : Sessions (Recorded σ)) (commands : List (Command σ)) :
    (sessions.runRecorded auth services commands).erase =
      sessions.erase.run auth services commands := by
  induction commands generalizing sessions with
  | nil => rfl
  | cons command rest ih =>
      simp only [runRecorded, run, List.foldl_cons] at ih ⊢
      rw [ih, erase_advanceRecorded]

end Sessions
end SignInFlow
