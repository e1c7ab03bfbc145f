import SignInFlow.Proofs.Draining
import SignInFlow.Proofs.Outlets
import SignInFlow.Registry

/-!
# What a handler's answer makes of a flow

A registry turns every failure of a handler but a cancellation into a response, so that the gate
always learns how a flow stands.  Where storage works and the queue accepts, the flow that is stored
after the gate follows from the one before and from what the handler itself came to, whoever else
fails on the way.
-/

namespace SignInFlow

variable {σ τ α : Type}

/-! ## Handlers of a registry -/

namespace Registry

/-- What a registry makes of the outcome of a handler. -/
def converted : Except Error Response → Except Error Response
  | .ok response => .ok response
  | .error .cancelled => .error .cancelled
  | .error error => .ok (.failed .other error.message)

theorem cancelled_of_converted {verdict : Except Error Response} {error : Error}
    (failed : converted verdict = .error error) : error = .cancelled := by
  rcases verdict with other | response
  · cases other <;> cases failed
    rfl
  · cases failed

/-- A registry asks a handler, and tells no failure of it but a cancellation. -/
theorem told_signIn_of_resolve {registry : Registry σ} {handler : Handler σ} {request : Request}
    (resolved : registry.resolve request.handler = .ok handler) (turn : Turn) (visit : Visit σ) :
    told (registry.signIn turn request visit) =
      converted (told (handler.signIn turn request visit)) := by
  change told (EStateM.bind (MonadExcept.ofExcept (registry.resolve request.handler)) _ visit) = _
  rw [resolved]
  change told (EStateM.tryCatch (handler.signIn turn request) _ visit) = _
  unfold EStateM.tryCatch
  cases handler.signIn turn request visit with
  | ok response left => rfl
  | error error left => cases error <;> rfl

end Registry

/-! ## The flow that is stored -/

/-- The flow that follows from what its handler has come to: a pending one stays or begins, and
cancellation alone keeps one that no response was given for. -/
def Flow.upon (flow : Flow) (turn : Turn) (handler : String) : Except Error Response → Flow
  | .ok response =>
      if response.status = .pending then
        match flow with
        | .idle => .active handler (some (.activity turn.activity.settled))
        | .active _ _ => flow
      else .idle
  | .error .cancelled => flow
  | .error _ => .idle

/-- Nothing but pending and cancellation leaves a flow, and cancellation begins none. -/
theorem Flow.isActive_upon (flow : Flow) (turn : Turn) (handler : String)
    (verdict : Except Error Response) :
    (flow.upon turn handler verdict).isActive = true ↔
      (∃ response, verdict = .ok response ∧ response.status = .pending) ∨
        flow.isActive = true ∧ verdict = .error .cancelled := by
  cases verdict with
  | ok response =>
      by_cases pending : response.status = .pending
      · cases flow <;> simp [upon, pending, isActive]
      · simp [upon, pending, isActive]
  | error error => cases error <;> simp [upon, isActive]

/-- What a registry makes of an outcome comes to the same flow. -/
theorem Flow.upon_converted (flow : Flow) (turn : Turn) (handler : String)
    (verdict : Except Error Response) :
    flow.upon turn handler (Registry.converted verdict) = flow.upon turn handler verdict := by
  rcases verdict with error | response
  · cases error <;> rfl
  · rfl

/-- The queue accepts whatever is submitted. -/
structure Services.Accepts (services : Services σ) (queue : ReplayQueue) : Prop where
  permits : ∀ activity host, ∃ left, services.permit (.submit activity) host = .ok () left
  receiving : queue.receiving = true

section

variable {auth : Authenticator σ} {services : Services σ} {turn : Turn} {flow : Flow}
  {handler : String} {response : Response} {view after : View}

theorem Response.effective_pending : response.effective.status = .pending ↔
    response.status = .pending := by
  unfold effective
  split
  · rename_i tokenless
    simp [Response.failed, tokenless.1]
  · exact Iff.rfl

theorem Services.Accepts.permitted (accepts : services.Accepts view.queue) {activity : Activity}
    {error : Error} : ¬ services.Refuses (.submit activity) error := by
  rintro ⟨host, left, refused⟩
  obtain ⟨_, permitted⟩ := accepts.permits activity host
  cases refused.symm.trans permitted

theorem Services.Accepts.accepted (accepts : services.Accepts view.queue) {activity : Activity}
    {error : Error} : view.queue.submit activity ≠ .error error := by
  simp [ReplayQueue.submit, accepts.receiving]

namespace Authenticator

/-- A cleared flow is not stored, whether or not there was one. -/
theorem stored_cleared {before : View} (loaded : Flow.load before.state = .ok flow)
    (stored : Flow.stored before.documents before.state.key = .ok flow)
    (state : view.state = before.state) (documents : view.documents = before.documents) :
    Flow.stored ((view.hold .idle).saved turn).documents before.state.key = .ok .idle := by
  rcases cleared_of_kept turn loaded state documents with cleared | ⟨rfl, -, same⟩
  · exact cleared
  · rw [same]
    exact stored

/-- Where storage works and the queue accepts, the flow that is stored follows from the answer of
the handler. -/
theorem Settles.stored {before : View} {answer : Response} {outcome : Except Error Bool}
    (stores : services.Stores) (accepts : services.Accepts before.queue)
    (loaded : Flow.load before.state = .ok flow)
    (stored : Flow.stored before.documents before.state.key = .ok flow) {request : Request}
    (settles : auth.Settles services turn flow handler answer.effective
      (before.hear .gate turn request (.ok answer)) outcome after) :
    Flow.stored after.documents before.state.key = .ok (flow.upon turn handler (.ok answer)) := by
  have state := View.hear_state before turn .gate request (.ok answer)
  have documents := View.hear_documents before turn .gate request (.ok answer)
  have concluded (ended : answer.effective.status ≠ .pending) :
      flow.upon turn handler (.ok answer) = .idle := by
    simp [Flow.upon, mt Response.effective_pending.mpr ended]
  cases settles with
  | stays active pending =>
      cases flow with
      | idle => cases active
      | active owner banked =>
          rw [documents, stored]
          simp [Flow.upon, Response.effective_pending.mp pending]
  | begins idle pending writes =>
      cases outcome with
      | error error =>
          obtain ⟨access, storage, refuses⟩ := writes.refuses
          exact absurd refuses (stores.permits storage)
      | ok passes =>
          subst idle
          rw [← state, writes.stored_active]
          simp [Flow.upon, Response.effective_pending.mp pending, Banked.settled]
  | handsOn banked holds activity continues hands =>
      rw [concluded (concluded_of_continuation continues)]
      rw [← View.hear_queue before turn .gate request (.ok answer)] at accepts
      cases hands with
      | balked error refuses => exact absurd refuses accepts.permitted
      | closed error rejected => exact absurd rejected accepts.accepted
      | queued queue accepted writes =>
          cases writes with
          | refused access error storage refuses => exact absurd refuses (stores.permits storage)
          | kept => exact stored_cleared loaded stored state documents
  | sticks failed ends error writes =>
      cases writes with
      | refused access error storage refuses => exact absurd refuses (stores.permits storage)
  | reports failed ends writes now outcome told =>
      cases writes with
      | kept =>
          rw [View.see_documents, concluded (by simp [failed])]
          exact stored_cleared loaded stored state documents
  | goesOn complete ends writes =>
      cases writes with
      | refused access error storage refuses => exact absurd refuses (stores.permits storage)
      | kept =>
          rw [concluded (by simp [complete])]
          exact stored_cleared loaded stored state documents

/-! ## The gate and the registry -/

/-- Once the gate is to ask a handler, it asks and settles the answer. -/
theorem startOrContinue_asks {scope asked : Scope σ} {requested : Option String}
    (timely : scope.cancelled = false) (loaded : Flow.load scope.state = .ok flow)
    (chosen : auth.handlerFor flow requested = .ok handler)
    (asks : auth.passes turn flow scope = .ok false asked) :
    auth.startOrContinue services turn requested scope =
      (auth.invoke turn ⟨handler, !flow.isActive, flow.exchange⟩ >>=
        auth.settle services turn flow handler) asked := by
  have lets : TurnAction.ensureNotCancelled scope = .ok () scope := by
    change (if scope.cancelled then throw .cancelled else pure () : TurnAction σ Unit) scope = _
    rw [timely]
    rfl
  have sees : TurnAction.flow scope = .ok flow scope := by
    change (MonadExcept.ofExcept (Flow.load scope.state) : TurnAction σ Flow) scope = _
    rw [loaded]
    rfl
  simp only [startOrContinue, bind, EStateM.bind, lets, sees, asks, chosen]
  rfl

variable (auth turn) in
theorem mirrors_passes (flow : Flow) :
    Mirrors Scope.erase ((auth.recorded .gate).passes turn flow) (auth.passes turn flow) :=
  mirrors_of_agrees fun key =>
    Parallel.agrees_passes (.erase auth .lenient turn key (fun _ => True) .gate) flow

/-- Once the gate is to ask a handler, what it comes to follows from what the handler comes to. -/
theorem yields_startOrContinue_told {scope asked : Scope (Recorded σ)} {requested : Option String}
    (asks : (auth.recorded .gate).passes turn flow scope = .ok false asked)
    (timely : scope.cancelled = false) (loaded : Flow.load scope.view.state = .ok flow)
    (chosen : auth.handlerFor flow requested = .ok handler) :
    let request : Request := ⟨handler, !flow.isActive, flow.exchange⟩
    let verdict := told (auth.dispatcher.signIn turn request
      ⟨asked.world.host.host, asked.cancelled⟩)
    Yields ((auth.recorded .gate).startOrContinue (services.recorded turn) turn requested) scope
      fun outcome after =>
        (∃ answer, verdict = .ok answer ∧
          auth.Settles services turn flow handler answer.effective
            (scope.view.hear .gate turn request (.ok answer)) outcome after) ∨
        ∃ error, verdict = .error error ∧ outcome = .error error ∧
          after = scope.view.see (.answered .gate turn request (.error error)) := by
  intro request verdict
  have unseen : asked.view = scope.view := ((ends_passes auth turn flow .gate).of_ok asks).1
  have runs : (auth.recorded .gate).startOrContinue (services.recorded turn) turn requested scope =
      _ := startOrContinue_asks timely loaded
    ((handlerFor_recorded auth .gate flow requested).trans chosen) asks
  unfold Yields Ends
  rw [runs]
  change Ends _ asked _ _
  rw [ends_bind]
  refine (ends_invoke_told auth turn .gate request).mono ?_ ?_
  · rintro response after ⟨answer, answered, rfl, seen⟩
    rw [unseen] at seen
    exact (yields_settle seen).mono (fun _ _ settles => .inl ⟨answer, answered, settles⟩)
      (fun _ _ settles => .inl ⟨answer, answered, settles⟩)
  · rintro error after ⟨failed, seen⟩
    rw [unseen] at seen
    exact .inr ⟨error, failed, rfl, seen⟩

/-- Before a recorded host, the flow that is stored after the gate follows from what the handler has
come to. -/
theorem ends_startOrContinue_upon {registry : Registry σ} {registered : Handler σ}
    (dispatches : auth.dispatcher = registry.toDispatcher) (stores : services.Stores)
    {scope asked : Scope (Recorded σ)} {requested : Option String}
    (asks : (auth.recorded .gate).passes turn flow scope = .ok false asked)
    (timely : scope.cancelled = false) (accepts : services.Accepts scope.view.queue)
    (loaded : Flow.load scope.view.state = .ok flow)
    (stored : Flow.stored scope.view.documents scope.view.state.key = .ok flow)
    (chosen : auth.handlerFor flow requested = .ok handler)
    (resolved : registry.resolve handler = .ok registered) :
    let verdict := told (registered.signIn turn ⟨handler, !flow.isActive, flow.exchange⟩
      ⟨asked.world.host.host, asked.cancelled⟩)
    Ends ((auth.recorded .gate).startOrContinue (services.recorded turn) turn requested) scope
      (fun _ after => Flow.stored after.view.documents scope.view.state.key =
        .ok (flow.upon turn handler verdict))
      (fun _ after => Flow.stored after.view.documents scope.view.state.key =
        .ok (flow.upon turn handler verdict)) := by
  intro verdict
  have heard : told (auth.dispatcher.signIn turn ⟨handler, !flow.isActive, flow.exchange⟩
      ⟨asked.world.host.host, asked.cancelled⟩) = Registry.converted verdict := by
    rw [dispatches]
    exact Registry.told_signIn_of_resolve resolved turn _
  rw [← Flow.upon_converted]
  refine (yields_startOrContinue_told asks timely loaded chosen).mono ?_ ?_ <;>
  · rintro _ after (⟨answer, answered, settles⟩ | ⟨error, failed, -, seen⟩)
    · rw [← heard, answered]
      exact settles.stored stores accepts loaded stored
    · rw [← heard, failed, seen, View.see_documents, stored]
      obtain rfl := Registry.cancelled_of_converted (heard.symm.trans failed)
      rfl

end Authenticator

end

/-- The handler decides what becomes of a flow.  Where storage works and the queue accepts, and a
turn that is not cancelled asks a handler of a registry, the flow that is stored afterwards follows
from what the handler itself comes to: it is active only if the handler is pending, or if it is
cancelled while it continues a flow.  Whatever else the handler says or fails with, and whoever
fails to hear of it, no flow is stored. -/
theorem handler_decides_flow {registry : Registry σ} {auth : Authenticator σ}
    {services : Services σ} (dispatches : auth.dispatcher = registry.toDispatcher)
    (stores : services.Stores) {turn : Turn} {world loaded : World σ} {state : UserState}
    (accepts : services.Accepts loaded.queue)
    (loads : UserState.load services turn.activity world = .ok state loaded) {flow : Flow}
    (reads : Flow.load state = .ok flow) (requested : Option String)
    (registered : flow.handler.getD (requested.getD auth.defaultHandler) ∈ registry.names)
    {asked : Scope σ} (asks : auth.passes turn flow ⟨loaded, state, false⟩ = .ok false asked) :
    ∃ handler ∈ registry.handlers,
      handler.name = flow.handler.getD (requested.getD auth.defaultHandler) ∧
      let verdict := told (handler.signIn turn ⟨handler.name, !flow.isActive, flow.exchange⟩
        ⟨asked.world.host, asked.cancelled⟩)
      let after := remains (auth.startOrContinue services turn requested ⟨loaded, state, false⟩)
      ∃ kept, Flow.stored after.world.documents state.key = .ok kept ∧
        kept = flow.upon turn handler.name verdict ∧
        (kept.isActive = true ↔ (∃ response, verdict = .ok response ∧ response.status = .pending) ∨
          flow.isActive = true ∧ verdict = .error .cancelled) := by
  obtain ⟨keyed, held, documents⟩ := (ends_loadStored services turn.activity world).of_ok loads
  have stored : Flow.stored loaded.documents state.key = .ok flow := by
    rw [documents, ← Flow.load_eq_stored held]
    exact reads
  obtain ⟨handler, among, named, resolved⟩ := registry.resolve_of_mem registered
  have chosen : auth.handlerFor flow requested = .ok handler.name := by
    rw [named]
    cases flow with
    | active owner banked => rfl
    | idle =>
        have known : auth.dispatcher.contains (requested.getD auth.defaultHandler) = true := by
          rw [dispatches]
          exact Registry.contains_iff.mpr registered
        simp only [Authenticator.handlerFor, Authenticator.requestedHandler, known, if_true,
          Flow.handler, Option.getD_none]
  obtain ⟨left, passes, rfl⟩ := (Authenticator.mirrors_passes auth turn flow).of_ok asks
  have ends := Authenticator.ends_startOrContinue_upon dispatches stores passes rfl accepts reads
    stored chosen (named ▸ resolved)
  refine ⟨handler, among, named, _, ?_, rfl, Flow.isActive_upon _ _ _ _⟩
  have mirrors := Authenticator.mirrors_startOrContinue auth services turn .gate requested
  rw [mirrors.remains_eq]
  exact ends.left

/-- A handler that fails whenever it is asked. -/
def Handler.broken : Handler Unit :=
  { Handler.patient "code" with signIn := fun _ _ => throw (.handlerFailed "down") }

/-- The handler alone. -/
def Registry.broken : Registry Unit := ⟨[.broken], "code"⟩

/-- An authenticator of the handler, whose callback for failures fails as well. -/
def Authenticator.broken : Authenticator Unit :=
  { Authenticator.desk with
    dispatcher := Registry.broken.toDispatcher
    onFailure := some fun _ _ => throw (.handlerFailed "busy") }

/-- The turn has loaded a flow of the handler. -/
def brokenScope : Scope Unit :=
  ⟨.desk [("active-flow", .str "code")],
    ⟨"chat/users/ada", [("active-flow", .str "code")], false⟩, false⟩

/-- Although the handler fails and nobody hears of it, the flow is cleared. -/
theorem broken_flow_cleared :
    UserState.load .lenient deskTurn.activity brokenScope.world =
        .ok brokenScope.state brokenScope.world ∧
      Flow.load brokenScope.state = .ok (.active "code" none) ∧
      told (Authenticator.broken.startOrContinue .lenient deskTurn none brokenScope) =
        .error (.handlerFailed "busy") ∧
      Flow.stored (remains (Authenticator.broken.startOrContinue .lenient deskTurn none
        brokenScope)).world.documents "chat/users/ada" = .ok .idle := by
  have dispatches : Authenticator.broken.dispatcher = Registry.broken.toDispatcher := rfl
  have loads : UserState.load .lenient deskTurn.activity brokenScope.world =
      .ok brokenScope.state brokenScope.world := rfl
  have reads : Flow.load brokenScope.state = .ok (.active "code" none) := rfl
  have asks : Authenticator.broken.passes deskTurn (.active "code" none) brokenScope =
      .ok false brokenScope := rfl
  have stores : (Services.lenient : Services Unit).Stores := fun _ _ host => ⟨host, rfl⟩
  have accepts : (Services.lenient : Services Unit).Accepts brokenScope.world.queue :=
    ⟨fun _ host => ⟨host, rfl⟩, rfl⟩
  obtain ⟨handler, among, -, kept, stored, upon, -⟩ :=
    handler_decides_flow dispatches stores accepts loads reads none (by decide) asks
  obtain rfl := List.mem_singleton.mp among
  rw [upon] at stored
  exact ⟨loads, reads, rfl, stored⟩

end SignInFlow
