import SignInFlow.Proofs.History
import SignInFlow.Proofs.Outcome

/-!
# Ways to come out

Passing the gate and signing in explicitly come to an end in one of a few ways.  Each is listed here
with the answer or error that it gives, with what it leaves, and with what must have failed for it
to fail.
-/

namespace SignInFlow

variable {σ α β : Type}

/-- An action comes to an end in one of the ways that a relation lists. -/
def Yields (action : TurnAction (Recorded σ) α) (scope : Scope (Recorded σ))
    (ways : Except Error α → View → Prop) : Prop :=
  Ends action scope (fun value after => ways (.ok value) after.view)
    (fun error after => ways (.error error) after.view)

/-- What an action comes to and leaves is one of the ways that are listed. -/
theorem Yields.comes {action : TurnAction (Recorded σ) α} {scope : Scope (Recorded σ)}
    {ways : Except Error α → View → Prop} (yields : Yields action scope ways) :
    ways (told (action scope)) (remains (action scope)).view := by
  unfold Yields Ends at yields
  cases result : action scope with
  | ok value after =>
      simp only [result] at yields
      exact yields
  | error error after =>
      simp only [result] at yields
      exact yields

/-- A flow is stored and written back, or the write is refused. -/
inductive Services.Writes (services : Services σ) (turn : Turn) (flow : Flow) (value : α)
    (view : View) : Except Error α → View → Prop where
  | kept : Writes services turn flow value view (.ok value) ((view.hold flow).saved turn)
  | refused (access : Access) (error : Error) (storage : access.isStorage = true)
      (refuses : services.Refuses access error) :
      Writes services turn flow value view (.error error)
        ((view.hold flow).see (.refused turn access))

/-- An activity is queued, and the flow cleared after it. -/
inductive Services.HandsOn (services : Services σ) (turn : Turn) (activity : Activity) (value : α)
    (view : View) : Except Error α → View → Prop where
  /-- The host does not let the activity through. -/
  | balked (error : Error) (refuses : services.Refuses (.submit activity) error) :
      HandsOn services turn activity value view (.error error)
        (view.see (.refused turn (.submit activity)))
  /-- The queue does not take it. -/
  | closed (error : Error) (rejected : view.queue.submit activity = .error error) :
      HandsOn services turn activity value view (.error error) view
  | queued (queue : ReplayQueue) (accepted : view.queue.submit activity = .ok queue)
      {outcome : Except Error α} {after : View}
      (writes : services.Writes turn .idle value (view.enqueue turn activity queue) outcome
        after) :
      HandsOn services turn activity value view outcome after

namespace Authenticator

variable (auth : Authenticator σ) (services : Services σ) (turn : Turn)

/-- The dispatcher may fail to answer a request. -/
def Faults (request : Request) (error : Error) : Prop :=
  ∃ visit left, auth.dispatcher.signIn turn request visit = .error error left

/-- The callback, or the sender without one, may fail to take the report of a failure. -/
def Mutes (failure : Failure) (error : Error) : Prop :=
  match auth.onFailure with
  | some callback => ∃ visit left, callback turn failure visit = .error error left
  | none => ∃ now host left, services.send (turn.activity.reply
      (auth.settings.failureMessage failure.handler failure.response.causeOrOther.name) now) host =
        .error error left

/-- What a flow that fails is reported with. -/
def failureOf (turn : Turn) (flow : Flow) (handler : String) (response : Response) : Failure :=
  ⟨handler, response, (flow.banked.map Banked.initiating).getD turn.activity⟩

/-- What the gate does with a response. -/
def settle (flow : Flow) (handler : String) (response : Response) : TurnAction σ Bool :=
  match response.status with
  | .pending => do
      suspend services turn flow handler
      pure false
  | .error => do
      auth.concludeFailure services turn flow handler response
      pure false
  | .complete => auth.concludeSuccess services turn flow handler response

/-- What the gate makes of a response. -/
inductive Settles (flow : Flow) (handler : String) (response : Response) (view : View) :
    Except Error Bool → View → Prop where
  /-- The flow in progress stays as it is. -/
  | stays (active : flow.isActive = true) (pending : response.status = .pending) :
      Settles flow handler response view (.ok false) view
  /-- A flow begins. -/
  | begins (idle : flow = .idle) (pending : response.status = .pending)
      {outcome : Except Error Bool} {after : View}
      (writes : services.Writes turn (.active handler (some (.activity turn.activity))) false view
        outcome after) :
      Settles flow handler response view outcome after
  /-- The flow concludes, and what it has banked is queued. -/
  | handsOn (banked : Banked) (holds : flow.banked = some banked) (activity : Activity)
      (continues : auth.continuation turn handler response banked = some activity)
      {outcome : Except Error Bool} {after : View}
      (hands : services.HandsOn turn activity false view outcome after) :
      Settles flow handler response view outcome after
  /-- A flow with nothing to queue has failed, and may not be cleared. -/
  | sticks (failed : response.status = .error)
      (ends : flow.banked.bind (auth.continuation turn handler response) = none)
      (error : Error) {after : View}
      (writes : services.Writes turn .idle false view (.error error) after) :
      Settles flow handler response view (.error error) after
  /-- A flow with nothing to queue has failed, and is cleared and reported. -/
  | reports (failed : response.status = .error)
      (ends : flow.banked.bind (auth.continuation turn handler response) = none)
      {cleared : View} (writes : services.Writes turn .idle false view (.ok false) cleared)
      (now : Instant) (outcome : Except Error Bool)
      (told : outcome = .ok false ∨ ∃ error, outcome = .error error ∧
        auth.Mutes services turn (failureOf turn flow handler response) error) :
      Settles flow handler response view outcome
        (cleared.see (auth.failureEvent turn (failureOf turn flow handler response) now))
  /-- A flow with nothing to queue has given a token, and is cleared. -/
  | goesOn (complete : response.status = .complete)
      (ends : flow.banked.bind (auth.continuation turn handler response) = none)
      {outcome : Except Error Bool} {after : View}
      (writes : services.Writes turn .idle true view outcome after) :
      Settles flow handler response view outcome after

/-- How a turn comes out of the gate. -/
inductive Passage (requested : Option String) (cancelled : Bool) (view : View) :
    Except Error Bool → View → Prop where
  /-- The turn was cancelled before. -/
  | halted (late : cancelled = true) : Passage requested cancelled view (.error .cancelled) view
  /-- The flow of the user cannot be read. -/
  | garbled (timely : cancelled = false) (error : Error)
      (unread : Flow.load view.state = .error error) :
      Passage requested cancelled view (.error error) view
  /-- The turn needs no flow. -/
  | waved (timely : cancelled = false) (idle : Flow.load view.state = .ok .idle) :
      Passage requested cancelled view (.ok true) view
  /-- There is no such handler. -/
  | unknown (timely : cancelled = false) (error : Error)
      (idle : Flow.load view.state = .ok .idle)
      (missing : auth.requestedHandler requested = .error error) :
      Passage requested cancelled view (.error error) view
  /-- The dispatcher fails. -/
  | faulted (timely : cancelled = false) (flow : Flow) (handler : String)
      (loaded : Flow.load view.state = .ok flow)
      (chosen : auth.handlerFor flow requested = .ok handler) (error : Error)
      (faults : auth.Faults turn ⟨handler, !flow.isActive, flow.exchange⟩ error) :
      Passage requested cancelled view (.error error)
        (view.see (.answered .gate turn ⟨handler, !flow.isActive, flow.exchange⟩ (.error error)))
  | answered (timely : cancelled = false) (flow : Flow) (handler : String)
      (loaded : Flow.load view.state = .ok flow)
      (chosen : auth.handlerFor flow requested = .ok handler) (answer : Response)
      {outcome : Except Error Bool} {after : View}
      (settles : auth.Settles services turn flow handler answer.effective
        (view.hear .gate turn ⟨handler, !flow.isActive, flow.exchange⟩ (.ok answer))
        outcome after) :
      Passage requested cancelled view outcome after

/-- A success is reported to the callback, if there is one. -/
inductive Announces (report : Success) (view : View) : View → Prop where
  | silently : Announces report view view
  | aloud : Announces report view (view.see (.succeeded turn report))

/-- What an explicit sign-in makes of a response. -/
inductive Decides (handler : String) (exchange : Option Exchange) (response : Response)
    (view : View) : Except Error Unit → View → Prop where
  /-- A flow begins. -/
  | begins (pending : response.status = .pending) {outcome : Except Error Unit} {after : View}
      (writes : services.Writes turn
        (.active handler (some (.completion (.start handler exchange turn.activity)))) () view
        outcome after) :
      Decides handler exchange response view outcome after
  /-- The sign-in has failed, and the caller hears of it. -/
  | returns (failed : response.status = .error) (silent : auth.onFailure = none) :
      Decides handler exchange response view
        (.error (.signInFailed handler response.causeOrOther (response.error.getD ""))) view
  /-- The sign-in has failed, and the callback hears of it. -/
  | reports (failed : response.status = .error) (outcome : Except Error Unit) :
      Decides handler exchange response view outcome
        (view.see (.failed turn ⟨handler, response, turn.activity⟩))
  /-- The sign-in has given a token. -/
  | accepts (complete : response.status = .complete) (outcome : Except Error Unit) {after : View}
      (announces : Announces turn ⟨handler, response.token.getD "", turn.activity⟩ view after) :
      Decides handler exchange response view outcome after

/-- How an explicit sign-in comes to its end. -/
inductive Entry (handler : String) (exchange : Option Exchange) (cancelled : Bool) (view : View) :
    Except Error Unit → View → Prop where
  /-- The turn was cancelled before. -/
  | halted (late : cancelled = true) :
      Entry handler exchange cancelled view (.error .cancelled) view
  /-- The flow of the user cannot be read. -/
  | garbled (timely : cancelled = false) (error : Error)
      (unread : Flow.load view.state = .error error) :
      Entry handler exchange cancelled view (.error error) view
  /-- A flow is active already. -/
  | occupied (timely : cancelled = false) (owner : String) (banked : Option Banked)
      (active : Flow.load view.state = .ok (.active owner banked)) :
      Entry handler exchange cancelled view (.error (.alreadyActive owner handler)) view
  /-- There is no such handler. -/
  | unknown (timely : cancelled = false) (idle : Flow.load view.state = .ok .idle)
      (missing : auth.dispatcher.contains handler = false) :
      Entry handler exchange cancelled view (.error (.handlerNotFound handler)) view
  /-- A token that is kept answers. -/
  | remembered (timely : cancelled = false) (idle : Flow.load view.state = .ok .idle)
      (known : auth.dispatcher.contains handler = true) (token : String)
      (kept : view.tokens.get? turn.user handler = some token)
      (outcome : Except Error Unit) {after : View}
      (announces : Announces turn ⟨handler, token, turn.activity⟩ view after) :
      Entry handler exchange cancelled view outcome after
  /-- The dispatcher fails. -/
  | faulted (timely : cancelled = false) (idle : Flow.load view.state = .ok .idle)
      (known : auth.dispatcher.contains handler = true) (error : Error)
      (faults : auth.Faults turn ⟨handler, true, exchange⟩ error) :
      Entry handler exchange cancelled view (.error error)
        (view.see (.answered .application turn ⟨handler, true, exchange⟩ (.error error)))
  | answered (timely : cancelled = false) (idle : Flow.load view.state = .ok .idle)
      (known : auth.dispatcher.contains handler = true) (answer : Response)
      {outcome : Except Error Unit} {after : View}
      (decides : auth.Decides services turn handler exchange answer.effective
        (view.hear .application turn ⟨handler, true, exchange⟩ (.ok answer)) outcome after) :
      Entry handler exchange cancelled view outcome after

end Authenticator

/-! ## What each way leaves -/

section

variable {auth : Authenticator σ} {services : Services σ} {turn : Turn} {value : α}
  {outcome : Except Error α} {view after : View} {asked : List Event}

namespace Services.Writes

variable {flow : Flow}

theorem quietly (writes : services.Writes turn flow value view outcome after)
    (quietly : Quietly asked view.log) : Quietly asked after.log := by
  cases writes with
  | kept =>
      have held : Quietly asked (view.hold flow).log := quietly
      exact held.saved turn
  | refused access error storage refuses => exact quietly.cons rfl

theorem queue (writes : services.Writes turn flow value view outcome after) :
    after.queue = view.queue := by
  cases writes with
  | kept => rw [View.saved_queue, View.hold_queue]
  | refused => rfl

theorem tokens (writes : services.Writes turn flow value view outcome after) :
    after.tokens = view.tokens := by
  cases writes with
  | kept => rw [View.saved_tokens, View.hold_tokens]
  | refused => rfl

/-- A write fails only as storage refuses it. -/
theorem refuses {error : Error}
    (writes : services.Writes turn flow value view (.error error) after) :
    ∃ access, Access.isStorage access = true ∧ services.Refuses access error := by
  cases writes with
  | refused access error storage refuses => exact ⟨access, storage, refuses⟩

/-- A flow that is written is stored, settled. -/
theorem stored_active {handler : String} {banked : Banked} {given : α}
    (writes : services.Writes turn (.active handler (some banked)) value view (.ok given) after) :
    Flow.stored after.documents view.state.key = .ok (.active handler (some banked.settled)) := by
  cases writes with
  | kept =>
      let held := view.hold (.active handler (some banked))
      have stored := View.stored_saved_of_dirty held turn (Flow.store_active_dirty _ _ _)
      rwa [View.hold_state, Flow.store_key, Flow.load_store] at stored

end Services.Writes

theorem Services.HandsOn.quietly {activity : Activity}
    (hands : services.HandsOn turn activity value view outcome after)
    (quietly : Quietly asked view.log) : Quietly asked after.log := by
  cases hands with
  | balked error refuses => exact quietly.cons rfl
  | closed error rejected => exact quietly
  | queued queue accepted writes => exact writes.quietly (quietly.cons rfl)

namespace Authenticator

variable {handler : String} {response : Response}

theorem Settles.quietly {flow : Flow} {outcome : Except Error Bool}
    (settles : auth.Settles services turn flow handler response view outcome after)
    (quietly : Quietly asked view.log) : Quietly asked after.log := by
  cases settles with
  | stays active pending => exact quietly
  | begins idle pending writes => exact writes.quietly quietly
  | handsOn banked holds activity continues hands => exact hands.quietly quietly
  | sticks failed ends error writes => exact writes.quietly quietly
  | reports failed ends writes now outcome told =>
      have unasked := Event.isAnswer_of_notice
        (auth.notice_failureEvent turn (failureOf turn flow handler response) now).2
      exact (writes.quietly quietly).cons unasked
  | goesOn complete ends writes => exact writes.quietly quietly

/-- Whatever follows, the answer stays in the record. -/
theorem Settles.answered {flow : Flow} {request : Request} {answer : Except Error Response}
    {outcome : Except Error Bool}
    (settles : auth.Settles services turn flow handler response
      (view.hear .gate turn request answer) outcome after) :
    .answered .gate turn request answer :: view.log <:+ after.log := by
  have heard := (settles.quietly (.refl _)).suffix
  rwa [View.hear_log] at heard

theorem Announces.quietly {report : Success} (announces : Announces turn report view after)
    (quietly : Quietly asked view.log) : Quietly asked after.log := by
  cases announces with
  | silently => exact quietly
  | aloud => exact quietly.cons rfl

theorem Decides.quietly {exchange : Option Exchange} {outcome : Except Error Unit}
    (decides : auth.Decides services turn handler exchange response view outcome after)
    (quietly : Quietly asked view.log) : Quietly asked after.log := by
  cases decides with
  | begins pending writes => exact writes.quietly quietly
  | returns failed silent => exact quietly
  | reports failed outcome => exact quietly.cons rfl
  | accepts complete outcome announces => exact announces.quietly quietly

/-- Whatever follows, the answer stays in the record. -/
theorem Decides.answered {exchange : Option Exchange} {request : Request}
    {answer : Except Error Response} {outcome : Except Error Unit}
    (decides : auth.Decides services turn handler exchange response
      (view.hear .application turn request answer) outcome after) :
    .answered .application turn request answer :: view.log <:+ after.log := by
  have heard := (decides.quietly (.refl _)).suffix
  rwa [View.hear_log] at heard

end Authenticator

end

/-- An answer without a token is heard and nothing else. -/
theorem View.hear_of_incomplete (view : View) (asker : Asker) (turn : Turn) (request : Request)
    {answer : Response} (incomplete : answer.effective.status ≠ .complete) :
    view.hear asker turn request (.ok answer) =
      view.see (.answered asker turn request (.ok answer)) := by
  simp [hear, incomplete]

/-- The token of a completion is kept. -/
theorem View.tokens_hear_of_complete (view : View) (asker : Asker) (turn : Turn)
    (request : Request) {answer : Response} {token : String} (complete : answer.status = .complete)
    (has : answer.token = some token) :
    (view.hear asker turn request (.ok answer)).tokens =
      view.tokens.insert turn.user request.handler token := by
  simp [hear, Response.effective_of_token has, complete, has, see]

/-! ## Parts of operations -/

namespace Authenticator

variable (auth : Authenticator σ) (services : Services σ) (turn : Turn)
  {scope : Scope (Recorded σ)}

/-- A request is remembered with what the dispatcher makes of it. -/
theorem ends_invoke_told (asker : Asker) (request : Request) :
    let verdict := told
      (auth.dispatcher.signIn turn request ⟨scope.world.host.host, scope.cancelled⟩)
    Ends ((auth.recorded asker).invoke turn request) scope
      (fun response after => ∃ answer, verdict = .ok answer ∧ response = Response.effective answer ∧
        after.view = scope.view.see (.answered asker turn request (.ok answer)))
      (fun error after => verdict = .error error ∧
        after.view = scope.view.see (.answered asker turn request (.error error))) := by
  simp only [invoke, ends_bind]
  refine (TurnAction.ends_noticed_told _ _).mono ?_ fun _ _ => id
  rintro answer after ⟨verdict, seen⟩
  by_cases tokenless : answer.status = .complete ∧ answer.token = none
  · rw [if_pos tokenless, ends_pure]
    exact ⟨answer, verdict, by rw [Response.effective, if_pos tokenless], seen⟩
  · rw [if_neg tokenless, ends_pure]
    exact ⟨answer, verdict, by rw [Response.effective, if_neg tokenless], seen⟩

theorem ends_invoke (asker : Asker) (request : Request) :
    Ends ((auth.recorded asker).invoke turn request) scope
      (fun response after => ∃ answer, response = Response.effective answer ∧
        after.view = scope.view.see (.answered asker turn request (.ok answer)))
      (fun error after => auth.Faults turn request error ∧
        after.view = scope.view.see (.answered asker turn request (.error error))) := by
  refine (ends_invoke_told auth turn asker request).mono ?_ ?_
  · rintro response after ⟨answer, -, effective, seen⟩
    exact ⟨answer, effective, seen⟩
  · rintro error after ⟨failed, seen⟩
    obtain ⟨left, failed⟩ := eq_error_of_told failed
    exact ⟨⟨_, left, failed⟩, seen⟩

theorem ends_submit (activity : Activity) (handler : String) :
    Ends (submit (services.recorded turn) activity handler) scope
      (fun _ after => ∃ queue, scope.view.queue.submit activity = .ok queue ∧
        after.view = scope.view.enqueue turn activity queue)
      (fun error after => services.Refuses (.submit activity) error ∧
          after.view = scope.view.see (.refused turn (.submit activity)) ∨
        scope.view.queue.submit activity = .error error ∧ after.view = scope.view) := by
  simp only [submit, ends_bind, TurnAction.ends_ofAction, Action.submit, ends_get,
    ends_ofExcept, ends_modify, Action.ends_changeHost, TurnAction.ends_count]
  refine (TurnAction.ends_permit services turn (.submit activity)).mono ?_ ?_
  · rintro _ _ ⟨host, rfl⟩
    exact ⟨fun queue accepted => ⟨queue, accepted, rfl⟩, fun error closed => .inr ⟨closed, rfl⟩⟩
  · rintro _ _ ⟨refuses, host, rfl⟩
    exact .inl ⟨refuses, rfl⟩

theorem ends_reportSuccess (report : Success) (asker : Asker) :
    Ends ((auth.recorded asker).reportSuccess turn report) scope
      (fun _ after =>
        after.view = scope.view ∨ after.view = scope.view.see (.succeeded turn report))
      (fun _ after =>
        after.view = scope.view ∨ after.view = scope.view.see (.succeeded turn report)) := by
  unfold reportSuccess
  simp only [recorded]
  cases auth.onSuccess with
  | none => exact Or.inl rfl
  | some callback =>
      exact (TurnAction.ends_noticed (callback turn report) fun _ => .succeeded turn report).mono
        (fun _ _ => Or.inr) (fun _ _ => Or.inr)

theorem ends_reportFailure (report : Failure) (asker : Asker) :
    Ends ((auth.recorded asker).reportFailure (services.recorded turn) turn report) scope
      (fun _ after => ∃ now, after.view = scope.view.see (auth.failureEvent turn report now))
      (fun _ after => ∃ now, after.view = scope.view.see (auth.failureEvent turn report now)) := by
  unfold reportFailure failureEvent
  simp only [recorded]
  cases auth.onFailure with
  | none => exact TurnAction.ends_sendText services turn _
  | some callback =>
      refine (TurnAction.ends_noticed (callback turn report)
        fun _ => .failed turn report).mono ?_ ?_
      · exact fun _ _ seen => ⟨.epoch, seen⟩
      · exact fun _ _ seen => ⟨.epoch, seen⟩

/-- Reporting a failure fails only as whoever hears of it may fail. -/
theorem ends_reportFailure_fails (report : Failure) (asker : Asker) :
    Ends ((auth.recorded asker).reportFailure (services.recorded turn) turn report) scope
      (fun _ _ => True) (fun error _ => auth.Mutes services turn report error) := by
  unfold reportFailure Mutes
  simp only [recorded]
  cases auth.onFailure with
  | none => exact TurnAction.ends_sendText_fails services turn _
  | some callback => exact TurnAction.ends_noticed_fails (callback turn report) _

theorem ends_cacheToken {view : View} {asker : Asker} {request : Request} {answer : Response}
    (complete : answer.effective.status = .complete)
    (heard : scope.view = view.see (.answered asker turn request (.ok answer))) :
    Ends (cacheToken turn request.handler answer.effective) scope
      (fun _ after => after.view = view.hear asker turn request (.ok answer))
      (fun _ _ => False) := by
  simp only [cacheToken, ends_bind, TurnAction.ends_ofAction, ends_modify, ends_pure]
  simp only [View.hear, complete, if_true, ← heard]
  rfl

theorem ends_passes (flow : Flow) (asker : Asker) :
    Ends ((auth.recorded asker).passes turn flow) scope
      (fun passes after => after.view = scope.view ∧ (flow.isActive = true → passes = false))
      (fun _ _ => False) := by
  unfold passes
  cases flow with
  | active => exact ⟨rfl, fun _ => rfl⟩
  | idle =>
      simp only [Flow.isActive, Bool.false_eq_true, if_false, ends_bind, ends_pure]
      cases policy : auth.policy with
      | always =>
          simp [recorded, policy, StartPolicy.recorded, TurnAction.ofHost, StartPolicy.shouldStart,
            Ends, Scope.view, World.view]
      | never =>
          simp [recorded, policy, StartPolicy.recorded, TurnAction.ofHost, StartPolicy.shouldStart,
            Ends, Scope.view, World.view]
      | ask predicate =>
          rcases asked : predicate turn ⟨scope.world.host.host, scope.cancelled⟩ with
              ⟨answer, after⟩
          simp [recorded, policy, StartPolicy.recorded, TurnAction.ofHost, StartPolicy.shouldStart,
            Ends, Scope.view, World.view, asked]

/-! ## The gate -/

theorem ends_writes (flow : Flow) (value : α) :
    Ends (TurnAction.persist (services.recorded turn) flow) scope
      (fun _ after => services.Writes turn flow value scope.view (.ok value) after.view)
      (fun error after =>
        services.Writes turn flow value scope.view (.error error) after.view) := by
  refine (TurnAction.ends_persist services turn flow).mono ?_ ?_
  · intro _ after kept
    rw [kept]
    exact .kept
  · rintro error after ⟨access, storage, refuses, held⟩
    rw [held]
    exact .refused access error storage refuses

theorem ends_handsOn (activity : Activity) (handler : String) (value : α) :
    Ends (submit (services.recorded turn) activity handler) scope
      (fun _ middle => Ends (TurnAction.persist (services.recorded turn) .idle) middle
        (fun _ after => services.HandsOn turn activity value scope.view (.ok value) after.view)
        (fun error after =>
          services.HandsOn turn activity value scope.view (.error error) after.view))
      (fun error after =>
        services.HandsOn turn activity value scope.view (.error error) after.view) := by
  refine (ends_submit services turn activity handler).mono ?_ ?_
  · rintro _ middle ⟨queue, accepted, queued⟩
    refine (ends_writes services turn .idle value).mono ?_ ?_ <;>
    · intro _ after writes
      rw [queued] at writes
      exact .queued queue accepted writes
  · rintro error after (⟨refuses, refused⟩ | ⟨rejected, stopped⟩)
    · rw [refused]
      exact .balked error refuses
    · rw [stopped]
      exact .closed error rejected

variable {auth services turn} {flow : Flow} {handler : String} {response : Response} {view : View}

theorem ends_suspend (same : scope.view = view) (pending : response.status = .pending) :
    Ends (suspend (services.recorded turn) turn flow handler) scope
      (fun _ after =>
        auth.Settles services turn flow handler response view (.ok false) after.view)
      (fun error after =>
        auth.Settles services turn flow handler response view (.error error) after.view) := by
  subst same
  cases flow with
  | active owner banked => exact .stays rfl pending
  | idle =>
      simp only [suspend, Flow.isActive, Bool.false_eq_true, if_false, ends_bind,
        TurnAction.ends_count]
      exact (ends_writes services turn _ false).mono (fun _ _ => .begins rfl pending)
        (fun _ _ => .begins rfl pending)

/-- A flow with nothing to queue has failed: it is cleared, and then the failure is reported. -/
theorem ends_clearAndReport (same : scope.view = view) (failed : response.status = .error)
    (ends : flow.banked.bind (auth.continuation turn handler response) = none) :
    Ends (do
        TurnAction.persist (services.recorded turn) .idle
        (auth.recorded .gate).reportFailure (services.recorded turn) turn
          (failureOf turn flow handler response)) scope
      (fun _ after =>
        auth.Settles services turn flow handler response view (.ok false) after.view)
      (fun error after =>
        auth.Settles services turn flow handler response view (.error error) after.view) := by
  subst same
  rw [ends_bind]
  refine (ends_writes services turn .idle false).mono ?_ fun error _ => .sticks failed ends error
  intro _ cleared writes
  refine ((ends_reportFailure auth services turn _ .gate).and
    (ends_reportFailure_fails auth services turn _ .gate)).mono ?_ ?_
  · rintro _ after ⟨⟨now, told⟩, -⟩
    rw [told]
    exact .reports failed ends writes now _ (.inl rfl)
  · rintro error after ⟨⟨now, told⟩, mutes⟩
    rw [told]
    exact .reports failed ends writes now _ (.inr ⟨error, rfl, mutes⟩)

theorem ends_concludeFailure (same : scope.view = view) (failed : response.status = .error) :
    Ends ((auth.recorded .gate).concludeFailure (services.recorded turn) turn flow handler
        response) scope
      (fun _ after =>
        auth.Settles services turn flow handler response view (.ok false) after.view)
      (fun error after =>
        auth.Settles services turn flow handler response view (.error error) after.view) := by
  unfold concludeFailure
  rw [ends_bind]
  apply TurnAction.ends_count_of_forall
  intro counted unseen
  rw [same] at unseen
  have clears := @ends_clearAndReport _ auth services turn _ flow handler _ _ unseen failed
  rcases holds : flow.banked with _ | trigger | event
  · rw [failureOf, holds] at clears
    exact clears rfl
  · rw [failureOf, holds] at clears
    exact clears (by simp [continuation, failed])
  · subst unseen
    simp only [ends_bind]
    have continues : auth.continuation turn handler response (.completion event) =
        some ((event.withResult handler response).toActivity
          auth.settings.completionEventName) := by
      simp [continuation, failed]
    exact (ends_handsOn services turn _ _ false).mono
      (fun _ _ cleared => cleared.mono (fun _ _ => .handsOn _ holds _ continues)
        (fun _ _ => .handsOn _ holds _ continues))
      (fun _ _ => .handsOn _ holds _ continues)

theorem ends_concludeSuccess {answer : Response}
    (heard : scope.view =
      view.see (.answered .gate turn ⟨handler, !flow.isActive, flow.exchange⟩ (.ok answer)))
    (complete : answer.effective.status = .complete) :
    Yields ((auth.recorded .gate).concludeSuccess (services.recorded turn) turn flow handler
        answer.effective) scope
      (auth.Settles services turn flow handler answer.effective
        (view.hear .gate turn ⟨handler, !flow.isActive, flow.exchange⟩ (.ok answer))) := by
  unfold concludeSuccess Yields
  simp only [ends_bind, ends_discard]
  refine (ends_cacheToken turn complete heard).mono ?_ fun _ _ impossible => impossible.elim
  intro _ cached kept
  apply TurnAction.ends_count_of_forall
  intro counted unseen
  rw [kept] at unseen
  rw [← unseen]
  have clears (ends : flow.banked.bind (auth.continuation turn handler answer.effective) = none) :
      Yields (do
        TurnAction.persist (services.recorded turn) .idle
        pure true) counted
        (auth.Settles services turn flow handler answer.effective counted.view) := by
    simp only [Yields, ends_bind]
    exact (ends_writes services turn .idle true).mono (fun _ _ => .goesOn complete ends)
      (fun _ _ => .goesOn complete ends)
  have hands {banked : Banked} {activity : Activity} (holds : flow.banked = some banked)
      (continues : auth.continuation turn handler answer.effective banked = some activity)
      (owner : String) : Yields (do
        submit (services.recorded turn) activity owner
        TurnAction.persist (services.recorded turn) .idle
        pure false) counted
        (auth.Settles services turn flow handler answer.effective counted.view) := by
    simp only [Yields, ends_bind]
    exact (ends_handsOn services turn activity owner false).mono
      (fun _ _ cleared => cleared.mono (fun _ _ => .handsOn _ holds _ continues)
        (fun _ _ => .handsOn _ holds _ continues))
      (fun _ _ => .handsOn _ holds _ continues)
  rcases holds : flow.banked with _ | trigger | event
  · exact clears (by rw [holds]; rfl)
  · cases own : trigger == turn.activity with
    | true =>
        simp only [own, if_true]
        exact clears (by simp [holds, continuation, own])
    | false =>
        simp only [own, Bool.false_eq_true, if_false, pure_bind]
        exact hands holds (by simp [continuation, complete, own]) handler
  · simp only [pure_bind]
    exact hands holds (by simp [continuation, complete, recorded]) _

/-- What the gate does with the answer of a handler is one of the things that are listed. -/
theorem yields_settle {answer : Response}
    (heard : scope.view =
      view.see (.answered .gate turn ⟨handler, !flow.isActive, flow.exchange⟩ (.ok answer))) :
    Yields ((auth.recorded .gate).settle (services.recorded turn) turn flow handler
        answer.effective) scope
      (auth.Settles services turn flow handler answer.effective
        (view.hear .gate turn ⟨handler, !flow.isActive, flow.exchange⟩ (.ok answer))) := by
  have same (incomplete : answer.effective.status ≠ .complete) : scope.view =
      view.hear .gate turn ⟨handler, !flow.isActive, flow.exchange⟩ (.ok answer) :=
    heard.trans (View.hear_of_incomplete _ _ _ _ incomplete).symm
  unfold settle
  cases status : answer.effective.status with
  | complete => exact ends_concludeSuccess heard status
  | pending =>
      simp only [Yields, ends_bind, ends_pure]
      exact ends_suspend (same (by simp [status])) status
  | error =>
      simp only [Yields, ends_bind, ends_pure]
      exact ends_concludeFailure (same (by simp [status])) status

variable (auth services turn)

theorem handlerFor_recorded (asker : Asker) (flow : Flow) (requested : Option String) :
    (auth.recorded asker).handlerFor flow requested = auth.handlerFor flow requested := by
  cases flow <;> rfl

/-- A turn comes out of the gate in one of the ways that are listed. -/
theorem yields_startOrContinue (requested : Option String) :
    Yields ((auth.recorded .gate).startOrContinue (services.recorded turn) turn requested) scope
      (auth.Passage services turn requested scope.cancelled scope.view) := by
  unfold startOrContinue Yields
  simp only [ends_bind, TurnAction.ends_ensureNotCancelled, TurnAction.ends_flow]
  split
  · exact .halted ‹_›
  have timely : scope.cancelled = false := eq_false_of_ne_true ‹_›
  refine ⟨fun flow loaded => ?_, fun error unread => .garbled timely error unread⟩
  refine (ends_passes auth turn flow .gate).mono ?_ fun _ _ impossible => impossible.elim
  rintro passes asked ⟨unseen, inactive⟩
  cases passes with
  | true =>
      simp only [if_true, ends_pure]
      rw [unseen]
      cases flow with
      | idle => exact .waved timely loaded
      | active owner banked => cases inactive rfl
  | false =>
      simp only [Bool.false_eq_true, if_false, ends_bind, ends_ofExcept, handlerFor_recorded]
      refine ⟨fun handler chosen => ?_, fun error missing => ?_⟩
      · refine (ends_invoke auth turn .gate ⟨handler, !flow.isActive, flow.exchange⟩).mono ?_ ?_
        · rintro response heard ⟨answer, rfl, seen⟩
          rw [unseen] at seen
          exact (yields_settle seen).mono
            (fun _ _ => .answered timely flow handler loaded chosen answer)
            (fun _ _ => .answered timely flow handler loaded chosen answer)
        · rintro error heard ⟨faults, seen⟩
          rw [seen, unseen]
          exact .faulted timely flow handler loaded chosen error faults
      · rw [unseen]
        cases flow with
        | idle => exact .unknown timely error loaded missing
        | active owner banked => cases missing

/-! ## Explicit sign-in -/

theorem ends_announces (report : Success) (asker : Asker) :
    Ends ((auth.recorded asker).reportSuccess turn report) scope
      (fun _ after => Announces turn report scope.view after.view)
      (fun _ after => Announces turn report scope.view after.view) := by
  refine (ends_reportSuccess auth turn report asker).mono ?_ ?_ <;>
  · rintro _ after (untold | told)
    · rw [untold]
      exact .silently
    · rw [told]
      exact .aloud

variable {auth services turn} {exchange : Option Exchange}

theorem yields_bankCompletion (same : scope.view = view) (pending : response.status = .pending) :
    Yields (bankCompletion (services.recorded turn) turn handler exchange) scope
      (auth.Decides services turn handler exchange response view) := by
  subst same
  simp only [Yields, bankCompletion, ends_bind, TurnAction.ends_count]
  exact (ends_writes services turn _ ()).mono (fun _ _ => .begins pending)
    (fun _ _ => .begins pending)

theorem yields_refuse (same : scope.view = view) (failed : response.status = .error) :
    Yields ((auth.recorded .application).refuse turn handler response) scope
      (auth.Decides services turn handler exchange response view) := by
  unfold refuse Yields
  rw [ends_bind]
  apply TurnAction.ends_count_of_forall
  intro counted unseen
  rw [same] at unseen
  subst unseen
  simp only [recorded]
  cases heard : auth.onFailure with
  | none => exact .returns failed heard
  | some callback =>
      refine (TurnAction.ends_noticed (callback turn _) fun _ => .failed turn _).mono ?_ ?_ <;>
      · intro _ after told
        rw [told]
        exact .reports failed _

theorem yields_accept {answer : Response}
    (heard : scope.view =
      view.see (.answered .application turn ⟨handler, true, exchange⟩ (.ok answer)))
    (complete : answer.effective.status = .complete) :
    Yields ((auth.recorded .application).accept turn handler answer.effective) scope
      (auth.Decides services turn handler exchange answer.effective
        (view.hear .application turn ⟨handler, true, exchange⟩ (.ok answer))) := by
  simp only [Yields, accept, ends_bind]
  have kept : Ends (cacheToken turn handler answer.effective) scope
      (fun token after => token = answer.effective.token.getD "" ∧
        after.view = view.hear .application turn ⟨handler, true, exchange⟩ (.ok answer))
      (fun _ _ => False) :=
    ⟨rfl, (ends_cacheToken turn complete heard).of_ok rfl⟩
  refine kept.mono ?_ fun _ _ impossible => impossible.elim
  rintro _ cached ⟨rfl, held⟩
  apply TurnAction.ends_count_of_forall
  intro counted unseen
  rw [← held, ← unseen]
  exact (ends_announces auth turn _ .application).mono (fun _ _ => .accepts complete _)
    (fun _ _ => .accepts complete _)

variable (auth services turn)

/-- An explicit sign-in comes to its end in one of the ways that are listed. -/
theorem yields_signIn (handler : String) (exchange : Option Exchange) :
    Yields ((auth.recorded .application).signIn (services.recorded turn) turn handler exchange)
      scope (auth.Entry services turn handler exchange scope.cancelled scope.view) := by
  unfold signIn Yields
  simp only [ends_bind, TurnAction.ends_ensureNotCancelled, TurnAction.ends_flow]
  split
  · exact .halted ‹_›
  have timely : scope.cancelled = false := eq_false_of_ne_true ‹_›
  refine ⟨fun flow loaded => ?_, fun error unread => .garbled timely error unread⟩
  cases flow with
  | active owner banked => exact .occupied timely owner banked loaded
  | idle =>
      cases known : auth.dispatcher.contains handler with
      | false => simpa [recorded, Dispatcher.recorded, known] using .unknown timely loaded known
      | true =>
          simp only [recorded, Dispatcher.recorded, known, Bool.not_true, Bool.false_eq_true,
            if_false, ends_bind, ends_get]
          cases kept : cachedToken scope.world turn handler with
          | some token =>
              rw [ends_bind]
              have held : scope.view.tokens.get? turn.user handler = some token := kept
              apply TurnAction.ends_count_of_forall
              intro counted unseen
              refine (ends_announces auth turn _ .application).mono ?_ ?_ <;>
              · intro _ after announces
                rw [unseen] at announces
                exact .remembered timely loaded known token held _ announces
          | none =>
              rw [ends_bind]
              refine (ends_invoke auth turn .application ⟨handler, true, exchange⟩).mono ?_ ?_
              · rintro response heard ⟨answer, rfl, seen⟩
                have decided {outcome : Except Error Unit} {after : View} :
                    auth.Decides services turn handler exchange answer.effective
                      (scope.view.hear .application turn ⟨handler, true, exchange⟩ (.ok answer))
                      outcome after →
                    auth.Entry services turn handler exchange scope.cancelled scope.view outcome
                      after := .answered timely loaded known answer
                have same (incomplete : answer.effective.status ≠ .complete) : heard.view =
                    scope.view.hear .application turn ⟨handler, true, exchange⟩ (.ok answer) :=
                  seen.trans (View.hear_of_incomplete _ _ _ _ incomplete).symm
                cases status : answer.effective.status with
                | complete =>
                    exact (yields_accept seen status).mono (fun _ _ => decided)
                      (fun _ _ => decided)
                | pending =>
                    exact (yields_bankCompletion (same (by simp [status])) status).mono
                      (fun _ _ => decided) (fun _ _ => decided)
                | error =>
                    exact (yields_refuse (same (by simp [status])) status).mono
                      (fun _ _ => decided) (fun _ _ => decided)
              · rintro error heard ⟨faults, seen⟩
                rw [seen]
                exact .faulted timely loaded known error faults

end Authenticator
end SignInFlow
