import SignInFlow.Proofs.Agreement

/-!
# Authenticators side by side

Before hosts that answer alike, with stores that a turn sees alike, whatever is asked of two
authenticators comes to the same, and so does the turn as a whole.  If both hosts keep a record,
they record the same.
-/

namespace SignInFlow

variable {σ υ α : Type}

theorem UserState.writing_concerns (state : UserState) (owns : Activity → Prop) :
    state.writing.Concerns state.key owns := by
  unfold writing
  cases state.properties.isEmpty with
  | true => exact .delete
  | false => exact .write _

/-! ## The operations -/

namespace Parallel

open TurnAction Authenticator

variable {turn : Turn} {sides : Sides σ υ} {left : Authenticator σ} {right : Authenticator υ}
  {leftServices : Services σ} {rightServices : Services υ}
  (parallel : Parallel turn sides.key sides.owns sides.hosts left right leftServices rightServices)
  (storing : Storing turn sides.key sides.owns sides.stores)

include parallel

theorem agrees_sendText (text : String) :
    Agrees sides.Scopes (sendText leftServices turn text) (sendText rightServices turn text) := by
  intro scope other kept
  have clock := parallel.clock _ _ kept.worlds.host
  change ResultsAgree sides.Scopes
    (ofAction (Action.ofHost (leftServices.send (turn.activity.reply text
      (leftServices.clock scope.world.host)))) scope)
    (ofAction (Action.ofHost (rightServices.send (turn.activity.reply text
      (rightServices.clock other.world.host)))) other)
  simp only [clock, ofAction, Action.ofHost]
  obtain ⟨value, _, _, ends, otherEnds, host⟩ | ⟨error, _, _, ends, otherEnds, host⟩ :=
    (parallel.send text (rightServices.clock other.world.host) _ _ kept.worlds.host).cases
  · rw [ends, otherEnds]
    exact .ok value { kept with worlds := { kept.worlds with host := host } }
  · rw [ends, otherEnds]
    exact .error error { kept with worlds := { kept.worlds with host := host } }

theorem agrees_reportSuccess (report : Success) :
    Agrees sides.Scopes (left.reportSuccess turn report) (right.reportSuccess turn report) := by
  have heard := parallel.onSuccess
  unfold reportSuccess
  generalize left.onSuccess = callback, right.onSuccess = other at heard ⊢
  cases heard with
  | none => exact agrees_pure ()
  | some agree => exact agrees_ofHost (agree report)

theorem agrees_reportFailure (report : Failure) :
    Agrees sides.Scopes (left.reportFailure leftServices turn report)
      (right.reportFailure rightServices turn report) := by
  have heard := parallel.onFailure
  unfold reportFailure
  generalize left.onFailure = callback, right.onFailure = other at heard ⊢
  cases heard with
  | none =>
      rw [parallel.settings]
      exact parallel.agrees_sendText _
  | some agree => exact agrees_ofHost (agree report)

theorem agrees_invoke (request : Request) :
    Agrees sides.Scopes (left.invoke turn request) (right.invoke turn request) := by
  refine (agrees_ofHost (parallel.signIn request)).bind fun response => ?_
  by_cases tokenless : response.status = .complete ∧ response.token = none
  · simp only [if_pos tokenless]
    exact agrees_pure _
  · simp only [if_neg tokenless]
    exact agrees_pure response

theorem agrees_passes (flow : Flow) :
    Agrees sides.Scopes (left.passes turn flow) (right.passes turn flow) := by
  unfold passes
  cases flow.isActive with
  | true => exact agrees_pure false
  | false => exact (agrees_ofHost parallel.policy).bind fun _ => agrees_pure _

theorem handlerFor (flow : Flow) (requested : Option String) :
    left.handlerFor flow requested = right.handlerFor flow requested := by
  simp only [Authenticator.handlerFor, requestedHandler, parallel.defaultHandler,
    parallel.contains]

theorem targetHandlers (handler : Option String) :
    left.targetHandlers handler = right.targetHandlers handler := by
  unfold Authenticator.targetHandlers
  rw [parallel.contains, parallel.names]

include storing

theorem agrees_save :
    Agrees sides.Scopes (save leftServices) (save rightServices) := by
  intro scope other kept
  rw [save_eq, save_eq, ← kept.state]
  cases dirty : scope.state.dirty with
  | false =>
      simp only [UserState.save, dirty, Bool.false_eq_true, if_false]
      exact .ok () { kept with state := rfl }
  | true =>
      have concerns : scope.state.writing.Concerns sides.key sides.owns := by
        have own := scope.state.writing_concerns sides.owns
        rwa [kept.keyed] at own
      rw [UserState.save_of_dirty _ dirty, UserState.save_of_dirty _ dirty]
      obtain ⟨_, _, _, ends, otherEnds, host⟩ | ⟨error, _, _, ends, otherEnds, host⟩ :=
        (parallel.permit _ concerns _ _ kept.worlds.host).cases
      · rw [ends, otherEnds]
        exact .ok () { kept with
          worlds :=
            { host := parallel.note _ concerns _ _ host
              stock := storing.write _ _ _ kept.worlds.stock kept.keyed kept.within }
          state := rfl }
      · rw [ends, otherEnds]
        exact .error error { kept with
          worlds := { kept.worlds with host := host }
          state := rfl }

theorem agrees_persist {flow : Flow} (within : flow.Within sides.owns) :
    Agrees sides.Scopes (persist leftServices flow) (persist rightServices flow) :=
  (storing.agrees_store within).bind fun _ => parallel.agrees_save storing

theorem agrees_submit {activity : Activity} (own : sides.owns activity) (handler : String) :
    Agrees sides.Scopes (submit leftServices activity handler)
      (submit rightServices activity handler) := by
  refine Agrees.bind ?_ fun _ => storing.agrees_count _
  intro scope other kept
  simp only [ofAction, Action.submit_eq]
  obtain ⟨_, _, _, ends, otherEnds, hosts⟩ | ⟨error, _, _, ends, otherEnds, hosts⟩ :=
    (parallel.permit _ (.submit activity own) _ _ kept.worlds.host).cases
  · rw [ends, otherEnds]
    obtain ⟨_, _, accepts, otherAccepts, stock⟩ | ⟨error, refuses, otherRefuses⟩ :=
      storing.submit_cases kept.worlds.stock own
    · rw [accepts, otherAccepts]
      exact .ok () { kept with
        worlds :=
          { host := parallel.note _ (.submit activity own) _ _ hosts
            stock := stock } }
    · rw [refuses, otherRefuses]
      exact .error error { kept with worlds := { kept.worlds with host := hosts } }
  · rw [ends, otherEnds]
    exact .error error { kept with worlds := { kept.worlds with host := hosts } }

/-! ### At the gate -/

theorem agrees_suspend (flow : Flow) (handler : String) :
    Agrees sides.Scopes (suspend leftServices turn flow handler)
      (suspend rightServices turn flow handler) := by
  unfold suspend
  cases flow.isActive with
  | true => exact agrees_pure ()
  | false =>
      have within : (Flow.active handler (some (.activity turn.activity))).Within sides.owns :=
        Flow.within_active storing.own
      exact (parallel.agrees_persist storing within).bind fun _ => storing.agrees_count _

/-- What is banked is one's own, and is handed on as such. -/
theorem agrees_redeliver (event : Completion) (own : sides.owns event.initiating) :
    Agrees sides.Scopes (left.redeliver leftServices event)
      (right.redeliver rightServices event) := by
  unfold redeliver
  rw [parallel.settings]
  have addressed : sides.owns (event.toActivity right.settings.completionEventName) :=
    storing.address event.initiating _ own rfl rfl
  exact parallel.agrees_submit storing addressed event.handler

theorem agrees_concludeFailure {flow : Flow} (within : flow.Within sides.owns) (handler : String)
    (response : Response) :
    Agrees sides.Scopes (left.concludeFailure leftServices turn flow handler response)
      (right.concludeFailure rightServices turn flow handler response) := by
  refine (storing.agrees_count _).bind fun _ => ?_
  have clears := parallel.agrees_persist storing Flow.within_idle
  have reports (failure : Failure) := clears.bind fun _ => parallel.agrees_reportFailure failure
  cases banks : flow.banked with
  | none => exact reports _
  | some banked =>
      have own : sides.owns banked.initiating := within banked banks
      cases banked with
      | activity trigger => exact reports _
      | completion event =>
          exact (parallel.agrees_redeliver storing (event.withResult handler response) own).bind
            fun _ => clears

theorem agrees_concludeSuccess {flow : Flow} (within : flow.Within sides.owns) (handler : String)
    (response : Response) :
    Agrees sides.Scopes (left.concludeSuccess leftServices turn flow handler response)
      (right.concludeSuccess rightServices turn flow handler response) := by
  refine (storing.agrees_cacheToken handler response).discard.bind fun _ => ?_
  refine (storing.agrees_count _).bind fun _ => ?_
  have clears (proceed : Bool) := (parallel.agrees_persist storing Flow.within_idle).bind
    fun _ => agrees_pure proceed
  cases banks : flow.banked with
  | none => exact clears true
  | some banked =>
      have own : sides.owns banked.initiating := within banked banks
      cases banked with
      | activity trigger =>
          simp only []
          cases trigger == turn.activity with
          | true => exact clears true
          | false => exact (parallel.agrees_submit storing own _).bind fun _ => clears false
      | completion event =>
          exact (parallel.agrees_redeliver storing (event.withResult handler response) own).bind
            fun _ => clears false

theorem agrees_startOrContinue (requested : Option String) :
    Agrees sides.Scopes (left.startOrContinue leftServices turn requested)
      (right.startOrContinue rightServices turn requested) := by
  refine agrees_ensureNotCancelled.bind fun _ => agrees_flow_bind fun flow within => ?_
  refine (parallel.agrees_passes flow).bind fun passes => ?_
  cases passes with
  | true => exact agrees_pure true
  | false =>
      simp only [Bool.false_eq_true, if_false, parallel.handlerFor]
      refine (agrees_ofExcept _).bind fun handler => ?_
      refine (parallel.agrees_invoke _).bind fun response => ?_
      cases response.status with
      | pending =>
          exact (parallel.agrees_suspend storing flow handler).bind fun _ => agrees_pure false
      | error =>
          exact (parallel.agrees_concludeFailure storing within handler response).bind
            fun _ => agrees_pure false
      | complete => exact parallel.agrees_concludeSuccess storing within handler response

/-! ### At the application's request -/

theorem agrees_bankCompletion (handler : String) (exchange : Option Exchange) :
    Agrees sides.Scopes (bankCompletion leftServices turn handler exchange)
      (bankCompletion rightServices turn handler exchange) := by
  have within : (Flow.active handler
      (some (.completion (.start handler exchange turn.activity)))).Within sides.owns :=
    Flow.within_active storing.own
  exact (parallel.agrees_persist storing within).bind fun _ => storing.agrees_count _

theorem agrees_refuse (handler : String) (response : Response) :
    Agrees sides.Scopes (left.refuse turn handler response)
      (right.refuse turn handler response) := by
  refine (storing.agrees_count _).bind fun _ => ?_
  have heard := parallel.onFailure
  generalize left.onFailure = callback, right.onFailure = other at heard ⊢
  cases heard with
  | none => exact agrees_throw _
  | some agree => exact agrees_ofHost (agree _)

theorem agrees_accept (handler : String) (response : Response) :
    Agrees sides.Scopes (left.accept turn handler response)
      (right.accept turn handler response) :=
  (storing.agrees_cacheToken handler response).bind fun _ => (storing.agrees_count _).bind
    fun _ => parallel.agrees_reportSuccess _

theorem agrees_signIn (handler : String) (exchange : Option Exchange) :
    Agrees sides.Scopes (left.signIn leftServices turn handler exchange)
      (right.signIn rightServices turn handler exchange) := by
  refine agrees_ensureNotCancelled.bind fun _ => agrees_flow_bind fun flow _ => ?_
  cases flow with
  | active owner banked => exact agrees_throw _
  | idle =>
      simp only [parallel.contains]
      cases right.dispatcher.contains handler with
      | false => exact agrees_throw _
      | true =>
          simp only [Bool.not_true, Bool.false_eq_true, if_false]
          refine agrees_get_bind fun scope other kept => ?_
          rw [storing.cachedToken_eq kept]
          cases cachedToken other.world turn handler with
          | some token =>
              exact (storing.agrees_count _).bind fun _ => parallel.agrees_reportSuccess _
          | none =>
              refine (parallel.agrees_invoke _).bind fun response => ?_
              cases response.status with
              | pending => exact parallel.agrees_bankCompletion storing handler exchange
              | error => exact parallel.agrees_refuse storing handler response
              | complete => exact parallel.agrees_accept storing handler response

theorem agrees_forget (handler : String) :
    Agrees sides.Scopes (forget leftServices turn handler)
      (forget rightServices turn handler) := by
  refine (storing.agrees_drop handler).bind fun _ => agrees_flow_bind fun flow _ => ?_
  by_cases owned : flow.handler = some handler
  · simp only [if_pos owned]
    exact parallel.agrees_persist storing Flow.within_idle
  · simp only [if_neg owned]
    exact agrees_pure ()

theorem agrees_forgetEach {act : String → HostCall σ Unit} {otherAct : String → HostCall υ Unit}
    (agrees : ∀ handler, Agrees (Visit.Alike sides.hosts) (act handler) (otherAct handler))
    (handlers : List String) :
    Agrees sides.Scopes (forgetEach leftServices turn act handlers)
      (forgetEach rightServices turn otherAct handlers) := by
  induction handlers with
  | nil => exact agrees_pure ()
  | cons handler rest ih =>
      exact (agrees_ofHost (agrees handler)).bind fun _ =>
        (parallel.agrees_forget storing handler).bind fun _ => ih

theorem agrees_signOut (handler : Option String) :
    Agrees sides.Scopes (left.signOut leftServices turn handler)
      (right.signOut rightServices turn handler) := by
  unfold Authenticator.signOut
  rw [parallel.targetHandlers]
  exact (agrees_ofExcept _).bind fun targets =>
    parallel.agrees_forgetEach storing parallel.signOut targets

theorem agrees_reset (handler : Option String) :
    Agrees sides.Scopes (left.reset leftServices turn handler)
      (right.reset rightServices turn handler) := by
  unfold Authenticator.reset
  rw [parallel.targetHandlers]
  exact (agrees_ofExcept _).bind fun targets =>
    parallel.agrees_forgetEach storing parallel.reset targets

theorem agrees_perform {conduct : Conduct σ} {other : Conduct υ}
    (alike : conduct.Alike sides.hosts other) :
    Agrees sides.Scopes (conduct.perform left leftServices turn)
      (other.perform right rightServices turn) := by
  induction alike with
  | finish outcome => exact agrees_ofExcept outcome
  | signIn handler exchange _ ih =>
      exact (agrees_attempt (parallel.agrees_signIn storing handler exchange)).bind ih
  | signOut handler _ ih =>
      exact (agrees_attempt (parallel.agrees_signOut storing handler)).bind ih
  | reset handler _ ih => exact (agrees_attempt (parallel.agrees_reset storing handler)).bind ih
  | token handler _ ih =>
      refine agrees_get_bind fun scope other kept => ?_
      rw [storing.cachedToken_eq kept]
      exact ih _
  | look _ ih =>
      refine agrees_get_bind fun scope other kept => ?_
      rw [kept.state]
      exact ih _
  | set name value foreign _ ih => exact (agrees_set name value foreign).bind fun _ => ih
  | remove name foreign _ ih => exact (agrees_remove name foreign).bind fun _ => ih
  | save _ ih => exact (agrees_attempt (parallel.agrees_save storing)).bind ih
  | call agrees _ ih => exact (agrees_attempt (agrees_ofHost agrees)).bind ih

/-! ### From the beginning of a turn to its end -/

omit storing in
theorem agrees_handleCompletion :
    Agrees sides.Scopes (left.handleCompletion leftServices turn)
      (right.handleCompletion rightServices turn) := by
  unfold handleCompletion
  cases turn.redelivered with
  | false => exact agrees_throw _
  | true =>
      refine (agrees_ofExcept _).bind fun event => ?_
      cases event.response with
      | none => exact agrees_throw _
      | some response =>
          simp only []
          cases response.status with
          | pending => exact agrees_throw _
          | complete => exact parallel.agrees_reportSuccess _
          | error => exact parallel.agrees_reportFailure _

/-- What a turn does once it has loaded the state of its user comes to the same on both sides, and
so does the turn. -/
theorem agrees_turn {action : TurnAction σ α} {other : TurnAction υ α}
    (agrees : Agrees sides.Scopes action other) (keyed : turn.activity.userKey = .ok sides.key)
    (cancelled : Bool) :
    Agrees sides.Worlds
      (do
        let state ← UserState.load leftServices turn.activity
        action.run state cancelled)
      (do
        let state ← UserState.load rightServices turn.activity
        other.run state cancelled) := by
  intro world other kept
  simp only [Bind.bind, EStateM.bind, UserState.load_eq _ keyed]
  obtain ⟨_, host, otherHost, ends, otherEnds, hosts⟩ | ⟨error, _, _, ends, otherEnds, hosts⟩ :=
    (parallel.permit _ .read _ _ kept.host).cases
  · have document : List.lookup sides.key world.documents =
        List.lookup sides.key other.documents := storing.document _ _ kept.stock
    have noted := parallel.note _ .read _ _ hosts
    rw [ends, otherEnds, ← document]
    cases held : UserState.propertiesOf sides.key (List.lookup sides.key world.documents) with
    | error error => exact .error error { kept with host := noted }
    | ok properties =>
        have within (flow : Flow) (loaded : Flow.load ⟨sides.key, properties, false⟩ = .ok flow) :
            flow.Within sides.owns := by
          rw [Flow.load_eq_stored held] at loaded
          exact storing.within _ _ kept.stock flow loaded
        exact agrees_run agrees rfl within cancelled _ _ { kept with host := noted }
  · rw [ends, otherEnds]
    exact .error error { kept with host := hosts }

end Parallel

namespace Parallel

open TurnAction

variable {turn : Turn} {sides : Sides σ υ} {leftServices : Services σ} {rightServices : Services υ}
  {left : Gateway σ} {right : Gateway υ}
  (parallel : Parallel turn sides.key sides.owns sides.hosts left.auth right.auth
    leftServices rightServices)
  (storing : Storing turn sides.key sides.owns sides.stores)
  (handler : left.handler = right.handler)
  (application : Agrees sides.Scopes (left.application turn)
    (right.application turn))

include parallel storing handler application

theorem agrees_route :
    Agrees sides.Scopes (left.route leftServices turn)
      (right.route rightServices turn) := by
  have completion : left.auth.isCompletionEvent turn.activity =
      right.auth.isCompletionEvent turn.activity := by
    unfold Authenticator.isCompletionEvent
    rw [parallel.settings]
  have saves := parallel.agrees_save storing
  unfold Gateway.route
  rw [completion, handler]
  cases right.auth.isCompletionEvent turn.activity with
  | true =>
      cases turn.redelivered with
      | false => exact agrees_pure ()
      | true => exact parallel.agrees_handleCompletion.bind fun _ => saves
  | false =>
      refine (parallel.agrees_startOrContinue storing right.handler).bind fun passes => ?_
      cases passes with
      | true => exact application.bind fun _ => saves
      | false => exact saves

/-- A turn comes to the same on both sides, from its beginning to its end. -/
theorem agrees_process (keyed : turn.activity.userKey = .ok sides.key) (cancelled : Bool) :
    Agrees sides.Worlds (left.process leftServices turn cancelled)
      (right.process rightServices turn cancelled) :=
  parallel.agrees_turn storing (parallel.agrees_route storing handler application) keyed cancelled

end Parallel

/-! ## Recorded hosts side by side -/

/-- Two recorded hosts that have seen the same. -/
structure Recorded.Alike (hosts : σ → υ → Prop) (recorded : Recorded σ) (other : Recorded υ) :
    Prop where
  host : hosts recorded.host other.host
  log : recorded.log = other.log

section

variable {hosts : σ → υ → Prop}

theorem agrees_unnoticed {call : HostCall σ α} {other : HostCall υ α}
    (agrees : Agrees (Visit.Alike hosts) call other) :
    Agrees (Visit.Alike (Recorded.Alike hosts)) call.unnoticed other.unnoticed := by
  intro visit otherVisit kept
  simp only [HostCall.unnoticed]
  obtain ⟨value, _, _, ends, otherEnds, alike⟩ | ⟨error, _, _, ends, otherEnds, alike⟩ :=
    (agrees ⟨visit.host.host, visit.cancelled⟩ ⟨otherVisit.host.host, otherVisit.cancelled⟩
      ⟨kept.host.host, kept.cancelled⟩).cases
  · rw [ends, otherEnds]
    exact .ok value ⟨⟨alike.host, kept.host.log⟩, alike.cancelled⟩
  · rw [ends, otherEnds]
    exact .error error ⟨⟨alike.host, kept.host.log⟩, alike.cancelled⟩

theorem agrees_noticed {call : HostCall σ α} {other : HostCall υ α}
    (agrees : Agrees (Visit.Alike hosts) call other) (event : Except Error α → Event) :
    Agrees (Visit.Alike (Recorded.Alike hosts)) (call.noticed event) (other.noticed event) := by
  intro visit otherVisit kept
  simp only [HostCall.noticed]
  obtain ⟨value, _, _, ends, otherEnds, alike⟩ | ⟨error, _, _, ends, otherEnds, alike⟩ :=
    (agrees ⟨visit.host.host, visit.cancelled⟩ ⟨otherVisit.host.host, otherVisit.cancelled⟩
      ⟨kept.host.host, kept.cancelled⟩).cases
  · rw [ends, otherEnds]
    exact .ok value ⟨⟨alike.host, congrArg (_ :: ·) kept.host.log⟩, alike.cancelled⟩
  · rw [ends, otherEnds]
    exact .error error ⟨⟨alike.host, congrArg (_ :: ·) kept.host.log⟩, alike.cancelled⟩

theorem Conduct.Alike.recorded {conduct : Conduct σ} {other : Conduct υ}
    (alike : conduct.Alike hosts other) :
    conduct.recorded.Alike (Recorded.Alike hosts) other.recorded := by
  induction alike with
  | finish outcome => exact .finish outcome
  | signIn handler exchange _ ih => exact .signIn handler exchange ih
  | signOut handler _ ih => exact .signOut handler ih
  | reset handler _ ih => exact .reset handler ih
  | token handler _ ih => exact .token handler ih
  | look _ ih => exact .look ih
  | set name value foreign _ ih => exact .set name value foreign ih
  | remove name foreign _ ih => exact .remove name foreign ih
  | save _ ih => exact .save ih
  | call agrees _ ih => exact .call (agrees_unnoticed agrees) ih

variable {turn : Turn} {key : String} {owns : Activity → Prop} {left : Authenticator σ}
  {right : Authenticator υ} {leftServices : Services σ} {rightServices : Services υ}

theorem StartPolicy.shouldStart_recorded (policy : StartPolicy σ) :
    policy.recorded.shouldStart turn = (policy.shouldStart turn).unnoticed := by
  cases policy <;> rfl

/-- Hosts that answer alike see the same when both are recorded. -/
theorem Parallel.recorded
    (parallel : Parallel turn key owns hosts left right leftServices rightServices)
    (asker : Asker) :
    Parallel turn key owns (Recorded.Alike hosts) (left.recorded asker) (right.recorded asker)
      (leftServices.recorded turn) (rightServices.recorded turn) where
  settings := parallel.settings
  defaultHandler := parallel.defaultHandler
  names := parallel.names
  contains := parallel.contains
  policy := by
    have unnoticed := agrees_unnoticed parallel.policy
    rwa [← StartPolicy.shouldStart_recorded, ← StartPolicy.shouldStart_recorded] at unnoticed
  signIn request := agrees_noticed (parallel.signIn request) _
  signOut handler := agrees_noticed (parallel.signOut handler) _
  reset handler := agrees_noticed (parallel.reset handler) _
  onSuccess := by
    have heard := parallel.onSuccess
    unfold Authenticator.recorded
    generalize left.onSuccess = callback, right.onSuccess = other at heard ⊢
    cases heard with
    | none => exact .none
    | some agree => exact .some fun report => agrees_noticed (agree report) _
  onFailure := by
    have heard := parallel.onFailure
    unfold Authenticator.recorded
    generalize left.onFailure = callback, right.onFailure = other at heard ⊢
    cases heard with
    | none => exact .none
    | some agree => exact .some fun report => agrees_noticed (agree report) _
  permit access concerns := by
    intro recorded other kept
    simp only [Services.recorded]
    obtain ⟨value, _, _, ends, otherEnds, host⟩ | ⟨error, _, _, ends, otherEnds, host⟩ :=
      (parallel.permit access concerns _ _ kept.host).cases
    · rw [ends, otherEnds]
      exact .ok () ⟨host, kept.log⟩
    · rw [ends, otherEnds]
      exact .error error ⟨host, congrArg (_ :: ·) kept.log⟩
  note access concerns recorded other kept :=
    ⟨parallel.note access concerns _ _ kept.host, congrArg (_ :: ·) kept.log⟩
  send text now := by
    intro recorded other kept
    simp only [Services.recorded, Recorded.ofHost]
    obtain ⟨value, _, _, ends, otherEnds, host⟩ | ⟨error, _, _, ends, otherEnds, host⟩ :=
      (parallel.send text now recorded.host other.host kept.host).cases
    · simp only [Recorded.see, ends, otherEnds]
      exact .ok () ⟨host, congrArg (_ :: ·) kept.log⟩
    · simp only [Recorded.see, ends, otherEnds]
      exact .error error ⟨host, congrArg (_ :: ·) kept.log⟩
  clock recorded other kept := parallel.clock _ _ kept.host

theorem Parallel.mono
    (parallel : Parallel turn key owns hosts left right leftServices rightServices)
    {fewer : Activity → Prop} (subset : ∀ activity, fewer activity → owns activity) :
    Parallel turn key fewer hosts left right leftServices rightServices := by
  have concerns (access : Access) (concern : access.Concerns key fewer) :
      access.Concerns key owns := by
    cases concern with
    | read => exact .read
    | write document => exact .write document
    | delete => exact .delete
    | submit activity own => exact .submit activity (subset activity own)
  exact { parallel with
    permit := fun access concern => parallel.permit access (concerns access concern)
    note := fun access concern => parallel.note access (concerns access concern) }

end

end SignInFlow
