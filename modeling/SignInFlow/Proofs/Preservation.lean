import SignInFlow.Proofs.History
import SignInFlow.Proofs.Operations

/-!
# What operations leave alone

After a handler has answered, an operation writes back, queues, counts and reports.  A property of
what lasts and of the record that tolerates each of these is kept by all that follows an answer.
-/

namespace SignInFlow

variable {σ α β : Type}

/-- An action keeps a property, wherever it stops. -/
def Preserves (holds : View → Prop) (action : TurnAction (Recorded σ) α) : Prop :=
  ∀ scope, holds scope.view →
    Ends action scope (fun _ after => holds after.view) (fun _ after => holds after.view)

section

variable {holds : View → Prop}

theorem Preserves.bind {action : TurnAction (Recorded σ) α}
    {next : α → TurnAction (Recorded σ) β} (preserves : Preserves holds action)
    (continues : ∀ value, Preserves holds (next value)) : Preserves holds (action >>= next) := by
  intro scope held
  rw [ends_bind]
  exact (preserves scope held).mono (fun value after => continues value after) fun _ _ => id

theorem preserves_pure (value : α) :
    Preserves holds (pure value : TurnAction (Recorded σ) α) := fun _ held => held

theorem preserves_throw (error : Error) :
    Preserves holds (throw error : TurnAction (Recorded σ) α) := fun _ held => held

theorem preserves_count (metric : Metric) :
    Preserves holds (TurnAction.count metric : TurnAction (Recorded σ) Unit) := fun _ held => held

theorem preserves_ofExcept (outcome : Except Error α) :
    Preserves holds (MonadExcept.ofExcept outcome : TurnAction (Recorded σ) α) := by
  intro scope held
  simp only [ends_ofExcept]
  exact ⟨fun _ _ => held, fun _ _ => held⟩

theorem Preserves.attempt {action : TurnAction (Recorded σ) α}
    (preserves : Preserves holds action) : Preserves holds (TurnAction.attempt action) := by
  intro scope held
  rw [TurnAction.ends_attempt]
  exact preserves scope held

theorem preserves_get_bind {next : Scope (Recorded σ) → TurnAction (Recorded σ) α}
    (preserves : ∀ scope, Preserves holds (next scope)) : Preserves holds (get >>= next) :=
  fun scope held => preserves scope scope held

end

/-! ## Withdrawals and applications -/

section

variable {holds : View → Prop} {turn : Turn} {services : Services σ} {auth : Authenticator σ}
  (parts : ∀ view way handler outcome, holds view → holds (view.part turn way handler outcome))
  (clears : Preserves holds (TurnAction.persist (services.recorded turn) .idle))

include parts clears

/-- A handler is made to forget the user, and what is kept for it goes with it. -/
theorem preserves_forget (way : Withdrawal) (call : HostCall σ Unit) (handler : String) :
    Preserves holds (do
      TurnAction.ofHost (call.noticed (.withdrew turn way handler))
      Authenticator.forget (services.recorded turn) turn handler) := by
  intro scope held
  rw [ends_bind]
  refine (TurnAction.ends_noticed call (.withdrew turn way handler)).mono ?_ ?_
  · intro _ acted seen
    simp only [Authenticator.forget, ends_bind, TurnAction.ends_ofAction, ends_modify,
      TurnAction.ends_flow]
    have gone : holds { acted.view with
        tokens := acted.view.tokens.remove turn.user handler } := by
      rw [seen]
      exact parts scope.view way handler (.ok ()) held
    refine ⟨fun flow loaded => ?_, fun _ _ => gone⟩
    split
    · exact clears _ gone
    · exact gone
  · intro error acted seen
    rw [seen]
    exact parts scope.view way handler (.error error) held

/-- What withdrawals and clearing the flow leave alone is left alone by withdrawing from any number
of handlers. -/
theorem preserves_forgetEach (way : Withdrawal) (act : String → HostCall σ Unit)
    (handlers : List String) :
    Preserves holds (Authenticator.forgetEach (services.recorded turn) turn
      (fun handler => (act handler).noticed (.withdrew turn way handler)) handlers) := by
  induction handlers with
  | nil => exact preserves_pure ()
  | cons handler rest ih =>
      have first := (preserves_forget parts clears way (act handler) handler).bind fun _ => ih
      rwa [bind_assoc] at first

theorem preserves_signOut (handler : Option String) :
    Preserves holds
      ((auth.recorded .application).signOut (services.recorded turn) turn handler) :=
  (preserves_ofExcept _).bind fun targets =>
    preserves_forgetEach parts clears .signOut (auth.dispatcher.signOut turn) targets

theorem preserves_reset (handler : Option String) :
    Preserves holds
      ((auth.recorded .application).reset (services.recorded turn) turn handler) :=
  (preserves_ofExcept _).bind fun targets =>
    preserves_forgetEach parts clears .reset (auth.dispatcher.reset turn) targets

/-- What an application leaves alone, if all that it asks for does. -/
theorem preserves_perform
    (signIn : ∀ handler exchange, Preserves holds
      ((auth.recorded .application).signIn (services.recorded turn) turn handler exchange))
    (save : Preserves holds (TurnAction.save (services.recorded turn)))
    (set : ∀ view name value, holds view →
      holds { view with state := view.state.set name value })
    (remove : ∀ view name, holds view → holds { view with state := view.state.remove name })
    (conduct : Conduct σ) :
    Preserves holds
      (conduct.recorded.perform (auth.recorded .application) (services.recorded turn) turn) := by
  induction conduct with
  | finish outcome => exact preserves_ofExcept outcome
  | signIn handler exchange next ih => exact (signIn handler exchange).attempt.bind ih
  | signOut handler next ih =>
      exact (preserves_signOut parts clears handler).attempt.bind ih
  | reset handler next ih => exact (preserves_reset parts clears handler).attempt.bind ih
  | token handler next ih => exact preserves_get_bind fun _ => ih _
  | look next ih => exact preserves_get_bind fun _ => ih _
  | set name value foreign next ih =>
      exact Preserves.bind (fun scope => set scope.view name value) fun _ => ih
  | remove name foreign next ih =>
      exact Preserves.bind (fun scope => remove scope.view name) fun _ => ih
  | save next ih => exact save.attempt.bind ih
  | call action next ih =>
      have unnoticed : Preserves holds (TurnAction.ofHost action.unnoticed) := by
        intro scope held
        refine (TurnAction.ends_unnoticed action).mono ?_ ?_ <;>
        · intro _ after unseen
          rwa [unseen]
      exact unnoticed.attempt.bind ih

end

/-- A property that has no part in the tokens and the queue, and stays true with every event that is
neither an answer nor an access to storage. -/
structure Tolerant (turn : Turn) (holds : View → Prop) : Prop where
  elsewhere : ∀ view tokens queue, holds view → holds { view with tokens := tokens, queue := queue }
  see : ∀ view event, event.turn = turn → event.isAnswer = false →
    (∀ documents, event.apply documents = documents) → holds view → holds (view.see event)

namespace Tolerant

variable {turn : Turn} {holds : View → Prop}

theorem notice (tolerant : Tolerant turn holds) {view : View} {event : Event}
    (own : event.turn = turn) (notice : event.isNotice = true) (held : holds view) :
    holds (view.see event) :=
  tolerant.see view event own (Event.isAnswer_of_notice notice) (Event.apply_of_notice notice) held

variable (auth : Authenticator σ) (services : Services σ)

theorem preserves_noticed (tolerant : Tolerant turn holds) (call : HostCall σ α) (event : Event)
    (own : event.turn = turn) (notice : event.isNotice = true) :
    Preserves holds (TurnAction.ofHost (call.noticed fun _ => event)) := by
  intro scope held
  refine (TurnAction.ends_noticed call fun _ => event).mono ?_ ?_ <;>
  · intro _ after seen
    rw [seen]
    exact tolerant.notice own notice held

theorem preserves_reportSuccess (tolerant : Tolerant turn holds) (report : Success)
    (asker : Asker) : Preserves holds ((auth.recorded asker).reportSuccess turn report) := by
  unfold Authenticator.reportSuccess
  simp only [Authenticator.recorded]
  cases auth.onSuccess with
  | none => exact preserves_pure ()
  | some callback => exact tolerant.preserves_noticed (callback turn report) _ rfl rfl

theorem preserves_reportFailure (tolerant : Tolerant turn holds) (report : Failure)
    (asker : Asker) :
    Preserves holds ((auth.recorded asker).reportFailure (services.recorded turn) turn report) := by
  intro scope held
  refine (Authenticator.ends_reportFailure auth services turn report asker).mono ?_ ?_ <;>
  · rintro _ after ⟨now, told⟩
    rw [told]
    obtain ⟨own, notice⟩ := auth.notice_failureEvent turn report now
    exact tolerant.notice own notice held

theorem preserves_submit (tolerant : Tolerant turn holds) (activity : Activity)
    (handler : String) :
    Preserves holds (Authenticator.submit (services.recorded turn) activity handler) := by
  intro scope held
  refine (Authenticator.ends_submit services turn activity handler).mono ?_ ?_
  · rintro _ after ⟨queue, -, queued⟩
    rw [queued]
    exact tolerant.see _ _ rfl rfl (fun _ => rfl)
      (tolerant.elsewhere scope.view scope.view.tokens queue held)
  · rintro _ after (⟨-, refused⟩ | ⟨-, stopped⟩)
    · rw [refused]
      exact tolerant.see _ _ rfl rfl (fun _ => rfl) held
    · rwa [stopped]

theorem preserves_cacheToken (tolerant : Tolerant turn holds) (handler : String)
    (response : Response) :
    Preserves holds
      (Authenticator.cacheToken turn handler response : TurnAction (Recorded σ) String) :=
  fun scope held => tolerant.elsewhere scope.view
    (scope.view.tokens.insert turn.user handler (response.token.getD "")) scope.view.queue held

/-- Refusing a user at once stores nothing. -/
theorem preserves_refuse (tolerant : Tolerant turn holds) (handler : String)
    (response : Response) :
    Preserves holds ((auth.recorded .application).refuse turn handler response) := by
  refine (preserves_count _).bind fun _ => ?_
  simp only [Authenticator.recorded]
  cases auth.onFailure with
  | none => exact preserves_throw _
  | some callback => exact tolerant.preserves_noticed (callback turn _) _ rfl rfl

/-- Accepting a user at once stores nothing. -/
theorem preserves_accept (tolerant : Tolerant turn holds) (handler : String)
    (response : Response) :
    Preserves holds ((auth.recorded .application).accept turn handler response) :=
  (tolerant.preserves_cacheToken handler response).bind fun _ => (preserves_count _).bind fun _ =>
    tolerant.preserves_reportSuccess auth _ .application

variable (clears : Preserves holds (TurnAction.persist (services.recorded turn) .idle))

include clears in
/-- What concludes a flow without a token keeps what clearing the flow keeps. -/
theorem preserves_concludeFailure (tolerant : Tolerant turn holds) (flow : Flow) (handler : String)
    (response : Response) :
    Preserves holds ((auth.recorded .gate).concludeFailure (services.recorded turn) turn flow
      handler response) := by
  refine (preserves_count _).bind fun _ => ?_
  have reports (report : Failure) : Preserves holds (do
      TurnAction.persist (services.recorded turn) .idle
      (auth.recorded .gate).reportFailure (services.recorded turn) turn report) :=
    clears.bind fun _ => tolerant.preserves_reportFailure auth services report .gate
  rcases flow.banked with _ | trigger | event
  · exact reports _
  · exact reports _
  · exact (tolerant.preserves_submit services _ _).bind fun _ => clears

include clears in
/-- What concludes a flow with a token keeps what clearing the flow keeps. -/
theorem preserves_concludeSuccess (tolerant : Tolerant turn holds) (flow : Flow) (handler : String)
    (response : Response) :
    Preserves holds ((auth.recorded .gate).concludeSuccess (services.recorded turn) turn flow
      handler response) := by
  have kept : Preserves holds (discard (Authenticator.cacheToken turn handler response) :
      TurnAction (Recorded σ) Unit) := tolerant.preserves_cacheToken handler response
  have concludes (proceed : Bool) : Preserves holds (do
      TurnAction.persist (services.recorded turn) .idle
      pure proceed) := clears.bind fun _ => preserves_pure proceed
  refine kept.bind fun _ => (preserves_count _).bind fun _ => ?_
  rcases flow.banked with _ | trigger | event
  · exact concludes true
  · dsimp only
    split
    · exact concludes true
    · exact (tolerant.preserves_submit services _ _).bind fun _ => concludes false
  · exact (tolerant.preserves_submit services _ _).bind fun _ => concludes false

end Tolerant

end SignInFlow
