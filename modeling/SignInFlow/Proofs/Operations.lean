import SignInFlow.Proofs.Gate

/-!
# Operations are steps

What an application asks for comes down to steps as well: an explicit sign-in to two at most, a
sign-out to one for each handler that it is for. So does all that an application does.
-/

namespace SignInFlow

variable {σ α β : Type}

namespace Authenticator

variable (auth : Authenticator σ) (services : Services σ) (turn : Turn)
  {scope : Scope (Recorded σ)}

/-! ## Operations one after the other -/

/-- The action comes down to steps, wherever it stops. -/
def Moves (action : TurnAction (Recorded σ) α) : Prop :=
  ∀ scope, Ends action scope (fun _ after => auth.Reaches turn scope.view after.view)
    (fun _ after => auth.Reaches turn scope.view after.view)

variable {auth services turn}

theorem Moves.bind {action : TurnAction (Recorded σ) α} {next : α → TurnAction (Recorded σ) β}
    (moves : auth.Moves turn action) (continues : ∀ value, auth.Moves turn (next value)) :
    auth.Moves turn (action >>= next) := by
  intro scope
  rw [ends_bind]
  refine (moves scope).mono ?_ fun _ _ => id
  intro value middle reached
  exact (continues value middle).mono (fun _ _ => reached.trans) (fun _ _ => reached.trans)

theorem Moves.attempt {action : TurnAction (Recorded σ) α} (moves : auth.Moves turn action) :
    auth.Moves turn (TurnAction.attempt action) := by
  intro scope
  rw [TurnAction.ends_attempt]
  exact moves scope

theorem moves_ofExcept (result : Except Error α) :
    auth.Moves turn (MonadExcept.ofExcept result) := by
  intro scope
  simp only [ends_ofExcept]
  exact ⟨fun _ _ => .refl, fun _ _ => .refl⟩

theorem moves_pure (value : α) : auth.Moves turn (pure value) := fun _ => .refl

theorem moves_get_bind {next : Scope (Recorded σ) → TurnAction (Recorded σ) α}
    (moves : ∀ scope, auth.Moves turn (next scope)) : auth.Moves turn (get >>= next) :=
  fun scope => moves scope scope

theorem moves_unnoticed (call : HostCall σ α) :
    auth.Moves turn (TurnAction.ofHost call.unnoticed) := by
  intro scope
  refine (TurnAction.ends_unnoticed call).mono ?_ ?_ <;>
  · intro _ after unseen
    rw [unseen]
    exact .refl

variable (auth services turn)

theorem moves_save : auth.Moves turn (TurnAction.save (services.recorded turn)) := by
  intro scope
  refine (TurnAction.ends_save services turn).mono ?_ ?_
  · intro _ after saved
    rw [saved]
    exact .single .saved
  · rintro _ after ⟨-, access, storage, -, refused⟩
    rw [refused]
    exact .single (.refused access storage)

/-! ## Explicit sign-in -/

section

variable {auth services turn} {handler : String} {exchange : Option Exchange} {view after : View}
  {outcome : Except Error Unit}

theorem Announces.reaches {report : Success} (announces : Announces turn report view after) :
    auth.Reaches turn view after := by
  cases announces with
  | silently => exact .refl
  | aloud => exact .single (.told report)

theorem Decides.reaches {answer : Response} (idle : Flow.load view.state = .ok .idle)
    (known : auth.dispatcher.contains handler = true)
    (decides : auth.Decides services turn handler exchange answer.effective
      (view.hear .application turn ⟨handler, true, exchange⟩ (.ok answer)) outcome after) :
    auth.Reaches turn view after := by
  have heard (concluded : answer.effective.status ≠ .pending) : auth.Reaches turn view
      (view.hear .application turn ⟨handler, true, exchange⟩ (.ok answer)) :=
    .single (.heard _ _ _ (by simp [Event.begins, concluded]) (fun gate => by cases gate)
      ⟨.idle, idle, rfl⟩)
  cases decides with
  | begins pending writes =>
      refine .single
        (.began .application ⟨handler, true, exchange⟩ answer idle known rfl pending ?_)
      cases writes with
      | kept => exact .kept
      | refused access error storage refuses => exact .refused access storage
  | returns failed silent => exact heard (by simp [failed])
  | reports failed outcome =>
      exact .single (.disappointed ⟨handler, true, exchange⟩ answer idle failed rfl)
  | accepts complete outcome announces =>
      exact (heard (by simp [complete])).trans announces.reaches

theorem Entry.reaches {cancelled : Bool}
    (entry : auth.Entry services turn handler exchange cancelled view outcome after) :
    auth.Reaches turn view after := by
  cases entry with
  | halted late => exact .refl
  | garbled timely error unread => exact .refl
  | occupied timely owner banked active => exact .refl
  | unknown timely idle missing => exact .refl
  | remembered timely idle known token kept outcome announces => exact announces.reaches
  | faulted timely idle known error faults =>
      exact .single (.heard .application _ (.error error) rfl (fun gate => by cases gate)
        ⟨.idle, idle, rfl⟩)
  | answered timely idle known answer decides => exact decides.reaches idle known

end

/-- An explicit sign-in comes down to steps. -/
theorem moves_signIn (handler : String) (exchange : Option Exchange) :
    auth.Moves turn
      ((auth.recorded .application).signIn (services.recorded turn) turn handler exchange) :=
  fun _ => (yields_signIn auth services turn handler exchange).mono (fun _ _ => Entry.reaches)
    (fun _ _ => Entry.reaches)

/-! ## Signing out, resetting, completion -/

/-- Once a handler has forgotten the user, what is kept for it is forgotten in the same step. -/
theorem ends_forget {view : View} {way : Withdrawal} {handler : String}
    (seen : scope.view = view.see (.withdrew turn way handler (.ok ()))) :
    Ends (forget (services.recorded turn) turn handler) scope
      (fun _ after => auth.Step turn view after.view)
      (fun _ after => auth.Step turn view after.view) := by
  have state_eq : scope.state = view.state := congrArg View.state seen
  have parted (after : Scope (Recorded σ))
      (same : after = { scope with world := { scope.world with
        tokens := scope.world.tokens.remove turn.user handler } }) :
      after.view = view.part turn way handler (.ok ()) := by
    simp only [View.part, ← seen, same]
    rfl
  simp only [forget, ends_bind, TurnAction.ends_ofAction, ends_modify, TurnAction.ends_flow]
  refine ⟨fun flow loaded => ?_, fun _ _ => ?_⟩
  · rw [state_eq] at loaded
    cases flow with
    | idle =>
        simp only [Flow.handler, reduceCtorEq, if_false, ends_pure]
        rw [parted _ rfl]
        refine .parted way handler (.ok ()) fun _ banked own => ?_
        rw [loaded] at own
        cases own
    | active owner banked =>
        by_cases owned : owner = handler
        · subst owned
          simp only [Flow.handler, if_true]
          refine (TurnAction.ends_persist services turn .idle).mono ?_ ?_
          · intro _ after kept
            rw [kept, parted _ rfl]
            exact .withdrawn way owner banked loaded .kept
          · rintro _ after ⟨access, storage, -, held⟩
            rw [held, parted _ rfl]
            exact .withdrawn way owner banked loaded (.refused access storage)
        · simp only [Flow.handler, Option.some.injEq, owned, if_false, ends_pure]
          rw [parted _ rfl]
          refine .parted way handler (.ok ()) fun _ banked own => ?_
          rw [loaded] at own
          cases own
          exact owned rfl
  · rename_i error undecodable
    rw [parted _ rfl]
    refine .parted way handler (.ok ()) fun _ banked own => ?_
    rw [← state_eq, undecodable] at own
    cases own

/-- One step for each handler, up to the first that fails. -/
theorem moves_forgetEach (way : Withdrawal) (act : String → HostCall σ Unit)
    (handlers : List String) :
    auth.Moves turn (forgetEach (services.recorded turn) turn
      (fun handler => (act handler).noticed (.withdrew turn way handler)) handlers) := by
  induction handlers with
  | nil => exact moves_pure ()
  | cons handler rest ih =>
      have first : auth.Moves turn (do
          TurnAction.ofHost ((act handler).noticed (.withdrew turn way handler))
          forget (services.recorded turn) turn handler) := by
        intro scope
        rw [ends_bind]
        refine (TurnAction.ends_noticed (act handler) (.withdrew turn way handler)).mono ?_ ?_
        · intro _ middle seen
          exact (ends_forget auth services turn seen).mono (fun _ _ => .single) (fun _ _ => .single)
        · intro error after seen
          rw [seen]
          exact .single (.parted way handler (.error error) fun done => by cases done)
      rw [forgetEach, ← bind_assoc]
      exact first.bind fun _ => ih

theorem moves_signOut (handler : Option String) (asker : Asker) :
    auth.Moves turn
      ((auth.recorded asker).signOut (services.recorded turn) turn handler) :=
  (moves_ofExcept _).bind fun targets =>
    moves_forgetEach auth services turn .signOut (auth.dispatcher.signOut turn) targets

theorem moves_reset (handler : Option String) (asker : Asker) :
    auth.Moves turn
      ((auth.recorded asker).reset (services.recorded turn) turn handler) :=
  (moves_ofExcept _).bind fun targets =>
    moves_forgetEach auth services turn .reset (auth.dispatcher.reset turn) targets

/-- The completion route reports once at most, what the activity of its turn carries. -/
theorem ends_handleCompletion :
    Ends ((auth.recorded .gate).handleCompletion (services.recorded turn) turn) scope
      (fun _ after => auth.Completes turn scope.view after.view)
      (fun _ after => auth.Completes turn scope.view after.view) := by
  unfold handleCompletion
  cases redelivered : turn.redelivered with
  | false => exact .nothing
  | true =>
      simp only [Bool.not_true, Bool.false_eq_true, if_false, ends_bind, ends_ofExcept]
      refine ⟨fun event decoded => ?_, fun _ _ => .nothing⟩
      cases carried : event.response with
      | none => exact .nothing
      | some response =>
          cases status : response.status with
          | pending => simpa only [status] using .nothing
          | complete =>
              simp only [status]
              refine (ends_reportSuccess auth turn _ .gate).mono ?_ ?_ <;>
              · rintro _ after (unseen | told)
                · rw [unseen]
                  exact .nothing
                · rw [told]
                  exact .reported event response _ redelivered decoded carried (.success status)
          | error =>
              simp only [status]
              refine (ends_reportFailure auth services turn _ .gate).mono ?_ ?_ <;>
              · rintro _ after ⟨now, told⟩
                rw [told]
                exact .reported event response _ redelivered decoded carried (.failure status now)

/-- Whatever an application does comes down to steps. -/
theorem moves_perform (conduct : Conduct σ) :
    auth.Moves turn
      (conduct.recorded.perform (auth.recorded .application) (services.recorded turn) turn) := by
  induction conduct with
  | finish outcome => exact moves_ofExcept outcome
  | signIn handler exchange next ih =>
      exact (moves_signIn auth services turn handler exchange).attempt.bind ih
  | signOut handler next ih => exact (moves_signOut auth services turn handler _).attempt.bind ih
  | reset handler next ih => exact (moves_reset auth services turn handler _).attempt.bind ih
  | token handler next ih => exact moves_get_bind fun _ => ih _
  | look next ih => exact moves_get_bind fun _ => ih _
  | set name value foreign next ih =>
      refine Moves.bind (fun scope => ?_) fun _ => ih
      exact .single (.set name value foreign)
  | remove name foreign next ih =>
      refine Moves.bind (fun scope => ?_) fun _ => ih
      exact .single (.remove name foreign)
  | save next ih => exact (moves_save auth services turn).attempt.bind ih
  | call action next ih => exact (moves_unnoticed action).attempt.bind ih

end Authenticator
end SignInFlow
