import SignInFlow.Proofs.Transition

/-!
# Outcomes of actions

`Ends` says what holds after an action, whether it succeeds or fails.  It is taken apart along the
action; each basic action before a recorded host then has one lemma that says what it does to the
view.
-/

namespace SignInFlow

variable {σ τ α β : Type}

/-- What holds once an action has succeeded, and what once it has failed. -/
def Ends (action : EStateM Error τ α) (state : τ) (done : α → τ → Prop)
    (failed : Error → τ → Prop) : Prop :=
  match action state with
  | .ok value after => done value after
  | .error error after => failed error after

section

variable {state : τ} {done : α → τ → Prop} {failed : Error → τ → Prop}

theorem Ends.mono {action : EStateM Error τ α} {done' : α → τ → Prop} {failed' : Error → τ → Prop}
    (ends : Ends action state done failed)
    (whenDone : ∀ value after, done value after → done' value after)
    (whenFailed : ∀ error after, failed error after → failed' error after) :
    Ends action state done' failed' := by
  unfold Ends at ends ⊢
  split at ends
  · exact whenDone _ _ ends
  · exact whenFailed _ _ ends

theorem Ends.and {action : EStateM Error τ α} {done' : α → τ → Prop} {failed' : Error → τ → Prop}
    (ends : Ends action state done failed) (also : Ends action state done' failed') :
    Ends action state (fun value after => done value after ∧ done' value after)
      (fun error after => failed error after ∧ failed' error after) := by
  cases result : action state with
  | ok value after =>
      simp only [Ends, result] at ends also ⊢
      exact ⟨ends, also⟩
  | error error after =>
      simp only [Ends, result] at ends also ⊢
      exact ⟨ends, also⟩

/-- What holds however an action ends holds of what it leaves. -/
theorem Ends.left {action : EStateM Error τ α} {holds : τ → Prop}
    (ends : Ends action state (fun _ => holds) (fun _ => holds)) :
    holds (remains (action state)) := by
  unfold Ends at ends
  cases result : action state with
  | ok value after => simpa only [result, remains] using ends
  | error error after => simpa only [result, remains] using ends

theorem Ends.of_ok {action : EStateM Error τ α} {value : α} {after : τ}
    (ends : Ends action state done failed)
    (result : action state = .ok value after) : done value after := by
  simpa only [Ends, result] using ends

theorem Ends.of_error {action : EStateM Error τ α} {error : Error} {after : τ}
    (ends : Ends action state done failed) (result : action state = .error error after) :
    failed error after := by
  simpa only [Ends, result] using ends

/-- What can only fail in one way does so. -/
theorem Ends.eq_error {action : EStateM Error τ α} {error : Error} {after : τ}
    (ends : Ends action state (fun _ _ => False)
      (fun failure left => failure = error ∧ left = after)) :
    action state = .error error after := by
  cases result : action state with
  | ok value left => exact (ends.of_ok result).elim
  | error failure left =>
      obtain ⟨rfl, rfl⟩ := ends.of_error result
      rfl

/-- What can only succeed in one way does so. -/
theorem Ends.eq_ok {action : EStateM Error τ α} {value : α} {left : τ}
    (ends : Ends action state (fun given after => given = value ∧ after = left)
      (fun _ _ => False)) : action state = .ok value left := by
  cases result : action state with
  | error error after => exact (ends.of_error result).elim
  | ok given after =>
      obtain ⟨rfl, rfl⟩ := ends.of_ok result
      rfl

@[simp] theorem ends_pure (value : α) : Ends (pure value) state done failed ↔ done value state :=
  Iff.rfl

@[simp] theorem ends_throw (error : Error) :
    Ends (throw error) state done failed ↔ failed error state := Iff.rfl

@[simp] theorem ends_bind (action : EStateM Error τ β) (next : β → EStateM Error τ α) :
    Ends (action >>= next) state done failed ↔
      Ends action state (fun value after => Ends (next value) after done failed) failed := by
  unfold Ends
  simp only [bind, EStateM.bind]
  cases action state <;> rfl

@[simp] theorem ends_discard (action : EStateM Error τ α) {done : Unit → τ → Prop} :
    Ends (discard action) state done failed ↔
      Ends action state (fun _ after => done () after) failed := by
  unfold Ends
  simp only [discard, Functor.mapConst, Function.comp_apply, EStateM.map]
  cases action state <;> rfl

@[simp] theorem ends_get {done : τ → τ → Prop} :
    Ends get state done failed ↔ done state state := Iff.rfl

@[simp] theorem ends_modify (change : τ → τ) {done : Unit → τ → Prop} :
    Ends (modify change) state done failed ↔ done () (change state) := Iff.rfl

@[simp] theorem ends_ofExcept (result : Except Error α) :
    Ends (MonadExcept.ofExcept result) state done failed ↔
      (∀ value, result = .ok value → done value state) ∧
        ∀ error, result = .error error → failed error state := by
  cases result <;> simp [MonadExcept.ofExcept]

end

namespace Action

variable {world : World σ} {failed : Error → World σ → Prop}

@[simp] theorem ends_ofHost (call : EStateM Error σ α) {done : α → World σ → Prop} :
    Ends (ofHost call) world done failed ↔
      Ends call world.host (fun value host => done value { world with host := host })
        (fun error host => failed error { world with host := host }) := by
  unfold Ends ofHost
  cases call world.host <;> rfl

@[simp] theorem ends_changeHost (change : σ → σ) {done : Unit → World σ → Prop} :
    Ends (changeHost change) world done failed ↔
      done () { world with host := change world.host } := Iff.rfl

end Action

namespace TurnAction

variable {scope : Scope σ} {failed : Error → Scope σ → Prop}

@[simp] theorem ends_ofAction (action : Action σ α) {done : α → Scope σ → Prop} :
    Ends (ofAction action) scope done failed ↔
      Ends action scope.world (fun value world => done value { scope with world := world })
        (fun error world => failed error { scope with world := world }) := by
  unfold Ends ofAction
  cases action scope.world <;> rfl

@[simp] theorem ends_modifyState (change : UserState → UserState) {done : Unit → Scope σ → Prop} :
    Ends (modifyState change) scope done failed ↔
      done () { scope with state := change scope.state } := Iff.rfl

@[simp] theorem ends_count (metric : Metric) {done : Unit → Scope σ → Prop} :
    Ends (count metric) scope done failed ↔
      done () { scope with
        world := { scope.world with metrics := scope.world.metrics ++ [metric] } } := Iff.rfl

@[simp] theorem ends_attempt (action : TurnAction σ α) {done : Except Error α → Scope σ → Prop} :
    Ends (attempt action) scope done failed ↔
      Ends action scope (fun value => done (.ok value)) (fun error => done (.error error)) := by
  unfold Ends attempt
  cases action scope <;> rfl

@[simp] theorem ends_ensureNotCancelled {done : Unit → Scope σ → Prop} :
    Ends ensureNotCancelled scope done failed ↔
      if scope.cancelled then failed .cancelled scope else done () scope := by
  unfold ensureNotCancelled
  cases cancelled : scope.cancelled <;> simp [cancelled]

@[simp] theorem ends_flow {done : Flow → Scope σ → Prop} :
    Ends flow scope done failed ↔
      (∀ flow, Flow.load scope.state = .ok flow → done flow scope) ∧
        ∀ error, Flow.load scope.state = .error error → failed error scope := by
  simp [flow]

end TurnAction

theorem eq_error_of_told {result : EStateM.Result Error τ α} {error : Error}
    (failed : told result = .error error) : ∃ left, result = .error error left := by
  cases result with
  | ok value left => cases failed
  | error other left =>
      cases failed
      exact ⟨left, rfl⟩

theorem eq_ok_of_told {result : EStateM.Result Error τ α} {value : α}
    (succeeded : told result = .ok value) : ∃ left, result = .ok value left := by
  cases result with
  | error error left => cases succeeded
  | ok other left =>
      cases succeeded
      exact ⟨left, rfl⟩

/-! ## Before a recorded host -/

/-- The host may refuse an access with an error. -/
def Services.Refuses (services : Services σ) (access : Access) (error : Error) : Prop :=
  ∃ host left, services.permit access host = .error error left

namespace TurnAction

variable {scope : Scope (Recorded σ)}

theorem ends_unnoticed (call : HostCall σ α) :
    Ends (ofHost call.unnoticed) scope (fun _ after => after.view = scope.view)
      (fun _ after => after.view = scope.view) := by
  unfold Ends ofHost HostCall.unnoticed
  dsimp only
  cases call ⟨scope.world.host.host, scope.cancelled⟩ <;> rfl

/-- A call that is remembered is remembered with what it comes to. -/
theorem ends_noticed_told (call : HostCall σ α) (event : Except Error α → Event) :
    Ends (ofHost (call.noticed event)) scope
      (fun value after => told (call ⟨scope.world.host.host, scope.cancelled⟩) = .ok value ∧
        after.view = scope.view.see (event (.ok value)))
      (fun error after => told (call ⟨scope.world.host.host, scope.cancelled⟩) = .error error ∧
        after.view = scope.view.see (event (.error error))) := by
  unfold Ends ofHost HostCall.noticed
  dsimp only
  cases call ⟨scope.world.host.host, scope.cancelled⟩ <;> exact ⟨rfl, rfl⟩

theorem ends_noticed (call : HostCall σ α) (event : Except Error α → Event) :
    Ends (ofHost (call.noticed event)) scope
      (fun value after => after.view = scope.view.see (event (.ok value)))
      (fun error after => after.view = scope.view.see (event (.error error))) :=
  (ends_noticed_told call event).mono (fun _ _ => And.right) (fun _ _ => And.right)

/-- A call that is remembered fails only as the call itself may fail. -/
theorem ends_noticed_fails (call : HostCall σ α) (event : Except Error α → Event) :
    Ends (ofHost (call.noticed event)) scope (fun _ _ => True)
      (fun error _ => ∃ visit left, call visit = .error error left) := by
  refine (ends_noticed_told call event).mono (fun _ _ _ => trivial) ?_
  rintro error after ⟨failed, -⟩
  obtain ⟨left, failed⟩ := eq_error_of_told failed
  exact ⟨_, left, failed⟩

theorem ends_noteAdmitted (turn : Turn) {done : Unit → Scope (Recorded σ) → Prop}
    {failed : Error → Scope (Recorded σ) → Prop} :
    Ends (noteAdmitted turn) scope done failed ↔ done () { scope with
      world := { scope.world with host := scope.world.host.see (.admitted turn) } } := Iff.rfl

/-- Counting is not seen. -/
theorem ends_count_of_forall (metric : Metric) {done : Unit → Scope (Recorded σ) → Prop}
    {failed : Error → Scope (Recorded σ) → Prop}
    (whenDone : ∀ after, after.view = scope.view → done () after) :
    Ends (count metric) scope done failed :=
  whenDone _ rfl

/-- Asking for an access changes nothing but the host, and is seen if it is refused. -/
theorem ends_permit (services : Services σ) (turn : Turn) (access : Access)
    {world : World (Recorded σ)} :
    Ends (Action.ofHost ((services.recorded turn).permit access)) world
      (fun _ after => ∃ host, after = { world with host := { world.host with host := host } })
      (fun error after => services.Refuses access error ∧ ∃ host, after =
        { world with
          host := Recorded.see (.refused turn access) { world.host with host := host } }) := by
  simp only [Action.ends_ofHost]
  unfold Ends Services.recorded
  dsimp only
  cases permitted : services.permit access world.host.host with
  | ok _ host => exact ⟨host, rfl⟩
  | error error host => exact ⟨⟨world.host.host, host, permitted⟩, host, rfl⟩

theorem ends_save (services : Services σ) (turn : Turn) :
    Ends (save (services.recorded turn)) scope
      (fun _ after => after.view = scope.view.saved turn)
      (fun error after => scope.state.dirty = true ∧ ∃ access : Access,
        access.isStorage = true ∧ services.Refuses access error ∧
          after.view = scope.view.see (.refused turn access)) := by
  simp only [save, UserState.save, ends_bind, ends_get, ends_ofAction, ends_modifyState]
  cases dirty : scope.state.dirty with
  | false => simp [View.saved, Scope.view, World.view, dirty]
  | true =>
      cases empty : scope.state.properties.isEmpty <;>
        simp only [if_true, Bool.false_eq_true, if_false, Storage.delete, Storage.write, ends_bind,
          ends_modify, Action.ends_changeHost, ends_pure]
      all_goals
        refine (ends_permit services turn _).mono ?_ ?_
        · rintro _ _ ⟨host, rfl⟩
          simp [Scope.view, World.view, View.saved, View.see, dirty, empty, Services.recorded,
            Recorded.see]
        · rintro _ _ ⟨refuses, host, rfl⟩
          exact ⟨trivial, _, rfl, refuses, rfl⟩

theorem ends_persist (services : Services σ) (turn : Turn) (flow : Flow) :
    Ends (persist (services.recorded turn) flow) scope
      (fun _ after => after.view = (scope.view.hold flow).saved turn)
      (fun error after => ∃ access : Access,
        access.isStorage = true ∧ services.Refuses access error ∧
          after.view = (scope.view.hold flow).see (.refused turn access)) := by
  simp only [persist, ends_bind, ends_modifyState]
  exact (ends_save services turn).mono (fun _ _ => id) fun _ _ => And.right

/-- Sending a text fails only as the sender may fail. -/
theorem ends_sendText_fails (services : Services σ) (turn : Turn) (text : String) :
    Ends (sendText (services.recorded turn) turn text) scope (fun _ _ => True)
      (fun error _ => ∃ now host left,
        services.send (turn.activity.reply text now) host = .error error left) := by
  simp only [sendText, ends_bind, ends_get, ends_ofAction, Action.ends_ofHost]
  unfold Ends Services.recorded Recorded.ofHost
  dsimp only
  cases sent : services.send _ (scope.world.host.see _).host with
  | ok _ host => trivial
  | error error host => exact ⟨services.clock scope.world.host.host, _, host, sent⟩

theorem ends_sendText (services : Services σ) (turn : Turn) (text : String) :
    Ends (sendText (services.recorded turn) turn text) scope
      (fun _ after =>
        ∃ now, after.view = scope.view.see (.sent turn (turn.activity.reply text now)))
      (fun _ after =>
        ∃ now, after.view = scope.view.see (.sent turn (turn.activity.reply text now))) := by
  simp only [sendText, ends_bind, ends_get, ends_ofAction, Action.ends_ofHost]
  unfold Ends Services.recorded Recorded.ofHost
  dsimp only
  cases services.send _ (scope.world.host.see _).host <;>
    exact ⟨services.clock scope.world.host.host, rfl⟩

end TurnAction
end SignInFlow
