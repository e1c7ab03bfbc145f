import SignInFlow.Proofs.Draining
import SignInFlow.Proofs.Outlets
import SignInFlow.Proofs.WriteBack

/-!
# What operations count

A flow is counted when it has been stored, and a submission when the queue has accepted it.  A
conclusion is counted before it is handed on and before the flow is cleared, so it is counted again
where that has failed and the flow is still stored.  For each operation: what it adds to the
metrics, and whose flow it leaves stored, by the flow that its turn sees and the one that was
stored.
-/

namespace SignInFlow

variable {σ α : Type}

/-! ## Counting -/

namespace Metric

/-- A flow of a handler was started. -/
def starts (name : String) : Metric → Bool
  | started handler => handler == name
  | _ => false

/-- A sign-in of a handler has given a token or has failed. -/
def concludes (name : String) : Metric → Bool
  | completed handler => handler == name
  | failed handler _ => handler == name
  | _ => false

/-- An activity was handed to the queue. -/
def submits : Metric → Bool
  | submitted _ => true
  | _ => false

end Metric

/-- The handler of a flow, if there is one that can be read. -/
def Flow.owner : Except Error Flow → Option String
  | .ok flow => flow.handler
  | .error _ => none

/-- The handler of the flow that a state tells of. -/
def UserState.owner (state : UserState) : Option String := Flow.owner (Flow.load state)

/-- The handler of the flow that is stored for a user. -/
def World.owner (world : World σ) (key : String) : Option String :=
  Flow.owner (Flow.stored world.documents key)

/-- Since before, there is more in the metrics and the queue has accepted as many as they tell; no
other user's flow has changed. -/
structure Scope.Tallies (before : Scope σ) (added : List Metric) (after : Scope σ) : Prop where
  own : after.state.key = before.state.key
  others : ∀ key, key ≠ before.state.key → after.world.owner key = before.world.owner key
  metrics : after.world.metrics = before.world.metrics ++ added
  accepted : after.world.queue.tally.submitted =
    before.world.queue.tally.submitted + added.countP Metric.submits

/-- Since before, nothing has changed in the documents and in the state of the turn. -/
structure Scope.Counts (before : Scope σ) (added : List Metric) (after : Scope σ) : Prop where
  documents : after.world.documents = before.world.documents
  state : after.state = before.state
  metrics : after.world.metrics = before.world.metrics ++ added
  accepted : after.world.queue.tally.submitted =
    before.world.queue.tally.submitted + added.countP Metric.submits

namespace Scope.Counts

variable {before middle after : Scope σ} {added more : List Metric}

theorem refl (scope : Scope σ) : scope.Counts [] scope :=
  ⟨rfl, rfl, (List.append_nil _).symm, rfl⟩

theorem trans (first : before.Counts added middle) (second : middle.Counts more after) :
    before.Counts (added ++ more) after where
  documents := second.documents.trans first.documents
  state := second.state.trans first.state
  metrics := by rw [second.metrics, first.metrics, List.append_assoc]
  accepted := by rw [second.accepted, first.accepted, List.countP_append, Nat.add_assoc]

theorem tallies (counts : before.Counts added after) : before.Tallies added after where
  own := by rw [counts.state]
  others := fun key _ => by rw [World.owner, World.owner, counts.documents]
  metrics := counts.metrics
  accepted := counts.accepted

theorem owner_eq (counts : before.Counts added after) (key : String) :
    after.world.owner key = before.world.owner key := by
  rw [World.owner, World.owner, counts.documents]

/-- What the host does, and what becomes of tokens, is not counted. -/
theorem of_host (scope : Scope σ) (tokens : TokenCache) (host : σ) (cancelled : Bool) :
    scope.Counts [] { scope with
      world := { scope.world with tokens := tokens, host := host }
      cancelled := cancelled } :=
  ⟨rfl, rfl, (List.append_nil _).symm, rfl⟩

end Scope.Counts

theorem Scope.Tallies.trans {before middle after : Scope σ} {added more : List Metric}
    (first : before.Tallies added middle) (second : middle.Tallies more after) :
    before.Tallies (added ++ more) after where
  own := second.own.trans first.own
  others := fun key differs =>
    (second.others key (first.own ▸ differs)).trans (first.others key differs)
  metrics := by rw [second.metrics, first.metrics, List.append_assoc]
  accepted := by rw [second.accepted, first.accepted, List.countP_append, Nat.add_assoc]

/-! ## Steps of operations -/

section

variable {services : Services σ} {auth : Authenticator σ} {turn : Turn} {before scope : Scope σ}
  {added : List Metric}

namespace TurnAction

theorem ends_ofHost_counts (call : HostCall σ α) (scope : Scope σ) :
    Ends (ofHost call) scope (fun _ after => scope.Counts [] after)
      (fun _ after => scope.Counts [] after) := by
  unfold Ends ofHost
  cases call ⟨scope.world.host, scope.cancelled⟩ with
  | ok value visit => exact .of_host scope scope.world.tokens visit.host _
  | error error visit => exact .of_host scope scope.world.tokens visit.host _

theorem ends_count_counts {metric : Metric} (unsubmitted : metric.submits = false)
    (scope : Scope σ) :
    Ends (count metric) scope (fun _ after => scope.Counts [metric] after) (fun _ _ => False) := by
  rw [ends_count]
  exact ⟨rfl, rfl, rfl, by simp [unsubmitted]⟩

theorem ends_sendText_counts (services : Services σ) (turn : Turn) (text : String)
    (scope : Scope σ) :
    Ends (sendText services turn text) scope (fun _ after => scope.Counts [] after)
      (fun _ after => scope.Counts [] after) := by
  simp only [sendText, ends_bind, ends_get, ends_ofAction, Action.ends_ofHost]
  unfold Ends
  cases services.send _ scope.world.host with
  | ok value host => exact .of_host scope scope.world.tokens host _
  | error error host => exact .of_host scope scope.world.tokens host _

/-- Writing back stores the flow that the turn knows, unless it is refused or nothing changed. -/
theorem ends_save_tallies (services : Services σ) (scope : Scope σ) :
    Ends (save services) scope
      (fun _ after => scope.Tallies [] after ∧ after.world.owner scope.state.key =
        if scope.state.dirty then scope.state.owner else scope.world.owner scope.state.key)
      (fun _ after => scope.Counts [] after) := by
  refine (ends_save_alone services scope).mono ?_ ?_
  · rintro _ _ ⟨host, rfl⟩
    cases dirty : scope.state.dirty with
    | false => exact ⟨⟨rfl, fun _ _ => rfl, (List.append_nil _).symm, rfl⟩, rfl⟩
    | true =>
        refine ⟨⟨rfl, fun key differs => ?_, (List.append_nil _).symm, rfl⟩, ?_⟩
        · exact congrArg Flow.owner (scope.state.stored_writing_of_ne _ differs)
        · exact congrArg Flow.owner (scope.state.stored_writing_self _)
  · rintro error _ ⟨-, -, host, rfl⟩
    exact .of_host scope scope.world.tokens host _

/-- A flow is stored, unless that is refused or nothing has changed. -/
theorem ends_persist_tallies (services : Services σ) (flow : Flow) (scope : Scope σ) :
    Ends (persist services flow) scope
      (fun _ after => scope.Tallies [] after ∧ after.world.owner scope.state.key =
        if (flow.store scope.state).dirty then flow.handler
        else scope.world.owner scope.state.key)
      (fun _ after => scope.Tallies [] after ∧
        after.world.owner scope.state.key = scope.world.owner scope.state.key) := by
  have sees : (flow.store scope.state).owner = flow.handler := by
    rw [UserState.owner, Flow.load_store]
    cases flow <;> rfl
  have same : (flow.store scope.state).key = scope.state.key := Flow.store_key flow scope.state
  simp only [persist, ends_bind, ends_modifyState]
  refine (ends_save_tallies services { scope with state := flow.store scope.state }).mono ?_ ?_
  · rintro _ after ⟨⟨own, others, metrics, accepted⟩, owner⟩
    simp only [sees, same] at own others owner
    exact ⟨⟨own, others, metrics, accepted⟩, owner⟩
  · rintro error after counts
    obtain ⟨own, others, metrics, accepted⟩ := counts.tallies
    have owner := counts.owner_eq scope.state.key
    simp only [same] at own others
    exact ⟨⟨own, others, metrics, accepted⟩, owner⟩

end TurnAction

namespace Authenticator

theorem ends_submit_counts (services : Services σ) (activity : Activity) (handler : String)
    (scope : Scope σ) :
    Ends (submit services activity handler) scope
      (fun _ after => scope.Counts [.submitted handler] after)
      (fun _ after => scope.Counts [] after) := by
  simp only [submit, ends_bind, TurnAction.ends_ofAction, Action.submit, ends_get, ends_ofExcept,
    ends_modify, Action.ends_changeHost, TurnAction.ends_count, Action.ends_ofHost]
  unfold Ends
  cases services.permit (.submit activity) scope.world.host with
  | error error host => exact .of_host scope scope.world.tokens host _
  | ok _ host =>
      refine ⟨fun queue accepted => ⟨rfl, rfl, rfl, ?_⟩,
        fun error _ => .of_host scope scope.world.tokens host _⟩
      simp only [ReplayQueue.submit] at accepted
      split at accepted
      · cases accepted
        rfl
      · cases accepted

theorem ends_reportSuccess_counts (auth : Authenticator σ) (turn : Turn) (report : Success)
    (scope : Scope σ) :
    Ends (auth.reportSuccess turn report) scope (fun _ after => scope.Counts [] after)
      (fun _ after => scope.Counts [] after) := by
  unfold reportSuccess
  cases auth.onSuccess with
  | none => exact .refl scope
  | some callback => exact TurnAction.ends_ofHost_counts (callback turn report) scope

theorem ends_reportFailure_counts (auth : Authenticator σ) (services : Services σ) (turn : Turn)
    (report : Failure) (scope : Scope σ) :
    Ends (auth.reportFailure services turn report) scope (fun _ after => scope.Counts [] after)
      (fun _ after => scope.Counts [] after) := by
  unfold reportFailure
  cases auth.onFailure with
  | none => exact TurnAction.ends_sendText_counts services turn _ scope
  | some callback => exact TurnAction.ends_ofHost_counts (callback turn report) scope

theorem ends_invoke_counts (auth : Authenticator σ) (turn : Turn) (request : Request)
    (scope : Scope σ) :
    Ends (auth.invoke turn request) scope (fun _ after => scope.Counts [] after)
      (fun _ after => scope.Counts [] after) := by
  simp only [invoke, ends_bind]
  refine (TurnAction.ends_ofHost_counts (auth.dispatcher.signIn turn request) scope).mono ?_
    fun _ _ => id
  intro response after counts
  split <;> exact counts

theorem ends_cacheToken_counts (turn : Turn) (handler : String) (response : Response)
    (scope : Scope σ) :
    Ends (cacheToken turn handler response) scope (fun _ after => scope.Counts [] after)
      (fun _ _ => False) := .of_host scope _ scope.world.host scope.cancelled

theorem ends_passes_counts (auth : Authenticator σ) (turn : Turn) (flow : Flow) (scope : Scope σ) :
    Ends (auth.passes turn flow) scope (fun _ after => scope.Counts [] after)
      (fun _ after => scope.Counts [] after) := by
  unfold passes
  split
  · exact .refl scope
  · simp only [ends_bind]
    exact (TurnAction.ends_ofHost_counts (auth.policy.shouldStart turn) scope).mono
      (fun _ _ => id) (fun _ _ => id)

end Authenticator

/-! ## What an operation counts -/

/-- One conclusion of a handler is counted, and none of another. -/
def Metric.Once (handler : String) (added : List Metric) : Prop :=
  ∀ name, added.countP (Metric.concludes name) = if name = handler then 1 else 0

/-- What an operation has counted, and whose flow it leaves stored, by the flow that its turn sees
and the one that was stored. -/
inductive Counted (sees held : Option String) (failed : Bool) :
    List Metric → Option String → Prop where
  /-- No flow in progress has concluded, and what is stored has not changed. -/
  | kept (added : List Metric)
      (unconcluded : sees ≠ none → ∀ name, added.countP (Metric.concludes name) = 0) :
      Counted sees held failed added held
  /-- No flow in progress has concluded, and none is stored. -/
  | cleared (added : List Metric)
      (unconcluded : sees ≠ none → ∀ name, added.countP (Metric.concludes name) = 0) :
      Counted sees held failed added none
  /-- The state of the turn has been written back. -/
  | written : Counted sees held failed [] sees
  /-- A flow has begun. -/
  | begun (name : String) (idle : sees = none) :
      Counted sees held failed [.started name] (some name)
  /-- The flow in progress has concluded, and is not stored any more. -/
  | concluded (name : String) (active : sees = some name) (added : List Metric)
      (once : Metric.Once name added) : Counted sees held failed added none
  /-- The flow in progress has concluded, but the operation has failed before it was cleared. -/
  | stuck (name : String) (active : sees = some name) (late : failed = true) (added : List Metric)
      (once : Metric.Once name added) : Counted sees held failed added held

/-- What is counted as concluded for flows in progress, and what is stored then, is paid for by what
was stored before and by what has begun.  One more may be counted where the operation has failed and
the flow is still stored, or where the turn saw another flow than the one that was stored. -/
theorem Counted.balance {sees held left : Option String} {failed : Bool} {added : List Metric}
    (counted : Counted sees held failed added left) (name : String) {conclusions : Nat}
    (few : conclusions ≤ if sees = none then 0 else added.countP (Metric.concludes name)) :
    conclusions + (left == some name).toNat ≤
      (held == some name).toNat + added.countP (Metric.starts name) +
        (decide (0 < conclusions) && failed && left == some name ||
          sees != held && (decide (0 < conclusions) ||
            left == some name && held != some name)).toNat := by
  have none_of (unconcluded : sees ≠ none →
      ∀ name, added.countP (Metric.concludes name) = 0) : conclusions = 0 := by
    split at few
    · exact Nat.le_zero.mp few
    · exact Nat.le_zero.mp (unconcluded ‹_› name ▸ few)
  have one_of {handler : String} (active : sees = some handler)
      (once : Metric.Once handler added) :
      conclusions = 0 ∨ conclusions = 1 ∧ sees = some name := by
    rw [if_neg (by simp [active]), once name] at few
    by_cases own : name = handler
    · subst own
      rw [if_pos rfl] at few
      exact (Nat.le_one_iff_eq_zero_or_eq_one.mp few).imp_right fun one => ⟨one, active⟩
    · rw [if_neg own] at few
      exact .inl (Nat.le_zero.mp few)
  cases counted with
  | kept added unconcluded =>
      rw [none_of unconcluded]
      omega
  | cleared added unconcluded =>
      rw [none_of unconcluded]
      exact Nat.zero_le _
  | written =>
      -- what comes to be stored is paid for only where it was stored before
      rw [none_of fun _ _ => rfl]
      by_cases same : sees = held
      · rw [same]
        omega
      · have differs : (sees != held) = true := bne_iff_ne.mpr same
        by_cases owned : held = some name
        · rw [owned, beq_self_eq_true, Nat.zero_add]
          exact (Bool.toNat_le _).trans
            (Nat.le_trans (Nat.le_add_right _ _) (Nat.le_add_right _ _))
        · have unowned : (held != some name) = true := bne_iff_ne.mpr owned
          simp [differs, unowned]
  | begun handler idle =>
      rw [none_of fun active => absurd idle active]
      by_cases own : handler = name
      · subst own
        have counted : [Metric.started handler].countP (Metric.starts handler) = 1 := by
          simp [Metric.starts]
        rw [counted, beq_self_eq_true]
        exact Nat.le_trans (Nat.le_add_left 1 _) (Nat.le_add_right _ _)
      · have other : (some handler == some name) = false := by simpa using own
        rw [other]
        exact Nat.zero_le _
  | concluded handler active added once =>
      rcases one_of active once with rfl | ⟨rfl, sees⟩
      · exact Nat.zero_le _
      · by_cases same : held = some name
        · rw [same, beq_self_eq_true]
          exact Nat.le_trans (Nat.le_add_right _ _) (Nat.le_add_right _ _)
        · have differs : (some name != held) = true := bne_iff_ne.mpr (Ne.symm same)
          simp [sees, differs]
  | stuck handler active late added once =>
      rcases one_of active once with rfl | ⟨rfl, sees⟩
      · omega
      · -- the flow pays for its conclusion when it goes, and here it has not gone
        by_cases same : held = some name
        · simp only [same, late, beq_self_eq_true, Nat.zero_lt_one, decide_true, Bool.and_self,
            Bool.true_or, Bool.toNat_true]
          omega
        · have differs : (some name != held) = true := bne_iff_ne.mpr (Ne.symm same)
          have unowned : (held == some name) = false := beq_eq_false_iff_ne.mpr same
          simp [sees, differs, unowned]

/-- What an operation has counted since before. -/
def Scope.Reckons (before : Scope σ) (failed : Bool) (after : Scope σ) : Prop :=
  ∃ added, before.Tallies added after ∧
    Counted before.state.owner (before.world.owner before.state.key) failed added
      (after.world.owner before.state.key)

theorem Scope.Counts.kept (counts : before.Counts added scope)
    (unconcluded : before.state.owner ≠ none →
      ∀ name, added.countP (Metric.concludes name) = 0) (failed : Bool) :
    before.Reckons failed scope := by
  refine ⟨added, counts.tallies, ?_⟩
  rw [counts.owner_eq]
  exact .kept added unconcluded

/-- What counts nothing keeps everything. -/
theorem Scope.Counts.idly (counts : before.Counts [] scope) (failed : Bool) :
    before.Reckons failed scope := counts.kept (fun _ _ => rfl) failed

/-- Nothing is counted, and the flow that is stored stays or is cleared. -/
def Scope.Loses (before after : Scope σ) : Prop :=
  before.Tallies [] after ∧
    (after.world.owner before.state.key = before.world.owner before.state.key ∨
      after.world.owner before.state.key = none)

theorem Scope.Counts.loses (counts : before.Counts [] scope) : before.Loses scope :=
  ⟨counts.tallies, .inl (counts.owner_eq _)⟩

theorem Scope.Loses.trans {middle : Scope σ} (loses : before.Loses middle)
    (more : middle.Loses scope) : before.Loses scope := by
  obtain ⟨tallies, owner⟩ := loses
  obtain ⟨later, left⟩ := more
  rw [tallies.own] at left
  refine ⟨tallies.trans later, left.elim (fun same => ?_) .inr⟩
  rwa [same]

theorem Scope.Loses.reckons (loses : before.Loses scope) (failed : Bool) :
    before.Reckons failed scope := by
  obtain ⟨tallies, owner | owner⟩ := loses
  · exact ⟨[], tallies, owner ▸ .kept [] fun _ _ => rfl⟩
  · exact ⟨[], tallies, owner ▸ .cleared [] fun _ _ => rfl⟩

variable {flow : Flow}

theorem UserState.owner_of_load {state : UserState}
    (loaded : Flow.load state = .ok flow) : state.owner = flow.handler := by
  rw [owner, loaded]
  rfl

/-- A conclusion that cannot be handed on leaves the flow as it is. -/
theorem Scope.Counts.stuck {handler : String} (counts : before.Counts added scope)
    (loaded : Flow.load before.state = .ok flow)
    (owns : ∀ name, flow.handler = some name → name = handler) (once : Metric.Once handler added) :
    before.Reckons true scope := by
  have sees := UserState.owner_of_load loaded
  refine ⟨added, counts.tallies, ?_⟩
  rw [counts.owner_eq]
  cases flow with
  | idle => exact .kept added fun active => absurd sees active
  | active name banked =>
      obtain rfl := owns name rfl
      exact .stuck name sees rfl added once

namespace Authenticator

variable {handler : String} {response : Response}

/-- After a conclusion was counted, a flow in progress is cleared, or clearing it has failed. -/
theorem ends_clear_reckons (services : Services σ) (counts : before.Counts added scope)
    (loaded : Flow.load before.state = .ok flow)
    (owns : ∀ name, flow.handler = some name → name = handler) (once : Metric.Once handler added) :
    Ends (TurnAction.persist services .idle) scope
      (fun _ after => ∀ failed left, after.Counts [] left → before.Reckons failed left)
      (fun _ after => before.Reckons true after) := by
  have sees := UserState.owner_of_load loaded
  have key : scope.state.key = before.state.key := by rw [counts.state]
  refine (TurnAction.ends_persist_tallies services .idle scope).mono ?_ ?_
  · rintro _ after ⟨tallies, owner⟩ failed left still
    refine ⟨added ++ [] ++ [], (counts.tallies.trans tallies).trans still.tallies, ?_⟩
    rw [List.append_nil, List.append_nil, still.owner_eq, ← key, owner, key]
    cases flow with
    | idle =>
        have unconcluded : before.state.owner ≠ none → ∀ name,
          added.countP (Metric.concludes name) = 0 := fun active => absurd sees active
        split
        · exact .cleared added unconcluded
        · rw [counts.owner_eq]
          exact .kept added unconcluded
    | active name banked =>
        obtain rfl := owns name rfl
        rw [← counts.state] at loaded
        rw [if_pos (Flow.store_idle_dirty loaded)]
        exact .concluded name sees added once
  · rintro error after ⟨tallies, owner⟩
    refine ⟨added ++ [], counts.tallies.trans tallies, ?_⟩
    rw [List.append_nil, ← key, owner, counts.owner_eq, key]
    cases flow with
    | idle => exact .kept added fun active => absurd sees active
    | active name banked =>
        obtain rfl := owns name rfl
        exact .stuck name sees rfl added once

/-- A flow begins and is counted, unless the write is refused. -/
theorem ends_begin_reckons (services : Services σ) (handler : String) (banked : Banked)
    (counts : before.Counts [] scope) (idle : before.state.owner = none) :
    Ends (do
      TurnAction.persist services (.active handler (some banked))
      TurnAction.count (.started handler)) scope (fun _ after => before.Reckons false after)
      (fun _ after => before.Reckons true after) := by
  have key : scope.state.key = before.state.key := by rw [counts.state]
  rw [ends_bind]
  refine (TurnAction.ends_persist_tallies services _ scope).mono ?_ ?_
  · rintro _ middle ⟨tallies, owner⟩
    refine (TurnAction.ends_count_counts rfl middle).mono ?_ fun _ _ impossible => impossible.elim
    intro _ after counted
    refine ⟨_, (counts.tallies.trans tallies).trans counted.tallies, ?_⟩
    rw [counted.owner_eq, ← key, owner, if_pos (Flow.store_active_dirty _ _ _), key]
    exact .begun handler idle
  · rintro error after ⟨tallies, owner⟩
    refine ⟨_, counts.tallies.trans tallies, ?_⟩
    rw [← key, owner, counts.owner_eq, key]
    exact .kept _ fun _ _ => rfl

/-- The handler of a flow in progress is asked to continue it. -/
theorem owns_of_handlerFor {requested : Option String}
    (chosen : auth.handlerFor flow requested = .ok handler) :
    ∀ name, flow.handler = some name → name = handler := by
  rintro name owner
  cases flow with
  | idle => cases owner
  | active other banked =>
      cases owner
      cases chosen
      rfl

theorem ends_suspend_reckons (services : Services σ) (turn : Turn) (handler : String)
    (counts : before.Counts [] scope) (loaded : Flow.load before.state = .ok flow) :
    Ends (suspend services turn flow handler) scope (fun _ after => before.Reckons false after)
      (fun _ after => before.Reckons true after) := by
  cases flow with
  | active owner banked => exact counts.idly false
  | idle =>
      simp only [suspend, Flow.isActive, Bool.false_eq_true, if_false]
      exact ends_begin_reckons services handler _ counts (UserState.owner_of_load loaded)

theorem once_failed (handler : String) (cause : Cause) :
    Metric.Once handler [.failed handler cause] := by
  intro name
  rw [List.countP_singleton]
  simp [Metric.concludes, eq_comm (a := name)]

theorem once_completed (handler : String) : Metric.Once handler [.completed handler] := by
  intro name
  rw [List.countP_singleton]
  simp [Metric.concludes, eq_comm (a := name)]

theorem once_submitted (once : Metric.Once handler added) (name : String) :
    Metric.Once handler (added ++ [.submitted name]) := by
  intro other
  rw [List.countP_append, once other]
  rfl

/-- What a conclusion has to hand on is handed on first, and the flow cleared then. -/
theorem ends_handOn_reckons (services : Services σ) (counts : before.Counts added scope)
    (loaded : Flow.load before.state = .ok flow)
    (owns : ∀ name, flow.handler = some name → name = handler) (once : Metric.Once handler added)
    (activity : Activity) (name : String) :
    Ends (submit services activity name) scope
      (fun _ middle => Ends (TurnAction.persist services .idle) middle
        (fun _ after => before.Reckons false after) (fun _ after => before.Reckons true after))
      (fun _ after => before.Reckons true after) := by
  refine (ends_submit_counts services activity name scope).mono ?_ ?_
  · intro _ middle submitted
    refine (ends_clear_reckons services (counts.trans submitted) loaded owns
      (once_submitted once name)).mono ?_ fun _ _ => id
    exact fun _ after reckons => reckons false after (.refl after)
  · intro error after refused
    exact (counts.trans refused).stuck loaded owns (by rwa [List.append_nil])

theorem ends_concludeFailure_reckons (auth : Authenticator σ) (services : Services σ) (turn : Turn)
    (response : Response) (counts : before.Counts [] scope)
    (loaded : Flow.load before.state = .ok flow)
    (owns : ∀ name, flow.handler = some name → name = handler) :
    Ends (auth.concludeFailure services turn flow handler response) scope
      (fun _ after => before.Reckons false after) (fun _ after => before.Reckons true after) := by
  unfold concludeFailure
  rw [ends_bind]
  refine (TurnAction.ends_count_counts rfl scope).mono ?_ fun _ _ impossible => impossible.elim
  intro _ counted more
  have counts := counts.trans more
  have once := once_failed handler response.causeOrOther
  have reported (report : Failure) : Ends (do
      TurnAction.persist services .idle
      auth.reportFailure services turn report) counted (fun _ after => before.Reckons false after)
        (fun _ after => before.Reckons true after) := by
    rw [ends_bind]
    refine (ends_clear_reckons services counts loaded owns once).mono ?_ fun _ _ => id
    intro _ cleared reckons
    exact (ends_reportFailure_counts auth services turn report cleared).mono
      (fun _ after => reckons false after) (fun _ after => reckons true after)
  rcases flow.banked with _ | trigger | event
  · exact reported _
  · exact reported _
  · simp only [ends_bind, redeliver]
    exact ends_handOn_reckons services counts loaded owns once _ _

theorem ends_concludeSuccess_reckons (auth : Authenticator σ) (services : Services σ) (turn : Turn)
    (response : Response) (counts : before.Counts [] scope)
    (loaded : Flow.load before.state = .ok flow)
    (owns : ∀ name, flow.handler = some name → name = handler) :
    Ends (auth.concludeSuccess services turn flow handler response) scope
      (fun _ after => before.Reckons false after) (fun _ after => before.Reckons true after) := by
  unfold concludeSuccess
  simp only [ends_bind, ends_discard]
  refine (ends_cacheToken_counts turn handler response scope).mono ?_
    fun _ _ impossible => impossible.elim
  intro _ cached kept
  refine (TurnAction.ends_count_counts rfl cached).mono ?_ fun _ _ impossible => impossible.elim
  intro _ counted more
  have counts := (counts.trans kept).trans more
  have once := once_completed handler
  have cleared := (ends_clear_reckons services counts loaded owns once).mono
    (fun _ after reckons => reckons false after (.refl after)) fun _ _ => id
  have handedOn := ends_handOn_reckons services counts loaded owns once
  rcases flow.banked with _ | trigger | event
  · simpa only [ends_bind, ends_pure] using cleared
  · dsimp only
    split
    · simpa only [ends_bind, ends_pure] using cleared
    · simpa only [ends_bind, ends_pure] using handedOn _ _
  · simpa only [ends_bind, ends_pure, redeliver] using handedOn _ _

theorem ends_startOrContinue_reckons (auth : Authenticator σ) (services : Services σ) (turn : Turn)
    (requested : Option String) (scope : Scope σ) :
    Ends (auth.startOrContinue services turn requested) scope
      (fun _ after => scope.Reckons false after) (fun _ after => scope.Reckons true after) := by
  unfold startOrContinue
  simp only [ends_bind, TurnAction.ends_ensureNotCancelled, TurnAction.ends_flow]
  have still := Scope.Counts.refl scope
  split
  · exact still.idly true
  refine ⟨fun flow loaded => ?_, fun error unread => still.idly true⟩
  refine (ends_passes_counts auth turn flow scope).mono ?_ fun _ _ counts => counts.idly true
  intro passes asked counts
  split
  · exact counts.idly false
  simp only [ends_bind, ends_ofExcept]
  refine ⟨fun handler chosen => ?_, fun error missing => counts.idly true⟩
  have owns := owns_of_handlerFor chosen
  refine (ends_invoke_counts auth turn _ asked).mono ?_
    fun _ _ more => (counts.trans more).idly true
  intro response heard more
  have counts := counts.trans more
  split
  · simp only [ends_bind, ends_pure]
    exact ends_suspend_reckons services turn handler counts loaded
  · simp only [ends_bind, ends_pure]
    exact ends_concludeFailure_reckons auth services turn response counts loaded owns
  · exact ends_concludeSuccess_reckons auth services turn response counts loaded owns

theorem ends_signIn_reckons (auth : Authenticator σ) (services : Services σ) (turn : Turn)
    (handler : String) (exchange : Option Exchange) (scope : Scope σ) :
    Ends (auth.signIn services turn handler exchange) scope
      (fun _ after => scope.Reckons false after) (fun _ after => scope.Reckons true after) := by
  unfold signIn
  simp only [ends_bind, TurnAction.ends_ensureNotCancelled, TurnAction.ends_flow]
  have still := Scope.Counts.refl scope
  split
  · exact still.idly true
  refine ⟨fun flow loaded => ?_, fun error unread => still.idly true⟩
  cases flow with
  | active owner banked => exact still.idly true
  | idle =>
      have idle := UserState.owner_of_load loaded
      -- without a flow in progress, whatever is counted is counted for a sign-in of its own
      have kept {added : List Metric} {after : Scope σ} (failed : Bool)
          (counts : scope.Counts added after) : scope.Reckons failed after :=
        counts.kept (fun active => absurd idle active) failed
      cases auth.dispatcher.contains handler with
      | false => exact kept true still
      | true =>
          simp only [Bool.not_true, Bool.false_eq_true, if_false, ends_bind, ends_get]
          cases cachedToken scope.world turn handler with
          | some token =>
              rw [ends_bind]
              refine (TurnAction.ends_count_counts rfl scope).mono ?_
                fun _ _ impossible => impossible.elim
              intro _ counted more
              exact (ends_reportSuccess_counts auth turn _ counted).mono
                (fun _ _ told => kept false (more.trans told))
                (fun _ _ told => kept true (more.trans told))
          | none =>
              rw [ends_bind]
              refine (ends_invoke_counts auth turn _ scope).mono ?_ fun _ _ => kept true
              intro response heard asked
              split
              · exact ends_begin_reckons services handler _ asked idle
              · unfold refuse
                rw [ends_bind]
                refine (TurnAction.ends_count_counts rfl heard).mono ?_
                  fun _ _ impossible => impossible.elim
                intro _ counted more
                cases auth.onFailure with
                | none => exact kept true (asked.trans more)
                | some callback =>
                    exact (TurnAction.ends_ofHost_counts _ counted).mono
                      (fun _ _ told => kept false ((asked.trans more).trans told))
                      (fun _ _ told => kept true ((asked.trans more).trans told))
              · unfold accept
                simp only [ends_bind]
                refine (ends_cacheToken_counts turn handler response heard).mono ?_
                  fun _ _ impossible => impossible.elim
                intro _ cached insertion
                refine (TurnAction.ends_count_counts rfl cached).mono ?_
                  fun _ _ impossible => impossible.elim
                intro _ counted more
                have counts := (asked.trans insertion).trans more
                exact (ends_reportSuccess_counts auth turn _ counted).mono
                  (fun _ _ told => kept false (counts.trans told))
                  (fun _ _ told => kept true (counts.trans told))

theorem ends_clear_loses (services : Services σ) (scope : Scope σ) :
    Ends (TurnAction.persist services .idle) scope (fun _ after => scope.Loses after)
      (fun _ after => scope.Loses after) := by
  refine (TurnAction.ends_persist_tallies services .idle scope).mono ?_ ?_
  · rintro _ after ⟨tallies, owner⟩
    refine ⟨tallies, ?_⟩
    rw [owner]
    split
    · exact .inr rfl
    · exact .inl rfl
  · rintro error after ⟨tallies, owner⟩
    exact ⟨tallies, .inl owner⟩

theorem ends_forget_loses (services : Services σ) (turn : Turn) (handler : String)
    (scope : Scope σ) :
    Ends (forget services turn handler) scope (fun _ after => scope.Loses after)
      (fun _ after => scope.Loses after) := by
  simp only [forget, ends_bind, TurnAction.ends_ofAction, ends_modify, TurnAction.ends_flow]
  have removed := (Scope.Counts.of_host scope (scope.world.tokens.remove turn.user handler)
    scope.world.host scope.cancelled).loses
  refine ⟨fun flow loaded => ?_, fun error unread => removed⟩
  split
  · exact (ends_clear_loses services _).mono (fun _ _ => removed.trans) (fun _ _ => removed.trans)
  · exact removed

theorem ends_forgetEach_loses (services : Services σ) (turn : Turn) (act : String → HostCall σ Unit)
    (names : List String) (scope : Scope σ) :
    Ends (forgetEach services turn act names) scope (fun _ after => scope.Loses after)
      (fun _ after => scope.Loses after) := by
  induction names generalizing scope with
  | nil => exact (Scope.Counts.refl scope).loses
  | cons name rest ih =>
      simp only [forgetEach, ends_bind]
      refine (TurnAction.ends_ofHost_counts (act name) scope).mono ?_
        fun _ _ => Scope.Counts.loses
      intro _ asked counts
      refine (ends_forget_loses services turn name asked).mono ?_
        fun _ _ => counts.loses.trans
      intro _ middle loses
      have loses := counts.loses.trans loses
      exact (ih middle).mono (fun _ _ => loses.trans) (fun _ _ => loses.trans)

theorem ends_handleCompletion_counts (auth : Authenticator σ) (services : Services σ) (turn : Turn)
    (scope : Scope σ) :
    Ends (auth.handleCompletion services turn) scope (fun _ after => scope.Counts [] after)
      (fun _ after => scope.Counts [] after) := by
  have still := Scope.Counts.refl scope
  unfold handleCompletion
  split
  · exact still
  simp only [ends_bind, ends_ofExcept]
  refine ⟨fun event decoded => ?_, fun error garbled => still⟩
  cases event.response with
  | none => exact still
  | some response =>
      dsimp only
      split
      · exact ends_reportSuccess_counts auth turn _ scope
      · exact ends_reportFailure_counts auth services turn _ scope
      · exact still

end Authenticator

end

end SignInFlow
