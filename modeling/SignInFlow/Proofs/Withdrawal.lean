import SignInFlow.Proofs.Sessions
import SignInFlow.Registry

/-!
# Making every handler forget a user

A withdrawal is for one handler or for all of them, one after the other, and stops at the first that
fails.  Where none fails and storage works, the user is left without a token of any handler and
without a flow of any handler; a flow of a handler that is no longer there stays, and one that
cannot be read lets the withdrawal fail.
-/

namespace SignInFlow

variable {σ : Type}

/-- The flow without what some handlers have begun. -/
def Flow.without (gone : List String) : Flow → Flow
  | .idle => .idle
  | .active handler banked => if handler ∈ gone then .idle else .active handler banked

namespace Flow

@[simp] theorem without_nil (flow : Flow) : flow.without [] = flow := by
  cases flow <;> rfl

theorem eq_active_of_handler {flow : Flow} {handler : String}
    (owner : flow.handler = some handler) : flow = .active handler flow.banked := by
  cases flow with
  | idle => cases owner
  | active active banked => rw [Option.some.inj owner, Flow.banked]

/-- A flow of the handler that goes next is cleared. -/
theorem without_cons_of_owner {flow : Flow} {gone : List String} {handler : String}
    (owner : (flow.without gone).handler = some handler) :
    flow.without (handler :: gone) = .idle := by
  cases flow with
  | idle => rfl
  | active active banked =>
      by_cases away : active ∈ gone
      · simp [without, away]
      · simp only [without, away, if_false, Flow.handler, Option.some.injEq] at owner
        simp [without, owner]

/-- Any other flow stays. -/
theorem without_cons_of_other {flow : Flow} {gone : List String} {handler : String}
    (other : (flow.without gone).handler ≠ some handler) :
    flow.without (handler :: gone) = flow.without gone := by
  cases flow with
  | idle => rfl
  | active active banked =>
      by_cases away : active ∈ gone
      · simp [without, away]
      · simp only [without, away, if_false, Flow.handler, ne_eq, Option.some.injEq] at other
        simp [without, away, other]

end Flow

/-! ## Withdrawals -/

namespace Handler

/-- What a handler does to forget the user of a turn. -/
def withdraw (handler : Handler σ) (way : Withdrawal) (turn : Turn) : HostCall σ Unit :=
  match way with
  | .signOut => handler.signOut turn
  | .reset => handler.reset turn

end Handler

namespace Dispatcher

/-- Makes a handler forget the user of a turn. -/
def withdraw (dispatcher : Dispatcher σ) (way : Withdrawal) (turn : Turn) (name : String) :
    HostCall σ Unit :=
  match way with
  | .signOut => dispatcher.signOut turn name
  | .reset => dispatcher.reset turn name

end Dispatcher

/-- What a registry does for a registered name is done by the first handler of that name. -/
theorem Registry.withdraw_of_mem {registry : Registry σ} {name : String}
    (member : name ∈ registry.names) (way : Withdrawal) (turn : Turn) :
    ∃ handler ∈ registry.handlers, handler.name = name ∧
      registry.toDispatcher.withdraw way turn name = handler.withdraw way turn := by
  obtain ⟨handler, among, named, resolved⟩ := registry.resolve_of_mem member
  refine ⟨handler, among, named, ?_⟩
  cases way with
  | signOut =>
      change registry.signOut turn name = _
      rw [Registry.signOut, resolved]
      rfl
  | reset =>
      change registry.reset turn name = _
      rw [Registry.reset, resolved]
      rfl

namespace Authenticator

/-- Signs the user out of one handler or of all, or resets them. -/
def withdraw (auth : Authenticator σ) (services : Services σ) (way : Withdrawal) (turn : Turn)
    (handler : Option String) : TurnAction σ Unit :=
  match way with
  | .signOut => auth.signOut services turn handler
  | .reset => auth.reset services turn handler

/-- A turn that makes every handler forget its user; the answer is the state of the user as the turn
sees it in the end. -/
def withdrawAll (auth : Authenticator σ) (services : Services σ) (way : Withdrawal) (turn : Turn)
    (cancelled : Bool) : Action σ UserState := do
  let loaded ← UserState.load services turn.activity
  let leaves : TurnAction σ UserState := do
    auth.withdraw services way turn none
    pure (← get).state
  leaves.run loaded cancelled

variable (auth : Authenticator σ) (services : Services σ) (way : Withdrawal) (turn : Turn)

theorem withdraw_none : auth.withdraw services way turn none =
    forgetEach services turn (auth.dispatcher.withdraw way turn) auth.dispatcher.names := by
  cases way <;> rfl

theorem withdraw_recorded (asker : Asker) (name : String) :
    (auth.recorded asker).dispatcher.withdraw way turn name =
      (auth.dispatcher.withdraw way turn name).noticed (.withdrew turn way name) := by
  cases way <;> rfl

theorem mirrors_withdraw (asker : Asker) (handler : Option String) :
    Mirrors Scope.erase
      ((auth.recorded asker).withdraw (services.recorded turn) way turn handler)
      (auth.withdraw services way turn handler) := by
  cases way with
  | signOut => exact mirrors_signOut auth services turn asker handler
  | reset => exact mirrors_reset auth services turn asker handler

theorem mirrors_withdrawAll (asker : Asker) (cancelled : Bool) :
    Mirrors World.erase
      ((auth.recorded asker).withdrawAll (services.recorded turn) way turn cancelled)
      (auth.withdrawAll services way turn cancelled) := by
  refine (mirrors_load services turn turn.activity).bind fun state => ?_
  have reads : Mirrors Scope.erase (do pure (← get).state : TurnAction (Recorded σ) UserState)
      (do pure (← get).state) := mirrors_get_bind fun scope => mirrors_pure scope.state
  have leaves := (mirrors_withdraw auth services way turn asker none).bind fun _ => reads
  exact TurnAction.mirrors_run leaves state cancelled

end Authenticator

/-! ## What a withdrawal leaves -/

/-- The user has no token of the handlers that have gone, and no flow of theirs in the state of the
turn or in storage. -/
structure View.Sheds (turn : Turn) (key : String) (flow : Flow) (gone : List String)
    (view : View) : Prop where
  own : view.state.key = key
  sees : Flow.load view.state = .ok (flow.without gone)
  stored : Flow.stored view.documents key = .ok (flow.without gone)
  forgotten : ∀ name ∈ gone, view.tokens.get? turn.user name = none

namespace View

variable {turn : Turn} {key handler : String} {flow : Flow} {gone : List String} {view : View}

/-- Without the token of one more handler, the user has none of any that have gone. -/
theorem Sheds.forgotten_remove (sheds : view.Sheds turn key flow gone) (handler : String) :
    ∀ name ∈ handler :: gone,
      (view.tokens.remove turn.user handler).get? turn.user name = none := by
  intro name member
  by_cases same : name = handler
  · rw [same]
    exact TokenCache.get?_remove_self _ _ _
  · have earlier : name ∈ gone := (List.mem_cons.mp member).resolve_left same
    have kept : (view.tokens.remove turn.user handler).get? turn.user name =
        view.tokens.get? turn.user name :=
      TokenCache.get?_remove_of_ne _ (.inr same)
    exact kept.trans (sheds.forgotten name earlier)

/-- Clearing the flow of a handler leaves no flow of it, in the state or in storage. -/
theorem sheds_of_cleared (own : view.state.key = key)
    (sees : Flow.load view.state = .ok (flow.without gone))
    (owned : (flow.without gone).handler = some handler)
    (forgotten : ∀ name ∈ handler :: gone, view.tokens.get? turn.user name = none) :
    ((view.hold .idle).saved turn).Sheds turn key flow (handler :: gone) := by
  obtain ⟨banked, active⟩ : ∃ banked, Flow.load view.state = .ok (.active handler banked) :=
    ⟨(flow.without gone).banked, sees.trans (congrArg Except.ok (Flow.eq_active_of_handler owned))⟩
  have cleared := Flow.without_cons_of_owner owned
  have written := stored_saved_of_dirty (view.hold .idle) turn (Flow.store_idle_dirty active)
  rw [hold_state, Flow.store_key, Flow.load_store, own] at written
  refine ⟨?_, ?_, ?_, ?_⟩
  · rw [saved_key, hold_state, Flow.store_key, own]
  · rw [load_saved, hold_state, Flow.load_store, cleared]
    rfl
  · rw [written, cleared]
    rfl
  · rw [saved_tokens, hold_tokens]
    exact forgotten

end View

/-- What has kept a withdrawal from its end: one of the handlers has failed, or an access was
refused. -/
inductive Hindered (turn : Turn) (way : Withdrawal) (names : List String) (log : List Event) :
    Prop where
  | handler (name : String) (member : name ∈ names) (error : Error)
      (failed : .withdrew turn way name (.error error) ∈ log)
  | storage (access : Access) (refused : .refused turn access ∈ log)

theorem Hindered.mono {turn : Turn} {way : Withdrawal} {names more : List String}
    {log : List Event} (hindered : Hindered turn way names log) (among : names ⊆ more) :
    Hindered turn way more log := by
  cases hindered with
  | handler name member error failed => exact .handler name (among member) error failed
  | storage access refused => exact .storage access refused

namespace Authenticator

variable {services : Services σ} {turn : Turn} {way : Withdrawal} {key : String} {flow : Flow}

/-- What is kept for a handler that has forgotten the user goes with it. -/
theorem ends_forget_sheds {scope : Scope (Recorded σ)} {gone : List String} (handler : String)
    (sheds : scope.view.Sheds turn key flow gone) :
    Ends (forget (services.recorded turn) turn handler) scope
      (fun _ after => after.view.Sheds turn key flow (handler :: gone))
      (fun _ after => ∃ access, .refused turn access ∈ after.view.log) := by
  have forgotten := sheds.forgotten_remove handler
  simp only [forget, ends_bind, TurnAction.ends_ofAction, ends_modify, TurnAction.ends_flow]
  refine ⟨fun found loaded => ?_, fun error failed => ?_⟩
  · obtain rfl := Except.ok.inj (loaded.symm.trans sheds.sees)
    by_cases owned : (flow.without gone).handler = some handler
    · simp only [owned, if_true]
      refine (TurnAction.ends_persist services turn .idle).mono ?_ ?_
      · intro _ after kept
        rw [kept]
        exact View.sheds_of_cleared sheds.own loaded owned forgotten
      · rintro _ after ⟨access, -, -, held⟩
        refine ⟨access, ?_⟩
        rw [held]
        exact List.mem_cons_self
    · simp only [owned, if_false, ends_pure]
      have stays := Flow.without_cons_of_other owned
      exact ⟨sheds.own, stays ▸ sheds.sees, stays ▸ sheds.stored, forgotten⟩
  · cases failed.symm.trans sheds.sees

theorem ends_forgetEach_sheds (act : String → HostCall σ Unit) (names : List String)
    {scope : Scope (Recorded σ)} {gone : List String}
    (sheds : scope.view.Sheds turn key flow gone) :
    Ends (forgetEach (services.recorded turn) turn
        (fun name => (act name).noticed (.withdrew turn way name)) names) scope
      (fun _ after => after.view.Sheds turn key flow (names.reverse ++ gone))
      (fun _ after => Hindered turn way names after.view.log) := by
  induction names generalizing scope gone with
  | nil => exact sheds
  | cons name rest ih =>
      simp only [forgetEach, ends_bind]
      refine (TurnAction.ends_noticed (act name) (.withdrew turn way name)).mono ?_ ?_
      · intro _ middle seen
        have parted : middle.view.Sheds turn key flow gone := by
          rw [seen]
          exact ⟨sheds.own, sheds.sees, sheds.stored, sheds.forgotten⟩
        refine (ends_forget_sheds name parted).mono ?_ ?_
        · intro _ after shed
          refine (ih shed).mono ?_ fun _ _ hindered => hindered.mono (List.subset_cons_self _ _)
          intro _ final all
          rwa [List.reverse_cons, List.append_assoc]
        · rintro _ after ⟨access, refused⟩
          exact .storage access refused
      · intro error after seen
        refine .handler name List.mem_cons_self error ?_
        rw [seen]
        exact List.mem_cons_self

/-- What is stored for the user of a turn is loaded, unless that is refused. -/
theorem ends_load_of_stored {world : World (Recorded σ)} {properties : Dictionary Json}
    (keyed : turn.activity.userKey = .ok key)
    (held : UserState.propertiesOf key (List.lookup key world.documents) = .ok properties) :
    Ends (UserState.load (services.recorded turn) turn.activity) world
      (fun state after => state = ⟨key, properties, false⟩ ∧ after.documents = world.documents)
      (fun _ after => ∃ access, .refused turn access ∈ after.host.log) := by
  simp only [UserState.load, Storage.read, keyed, ends_bind, ends_ofExcept, ends_get, ends_pure,
    Action.ends_changeHost, Except.ok.injEq, reduceCtorEq, forall_eq', false_implies,
    implies_true, and_true]
  refine (TurnAction.ends_permit services turn (.read [key])).mono ?_ ?_
  · rintro _ _ ⟨host, rfl⟩
    simp only [lookup_select, held, Except.ok.injEq, reduceCtorEq, forall_eq', false_implies,
      implies_true, and_self]
  · rintro _ _ ⟨-, host, rfl⟩
    exact ⟨_, List.mem_cons_self⟩

theorem ends_withdrawAll_sheds (auth : Authenticator σ) (asker : Asker) (cancelled : Bool)
    {world : World (Recorded σ)} (keyed : turn.activity.userKey = .ok key)
    (readable : Flow.stored world.documents key = .ok flow) :
    Ends ((auth.recorded asker).withdrawAll (services.recorded turn) way turn cancelled) world
      (fun state after =>
        (after.view state).Sheds turn key flow auth.dispatcher.names.reverse)
      (fun _ after => Hindered turn way auth.dispatcher.names after.host.log) := by
  cases held : UserState.propertiesOf key (List.lookup key world.documents) with
  | error error =>
      simp only [Flow.stored, held] at readable
      cases readable
  | ok properties =>
      have loads : Flow.load ⟨key, properties, false⟩ = Flow.stored world.documents key :=
        Flow.load_eq_stored held
      have sees : Flow.load ⟨key, properties, false⟩ = .ok flow := loads.trans readable
      rw [withdrawAll, ends_bind]
      refine (ends_load_of_stored keyed held).mono ?_ ?_
      · rintro _ loaded ⟨rfl, documents⟩
        let start : Scope (Recorded σ) := ⟨loaded, ⟨key, properties, false⟩, cancelled⟩
        have sheds : start.view.Sheds turn key flow [] := by
          refine ⟨rfl, ?_, ?_, List.forall_mem_nil _⟩
          · rw [Flow.without_nil]
            exact sees
          · change Flow.stored loaded.documents key = _
            rw [documents, readable, Flow.without_nil]
        simp only [ends_run, ends_bind, ends_get, ends_pure]
        rw [withdraw_none, funext (withdraw_recorded auth way turn asker)]
        refine (ends_forgetEach_sheds _ _ sheds).mono ?_ fun _ _ => id
        intro _ after all
        rwa [List.append_nil] at all
      · rintro _ after ⟨access, refused⟩
        exact .storage access refused

/-- What the host sees of a turn that makes every handler forget its user. -/
def withdrawalRecord (auth : Authenticator σ) (services : Services σ) (way : Withdrawal)
    (turn : Turn) (cancelled : Bool) (world : World σ) : List Event :=
  (remains ((auth.recorded .application).withdrawAll (services.recorded turn) way turn cancelled
    world.blank)).host.log

end Authenticator

/-- A user can be freed of all that the registered handlers have begun.  Whatever object is stored
for the user, if its flow can be read, storage works and every handler forgets the user when it is
asked to, then the withdrawal from all of them ends well; the user is left without a token of any of
them and without a flow, in the state of the turn and in storage, but for one of a handler that is
not registered, which stays as it is. -/
theorem withdrawal_frees_user (auth : Authenticator σ) (services : Services σ)
    (registry : Registry σ) (dispatches : auth.dispatcher = registry.toDispatcher)
    (way : Withdrawal) (turn : Turn) (cancelled : Bool) (world : World σ) {key : String}
    {flow : Flow} (keyed : turn.activity.userKey = .ok key)
    (readable : Flow.stored world.documents key = .ok flow)
    (obliging : ∀ handler ∈ registry.handlers, ∀ error,
      .withdrew turn way handler.name (.error error) ∉
        auth.withdrawalRecord services way turn cancelled world)
    (working : ∀ access,
      .refused turn access ∉ auth.withdrawalRecord services way turn cancelled world) :
    ∃ state after, auth.withdrawAll services way turn cancelled world = .ok state after ∧
      Flow.load state = .ok (flow.without registry.names) ∧
      Flow.stored after.documents key = .ok (flow.without registry.names) ∧
      ∀ name ∈ registry.names, Authenticator.cachedToken after turn name = none ∧
        ∃ handler ∈ registry.handlers, handler.name = name ∧
          auth.dispatcher.withdraw way turn name = handler.withdraw way turn := by
  have names : auth.dispatcher.names = registry.names := by rw [dispatches]; rfl
  have ends : Ends ((auth.recorded .application).withdrawAll (services.recorded turn) way turn
      cancelled) world.blank _ _ :=
    Authenticator.ends_withdrawAll_sheds auth .application cancelled keyed readable
  have same := Authenticator.mirrors_withdrawAll auth services way turn .application cancelled
    world.blank
  rw [names] at ends
  cases result : (auth.recorded .application).withdrawAll (services.recorded turn) way turn
      cancelled world.blank with
  | ok state after =>
      have sheds := ends.of_ok result
      have without : flow.without registry.names.reverse = flow.without registry.names := by
        cases flow <;> simp [Flow.without]
      rw [result] at same
      refine ⟨state, after.erase, same, ?_, ?_, ?_⟩
      · rw [← without]
        exact sheds.sees
      · rw [← without]
        exact sheds.stored
      · intro name member
        refine ⟨sheds.forgotten name (List.mem_reverse.mpr member), ?_⟩
        rw [dispatches]
        exact Registry.withdraw_of_mem member way turn
  | error error after =>
      have record : auth.withdrawalRecord services way turn cancelled world = after.host.log := by
        rw [Authenticator.withdrawalRecord, result]
        rfl
      rw [record] at obliging working
      cases ends.of_error result with
      | handler name member failure failed =>
          obtain ⟨handler, among, rfl⟩ := List.mem_map.mp member
          exact absurd failed (obliging handler among failure)
      | storage access refused => exact absurd refused (working access)

/-- A handler that wants to hear from the user once more and forgets the user at once. -/
def Handler.patient (name : String) : Handler Unit where
  name := name
  signIn := fun _ _ => pure .pending
  signOut := fun _ => pure ()
  reset := fun _ => pure ()

/-- Two such handlers. -/
def Registry.desk : Registry Unit := ⟨[.patient "code", .patient "card"], "code"⟩

namespace Authenticator

/-- The authenticator of the two handlers. -/
def desk : Authenticator Unit where
  settings := .standard
  defaultHandler := "code"
  dispatcher := Registry.desk.toDispatcher
  policy := .never
  onSuccess := none
  onFailure := none

end Authenticator

/-- A world with a token of one handler and an object with some properties for a user. -/
def World.desk (properties : Dictionary Json) : World Unit :=
  { World.initial () with
    documents := [("chat/users/ada", .obj properties)]
    tokens := [⟨"ada", "code", "token"⟩] }

/-- The user asks to sign out. -/
def deskTurn : Turn := ⟨.message "chat" "ada" "room" "sign out", false⟩

/-- A flow of a registered handler. -/
def deskFlow : Dictionary Json := [("active-flow", .str "card")]

/-- A user with a token of the one handler and a flow of the other signs out, and has neither. -/
theorem desk_user_freed : ∃ state after,
    Authenticator.desk.withdrawAll .lenient .signOut deskTurn false (.desk deskFlow) =
        .ok state after ∧
      Flow.load state = .ok .idle ∧ Flow.stored after.documents "chat/users/ada" = .ok .idle ∧
      Authenticator.cachedToken after deskTurn "code" = none := by
  have record : Authenticator.desk.withdrawalRecord .lenient .signOut deskTurn false
      (.desk deskFlow) =
        [.accessed deskTurn (.delete ["chat/users/ada"]),
          .withdrew deskTurn .signOut "card" (.ok ()),
          .withdrew deskTurn .signOut "code" (.ok ()),
          .accessed deskTurn (.read ["chat/users/ada"])] := rfl
  have keyed : deskTurn.activity.userKey = .ok "chat/users/ada" := rfl
  have readable : Flow.stored (World.desk deskFlow).documents "chat/users/ada" =
      .ok (.active "card" none) := rfl
  obtain ⟨state, after, ended, sees, stored, freed⟩ := withdrawal_frees_user Authenticator.desk
    .lenient .desk rfl .signOut deskTurn false (.desk deskFlow) keyed readable
    (by simp [record]) (by simp [record])
  have cleared : (Flow.active "card" none).without Registry.desk.names = .idle := by
    simp [Flow.without, Registry.desk, Registry.names, Handler.patient]
  rw [cleared] at sees stored
  exact ⟨state, after, ended, sees, stored, (freed "code" List.mem_cons_self).1⟩

/-- What is left of a flow of a handler that is no longer there. -/
def orphanFlow : Dictionary Json := [("active-flow", .str "post")]

/-- A flow with something banked that nobody can read. -/
def garbledFlow : Dictionary Json :=
  [("active-flow", .str "code"), ("continuation-activity", .str "torn")]

/-- A withdrawal does not free every user.  Although all handlers oblige and storage works, a user
whose flow belongs to a handler that is no longer there signs out and still has that flow, and one
whose flow cannot be read cannot sign out. -/
theorem desk_users_stuck :
    (∃ state after,
        Authenticator.desk.withdrawAll .lenient .signOut deskTurn false (.desk orphanFlow) =
            .ok state after ∧
          Flow.load state = .ok (.active "post" none) ∧
          Flow.stored after.documents "chat/users/ada" = .ok (.active "post" none) ∧
          Authenticator.desk.withdrawalRecord .lenient .signOut deskTurn false (.desk orphanFlow) =
            [.withdrew deskTurn .signOut "card" (.ok ()),
              .withdrew deskTurn .signOut "code" (.ok ()),
              .accessed deskTurn (.read ["chat/users/ada"])]) ∧
      ∃ mismatch after,
        Authenticator.desk.withdrawAll .lenient .signOut deskTurn false (.desk garbledFlow) =
          .error (.serialization mismatch) after ∧
        Authenticator.desk.withdrawalRecord .lenient .signOut deskTurn false (.desk garbledFlow) =
          [.withdrew deskTurn .signOut "code" (.ok ()),
            .accessed deskTurn (.read ["chat/users/ada"])] :=
  ⟨⟨_, _, rfl, rfl, rfl, rfl⟩, _, _, rfl, rfl⟩

end SignInFlow
