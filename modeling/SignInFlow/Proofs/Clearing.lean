import SignInFlow.Proofs.Withdrawal
import SignInFlow.Proofs.WriteBack

/-!
# Clearing handler by handler

A withdrawal clears its handlers one after the other, whatever calls fail.  Those before the one at
which it stops have neither token nor flow left, and those after it are as they were.  So is the one
at which it stops, if its handler has failed; but if storage refuses to clear its flow, the token is
gone already.
-/

namespace SignInFlow

variable {σ : Type}

/-- What of a flow belongs to a handler. -/
def Flow.ownedBy (name : String) : Flow → Flow
  | .idle => .idle
  | .active handler banked => if handler = name then .active handler banked else .idle

/-- What is kept of a user for one handler. -/
structure Holding where
  /-- The token in the cache. -/
  token : Option String
  /-- The stored flow, if it belongs to the handler. -/
  flow : Except Error Flow

/-- Nothing is kept. -/
def Holding.nothing : Holding := ⟨none, .ok .idle⟩

/-- What is kept of the user of a turn for one handler. -/
def World.holding (world : World σ) (turn : Turn) (key name : String) : Holding where
  token := world.tokens.get? turn.user name
  flow := (Flow.stored world.documents key).map (Flow.ownedBy name)

/-- Whether a handler has gone or stays, what belongs to it goes or stays with it. -/
theorem Flow.ownedBy_without (flow : Flow) (gone : List String) (name : String) :
    (flow.without gone).ownedBy name = if name ∈ gone then .idle else flow.ownedBy name := by
  cases flow with
  | idle => simp [without, ownedBy]
  | active handler banked =>
      by_cases away : handler ∈ gone
      · by_cases same : handler = name
        · simp [without, ownedBy, away, ← same]
        · simp [without, ownedBy, away, same]
      · by_cases same : handler = name
        · simp [without, ownedBy, away, ← same]
        · simp [without, ownedBy, away, same]

/-- A flow is of a handler that has not gone. -/
theorem Flow.handler_of_without {flow : Flow} {gone : List String} {name : String}
    (owner : (flow.without gone).handler = some name) : name ∉ gone ∧ flow.handler = some name := by
  cases flow with
  | idle => cases owner
  | active handler banked =>
      by_cases away : handler ∈ gone
      · simp [without, away, Flow.handler] at owner
      · simp only [without, away, if_false, Flow.handler, Option.some.injEq] at owner
        subst owner
        exact ⟨away, rfl⟩

/-! ## What has been cleared -/

/-- Of all that is kept of users, nothing has changed but that one user has lost the tokens of some
handlers, and the flow if it was of some handlers. -/
structure World.Sheds (before : World σ) (turn : Turn) (key : String) (flow : Flow)
    (tokenless flowless : List String) (after : World σ) : Prop where
  tokens : ∀ user name, after.tokens.get? user name =
    if user = turn.user ∧ name ∈ tokenless then none else before.tokens.get? user name
  stored : Flow.stored after.documents key = .ok (flow.without flowless)
  elsewhere : ∀ other, other ≠ key →
    List.lookup other after.documents = List.lookup other before.documents

namespace World.Sheds

variable {before after : World σ} {turn : Turn} {key : String} {flow : Flow}
  {tokenless flowless : List String}

theorem holding (sheds : before.Sheds turn key flow tokenless flowless after)
    (readable : Flow.stored before.documents key = .ok flow) (name : String) :
    after.holding turn key name =
      ⟨if name ∈ tokenless then none else (before.holding turn key name).token,
        if name ∈ flowless then .ok .idle else (before.holding turn key name).flow⟩ := by
  simp only [World.holding, sheds.tokens, sheds.stored, readable, true_and, Except.map,
    Flow.ownedBy_without]
  split <;> split <;> rfl

theorem holding_eq_nothing (sheds : before.Sheds turn key flow tokenless flowless after)
    (readable : Flow.stored before.documents key = .ok flow) {name : String}
    (gone : name ∈ flowless) (lost : name ∈ tokenless) :
    after.holding turn key name = .nothing := by
  rw [sheds.holding readable, if_pos gone, if_pos lost]
  rfl

theorem holding_eq (sheds : before.Sheds turn key flow tokenless flowless after)
    (readable : Flow.stored before.documents key = .ok flow) {name : String}
    (stays : name ∉ flowless) (kept : name ∉ tokenless) :
    after.holding turn key name = before.holding turn key name := by
  rw [sheds.holding readable, if_neg stays, if_neg kept]

theorem token_of_other (sheds : before.Sheds turn key flow tokenless flowless after)
    {user : String} (other : user ≠ turn.user) (name : String) :
    after.tokens.get? user name = before.tokens.get? user name := by
  rw [sheds.tokens, if_neg fun both => other both.1]

/-- One more token is gone. -/
theorem forget_token (sheds : before.Sheds turn key flow tokenless flowless after)
    (handler : String) :
    before.Sheds turn key flow (handler :: tokenless) flowless
      { after with tokens := after.tokens.remove turn.user handler } where
  tokens := by
    intro user name
    by_cases mine : user = turn.user
    · by_cases same : name = handler
      · rw [mine, same]
        simp
      · have kept : (after.tokens.remove turn.user handler).get? user name =
            after.tokens.get? user name := TokenCache.get?_remove_of_ne _ (.inr same)
        simp [kept, sheds.tokens, same]
    · have kept : (after.tokens.remove turn.user handler).get? user name =
          after.tokens.get? user name := TokenCache.get?_remove_of_ne _ (.inl mine)
      simp [kept, sheds.tokens, mine]
  stored := sheds.stored
  elsewhere := sheds.elsewhere

/-- What the host remembers does not matter. -/
theorem of_host (sheds : before.Sheds turn key flow tokenless flowless after) (host : σ) :
    before.Sheds turn key flow tokenless flowless { after with host := host } :=
  ⟨sheds.tokens, sheds.stored, sheds.elsewhere⟩

end World.Sheds

/-- Within a turn, the user has neither a token nor a flow of the handlers that have gone. -/
structure Scope.Clears (before : World σ) (turn : Turn) (key : String) (flow : Flow)
    (gone : List String) (scope : Scope σ) : Prop where
  own : scope.state.key = key
  sees : Flow.load scope.state = .ok (flow.without gone)
  sheds : before.Sheds turn key flow gone gone scope.world

/-- No handler has gone at first. -/
theorem Scope.clears_nil (scope : Scope σ) (turn : Turn) {flow : Flow}
    (stored : Flow.stored scope.world.documents scope.state.key = .ok flow)
    (sees : Flow.load scope.state = .ok flow) :
    scope.Clears scope.world turn scope.state.key flow [] where
  own := rfl
  sees := by rwa [Flow.without_nil]
  sheds :=
    { tokens := fun user name => by simp
      stored := by rwa [Flow.without_nil]
      elsewhere := fun _ _ => rfl }

/-- Why a withdrawal stops at a handler, after others have gone, and whose tokens are gone then: the
handler has failed, or storage has refused to clear its flow. -/
inductive Halt (services : Services σ) (act : String → HostCall σ Unit) (key : String) (flow : Flow)
    (gone : List String) (name : String) (error : Error) : List String → Prop where
  | declined (visit left : Visit σ) (fails : act name visit = .error error left) :
      Halt services act key flow gone name error gone
  | torn (owner : (flow.without gone).handler = some name) (cleared : UserState)
      (own : cleared.key = key) (empty : Flow.load cleared = .ok .idle)
      (refuses : services.Refuses cleared.writing error) :
      Halt services act key flow gone name error (name :: gone)

namespace Halt

variable {services : Services σ} {act : String → HostCall σ Unit} {key : String} {flow : Flow}
  {gone tokenless : List String} {name other : String} {error : Error}

theorem lost (halt : Halt services act key flow gone name error tokenless)
    (member : other ∈ gone) : other ∈ tokenless := by
  cases halt with
  | declined => exact member
  | torn => exact List.mem_cons_of_mem name member

theorem kept (halt : Halt services act key flow gone name error tokenless) (stays : other ∉ gone)
    (differs : other ≠ name) : other ∉ tokenless := by
  cases halt with
  | declined => exact stays
  | torn => exact fun member => (List.mem_cons.mp member).elim differs stays

/-- What is left of the handler at which a withdrawal has stopped. -/
theorem leaves {before after : World σ} {turn : Turn}
    (halt : Halt services act key flow gone name error tokenless)
    (sheds : before.Sheds turn key flow tokenless gone after)
    (readable : Flow.stored before.documents key = .ok flow) :
    (∃ visit left, act name visit = .error error left) ∧
        (name ∉ gone → after.holding turn key name = before.holding turn key name) ∨
      name ∉ gone ∧ flow.handler = some name ∧
        (∃ cleared : UserState, cleared.key = key ∧ Flow.load cleared = .ok .idle ∧
          services.Refuses cleared.writing error) ∧
        after.holding turn key name = { before.holding turn key name with token := none } := by
  cases halt with
  | declined visit left fails =>
      exact .inl ⟨⟨visit, left, fails⟩, fun stays => sheds.holding_eq readable stays stays⟩
  | torn owner cleared own empty refuses =>
      obtain ⟨stays, owner⟩ := Flow.handler_of_without owner
      refine .inr ⟨stays, owner, ⟨cleared, own, empty, refuses⟩, ?_⟩
      rw [sheds.holding readable, if_pos List.mem_cons_self, if_neg stays]

end Halt

namespace Authenticator

variable {services : Services σ} {turn : Turn} {key : String} {flow : Flow} {before : World σ}

/-- A handler whose token has gone goes with its flow, unless storage refuses to clear it. -/
theorem ends_persist_clears {scope : Scope σ} {gone : List String}
    (act : String → HostCall σ Unit) {handler : String} (own : scope.state.key = key)
    (sees : Flow.load scope.state = .ok (flow.without gone))
    (forgotten : before.Sheds turn key flow (handler :: gone) gone scope.world)
    (owner : (flow.without gone).handler = some handler) :
    Ends (TurnAction.persist services .idle) scope
      (fun _ after => after.Clears before turn key flow (handler :: gone))
      (fun error after => ∃ tokenless, Halt services act key flow gone handler error tokenless ∧
        before.Sheds turn key flow tokenless gone after.world) := by
  let cleared := Flow.idle.store scope.state
  have idle : Flow.load cleared = .ok .idle := Flow.load_store .idle scope.state
  have same : cleared.key = key := (Flow.store_key _ scope.state).trans own
  have dirty : cleared.dirty = true := by
    rw [Flow.eq_active_of_handler owner] at sees
    exact Flow.store_idle_dirty sees
  have empty := Flow.without_cons_of_owner owner
  simp only [TurnAction.persist, ends_bind, TurnAction.ends_modifyState]
  refine (TurnAction.ends_save_alone services _).mono ?_ ?_
  · rintro _ _ ⟨host, rfl⟩
    rw [dirty]
    refine ⟨same, ?_, forgotten.tokens, ?_, fun other differs => ?_⟩
    · rw [empty]
      exact idle
    · have written := cleared.stored_writing_self scope.world.documents
      rw [same, idle] at written
      rw [empty]
      exact written
    · rw [← same] at differs
      exact (cleared.lookup_writing_of_ne _ differs).trans
        (forgotten.elsewhere other (same ▸ differs))
  · rintro error _ ⟨-, refuses, host, rfl⟩
    exact ⟨_, .torn owner cleared same idle refuses, forgotten.of_host host⟩

/-- A handler goes with its token and its flow, unless storage refuses to clear the flow. -/
theorem ends_forget_clears {scope : Scope σ} {gone : List String} (act : String → HostCall σ Unit)
    (handler : String) (clears : scope.Clears before turn key flow gone) :
    Ends (forget services turn handler) scope
      (fun _ after => after.Clears before turn key flow (handler :: gone))
      (fun error after => ∃ tokenless, Halt services act key flow gone handler error tokenless ∧
        before.Sheds turn key flow tokenless gone after.world) := by
  have forgotten := clears.sheds.forget_token handler
  simp only [forget, ends_bind, TurnAction.ends_ofAction, ends_modify, TurnAction.ends_flow]
  refine ⟨fun found loaded => ?_, fun error failed => ?_⟩
  · obtain rfl := Except.ok.inj (loaded.symm.trans clears.sees)
    by_cases owner : (flow.without gone).handler = some handler
    · rw [if_pos owner]
      exact ends_persist_clears act clears.own clears.sees forgotten owner
    · rw [if_neg owner, ends_pure]
      have stays := Flow.without_cons_of_other owner
      exact ⟨clears.own, stays ▸ loaded, forgotten.tokens, stays ▸ forgotten.stored,
        forgotten.elsewhere⟩
  · cases failed.symm.trans clears.sees

/-- The handlers go in order, up to the one at which the withdrawal stops. -/
theorem ends_forgetEach_clears (act : String → HostCall σ Unit) (names : List String)
    {scope : Scope σ} {gone : List String} (clears : scope.Clears before turn key flow gone) :
    Ends (forgetEach services turn act names) scope
      (fun _ after => after.Clears before turn key flow (names.reverse ++ gone))
      (fun error after => ∃ past name rest tokenless, names = past ++ name :: rest ∧
        Halt services act key flow (past.reverse ++ gone) name error tokenless ∧
          before.Sheds turn key flow tokenless (past.reverse ++ gone) after.world) := by
  induction names generalizing scope gone with
  | nil => exact clears
  | cons name rest ih =>
      simp only [forgetEach, ends_bind]
      unfold Ends TurnAction.ofHost
      cases called : act name ⟨scope.world.host, scope.cancelled⟩ with
      | error error left =>
          exact ⟨[], name, rest, gone, rfl, .declined _ left called, clears.sheds.of_host left.host⟩
      | ok _ left =>
          have calm : Scope.Clears before turn key flow gone
              ⟨{ scope.world with host := left.host }, scope.state,
                scope.cancelled || left.cancelled⟩ :=
            ⟨clears.own, clears.sees, clears.sheds.of_host left.host⟩
          refine (ends_forget_clears act name calm).mono ?_ ?_
          · intro _ middle cleared
            refine (ih cleared).mono ?_ ?_
            · intro _ after all
              rwa [List.reverse_cons, List.append_assoc]
            · rintro error after ⟨past, last, others, tokenless, rfl, halt, sheds⟩
              refine ⟨name :: past, last, others, tokenless, rfl, ?_, ?_⟩ <;>
                rwa [List.reverse_cons, List.append_assoc]
          · rintro error after ⟨tokenless, halt, sheds⟩
            exact ⟨[], name, rest, tokenless, rfl, halt, sheds⟩

theorem withdraw_eq (auth : Authenticator σ) (services : Services σ) (way : Withdrawal)
    (turn : Turn) (handler : Option String) :
    auth.withdraw services way turn handler =
      MonadExcept.ofExcept (auth.targetHandlers handler) >>=
        forgetEach services turn (auth.dispatcher.withdraw way turn) := by
  cases way <;> rfl

/-- The handlers of a withdrawal fall into those that have gone, and the rest, which begins with the
one at which it has stopped. -/
theorem ends_withdraw_clears (auth : Authenticator σ) (services : Services σ) (way : Withdrawal)
    {handler : Option String} {targets : List String}
    (found : auth.targetHandlers handler = .ok targets) {scope : Scope σ}
    (clears : scope.Clears before turn key flow []) :
    Ends (auth.withdraw services way turn handler) scope
      (fun _ after => before.Sheds turn key flow targets.reverse targets.reverse after.world)
      (fun error after => ∃ gone name later tokenless, targets = gone ++ name :: later ∧
        Halt services (auth.dispatcher.withdraw way turn) key flow gone.reverse name error
          tokenless ∧
          before.Sheds turn key flow tokenless gone.reverse after.world) := by
  rw [withdraw_eq, found, ends_bind, ends_ofExcept]
  refine ⟨fun names same => ?_, fun error failed => by cases failed⟩
  obtain rfl := Except.ok.inj same
  have ends : Ends (forgetEach services turn (auth.dispatcher.withdraw way turn) targets) scope
      _ _ := ends_forgetEach_clears (auth.dispatcher.withdraw way turn) targets clears
  simp only [List.append_nil] at ends
  exact ends.mono (fun _ _ cleared => cleared.sheds) (fun _ _ => id)

end Authenticator

/-- A turn that has just loaded the state of its user sees the flow that is stored. -/
theorem Flow.stored_of_load {services : Services σ} {activity : Activity} {world loaded : World σ}
    {state : UserState} {flow : Flow}
    (loads : UserState.load services activity world = .ok state loaded)
    (sees : Flow.load state = .ok flow) : Flow.stored loaded.documents state.key = .ok flow := by
  have keyed := UserState.keyed_of_load loads
  obtain ⟨-, held, host, -, rfl⟩ := (UserState.ends_load_keyed services keyed world).of_ok loads
  exact (Flow.load_eq_stored held).symm.trans sees

/-- Withdrawals clear handler by handler.  Whatever fails, the handlers that a withdrawal is for
fall into those that have gone, of which nothing is kept, and the rest, of which the first is where
it has stopped; it ends well just if there is no rest.  Nothing else has changed of what is kept for
any handler that has not gone, but that of the one where it has stopped the token is gone if storage
has refused to clear its flow; nor has anything of other users. -/
theorem withdrawal_clears_in_order (auth : Authenticator σ) (services : Services σ)
    (way : Withdrawal) (turn : Turn) (handler : Option String) {world loaded : World σ}
    {state : UserState} {flow : Flow} {cancelled : Bool}
    (loads : UserState.load services turn.activity world = .ok state loaded)
    (sees : Flow.load state = .ok flow) :
    let start : Scope σ := ⟨loaded, state, cancelled⟩
    let result := auth.withdraw services way turn handler start
    let after := (remains result).world
    (∀ error, auth.targetHandlers handler = .error error → result = .error error start) ∧
      ∀ targets, auth.targetHandlers handler = .ok targets →
        ∃ gone rest, targets = gone ++ rest ∧
          (∀ name ∈ gone, after.holding turn state.key name = .nothing) ∧
          (∀ name ∉ gone, rest.head? ≠ some name →
            after.holding turn state.key name = loaded.holding turn state.key name) ∧
          (∀ user name, user ≠ turn.user →
            after.tokens.get? user name = loaded.tokens.get? user name) ∧
          (∀ key, key ≠ state.key →
            List.lookup key after.documents = List.lookup key loaded.documents) ∧
          (rest = [] → told result = .ok ()) ∧
          ∀ name later, rest = name :: later → ∃ error, told result = .error error ∧
            ((∃ visit left, auth.dispatcher.withdraw way turn name visit = .error error left) ∧
                (name ∉ gone →
                  after.holding turn state.key name = loaded.holding turn state.key name) ∨
              name ∉ gone ∧ flow.handler = some name ∧
                (∃ cleared : UserState, cleared.key = state.key ∧ Flow.load cleared = .ok .idle ∧
                  services.Refuses cleared.writing error) ∧
                after.holding turn state.key name =
                  { loaded.holding turn state.key name with token := none }) := by
  intro start result after
  have stored := Flow.stored_of_load loads sees
  refine ⟨fun error unknown => ?_, fun targets found => ?_⟩
  · simp only [result, Authenticator.withdraw_eq, unknown]
    rfl
  have clears : start.Clears loaded turn state.key flow [] := start.clears_nil turn stored sees
  have ends := Authenticator.ends_withdraw_clears auth services way found clears
  cases outcome : auth.withdraw services way turn handler start with
  | ok _ final =>
      have left : after = final.world := congrArg (fun result => (remains result).world) outcome
      have sheds := ends.of_ok outcome
      rw [← left] at sheds
      refine ⟨targets, [], (List.append_nil targets).symm, fun name member => ?_,
        fun name stays _ => ?_, fun user name other => sheds.token_of_other other name,
        sheds.elsewhere, fun _ => congrArg told outcome, fun _ _ => (nomatch ·)⟩
      · rw [← List.mem_reverse] at member
        exact sheds.holding_eq_nothing stored member member
      · rw [← List.mem_reverse] at stays
        exact sheds.holding_eq stored stays stays
  | error error final =>
      have left : after = final.world := congrArg (fun result => (remains result).world) outcome
      obtain ⟨gone, name, later, tokenless, rfl, halt, sheds⟩ := ends.of_error outcome
      rw [← left] at sheds
      refine ⟨gone, name :: later, rfl, fun other member => ?_, fun other stays away => ?_,
        fun user name other => sheds.token_of_other other name, sheds.elsewhere, (nomatch ·), ?_⟩
      · rw [← List.mem_reverse] at member
        exact sheds.holding_eq_nothing stored member (halt.lost member)
      · rw [← List.mem_reverse] at stays
        have differs : other ≠ name := fun same => away (by rw [same]; rfl)
        exact sheds.holding_eq stored stays (halt.kept stays differs)
      · intro first others split
        obtain ⟨rfl, rfl⟩ := List.cons.inj split
        have leaves := halt.leaves sheds stored
        rw [List.mem_reverse] at leaves
        exact ⟨error, congrArg told outcome, leaves⟩

/-- The user with a token of the one handler and a flow of the other signs out of both, and nothing
is kept for either. -/
theorem desk_cleared_in_order : ∃ state loaded,
    UserState.load .lenient deskTurn.activity (World.desk deskFlow) = .ok state loaded ∧
      ∀ name ∈ Registry.desk.names,
        (remains (Authenticator.desk.withdraw .lenient .signOut deskTurn none
          ⟨loaded, state, false⟩)).world.holding deskTurn state.key name = .nothing := by
  let state : UserState := ⟨"chat/users/ada", deskFlow, false⟩
  have loads : UserState.load .lenient deskTurn.activity (World.desk deskFlow) =
      .ok state (World.desk deskFlow) := rfl
  have sees : Flow.load state = .ok (.active "card" none) := rfl
  have ended : told (Authenticator.desk.withdraw .lenient .signOut deskTurn none
      ⟨World.desk deskFlow, state, false⟩) = .ok () := rfl
  obtain ⟨gone, rest, all, cleared, -, -, -, -, stops⟩ :=
    (withdrawal_clears_in_order Authenticator.desk .lenient .signOut deskTurn none loads sees).2
      Registry.desk.names rfl
  cases rest with
  | nil =>
      rw [List.append_nil] at all
      rw [all]
      exact ⟨state, _, loads, cleared⟩
  | cons name later =>
      obtain ⟨error, failed, -⟩ := stops name later rfl
      cases ended.symm.trans failed

/-- Storage that can only be read. -/
def Services.readOnly : Services Unit :=
  { Services.lenient with
    permit := fun access host =>
      match access with
      | .write _ | .delete _ => .error (.storageFailed "write unavailable") host
      | _ => .ok () host }

/-- A flow of the handler whose token is kept. -/
def halfFlow : Dictionary Json := [("active-flow", .str "code")]

/-- A withdrawal may clear one half of what is kept for a handler.  When storage can only be read,
the user who signs out of a handler with a token and a flow loses the token and keeps the flow. -/
theorem desk_half_cleared : ∃ state loaded error after,
    UserState.load .readOnly deskTurn.activity (World.desk halfFlow) = .ok state loaded ∧
      Authenticator.desk.withdraw .readOnly .signOut deskTurn (some "code")
        ⟨loaded, state, false⟩ = .error error after ∧
      loaded.holding deskTurn state.key "code" = ⟨some "token", .ok (.active "code" none)⟩ ∧
      after.world.holding deskTurn state.key "code" = ⟨none, .ok (.active "code" none)⟩ ∧
      after.world.holding deskTurn state.key "code" ≠ loaded.holding deskTurn state.key "code" ∧
      after.world.holding deskTurn state.key "code" ≠ .nothing := by
  refine ⟨_, _, _, _, rfl, rfl, rfl, rfl, fun same => ?_, fun same => ?_⟩
  · cases congrArg Holding.token same
  · cases congrArg Holding.flow same

end SignInFlow
