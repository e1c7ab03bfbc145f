import SignInFlow.Proofs.Records
import SignInFlow.Proofs.Verdicts

/-!
# Coming back to the activity that started a flow

The activity that starts a flow is banked, and the flow stays as it is while its handler leaves
other turns of the user pending.  If the handler gives a token in a turn of an equal activity, that
turn goes on and nothing is replayed.  An explicit `null` payload is read back as none, so that an
activity with one is not known again.
-/

namespace SignInFlow

variable {σ : Type}

/-- Equal activities belong to the same user. -/
theorem Activity.userKey_eq_of_beq {activity other : Activity} (same : (activity == other) = true) :
    activity.userKey = other.userKey := by
  cases activity
  cases other
  simp only [BEq.beq, instBEqActivity.beq, Bool.and_eq_true] at same
  obtain ⟨-, -, -, -, -, channels, senders, -⟩ := same
  simp only [userKey, of_decide_eq_true channels, of_decide_eq_true senders]

namespace Authenticator

/-- A turn loads the state of its user, and the gate asks a handler, who answers. -/
structure Hears (auth : Authenticator σ) (services : Services σ) (turn : Turn)
    (requested : Option String) (world : World σ) (scope : Scope σ) (flow : Flow) (handler : String)
    (answer : Response) : Prop where
  loads : UserState.load services turn.activity world = .ok scope.state scope.world
  timely : scope.cancelled = false
  reads : Flow.load scope.state = .ok flow
  chosen : auth.handlerFor flow requested = .ok handler
  asks : ∃ asked, auth.passes turn flow scope = .ok false asked ∧
    told (auth.dispatcher.signIn turn ⟨handler, !flow.isActive, flow.exchange⟩
      ⟨asked.world.host, asked.cancelled⟩) = .ok answer

/-- What the gate of a turn leaves. -/
def gateLeaves (auth : Authenticator σ) (services : Services σ) (turn : Turn)
    (requested : Option String) (scope : Scope σ) : World σ :=
  (remains (auth.startOrContinue services turn requested scope)).world

/-- Turns of a user go by, each left pending by the handler of its flow, and between them anything
that leaves the document of the user alone. -/
inductive Waits (auth : Authenticator σ) (services : Services σ) (key : String) (start : World σ) :
    World σ → Prop where
  | refl : Waits auth services key start start
  | pending {world : World σ} (waits : Waits auth services key start world) {turn : Turn}
      {requested : Option String} {scope : Scope σ} {flow : Flow} {handler : String}
      {answer : Response} (own : turn.activity.userKey = .ok key)
      (hears : auth.Hears services turn requested world scope flow handler answer)
      (pending : answer.status = .pending) :
      Waits auth services key start (auth.gateLeaves services turn requested scope)
  | elsewhere {world after : World σ} (waits : Waits auth services key start world)
      (same : List.lookup key after.documents = List.lookup key world.documents) :
      Waits auth services key start after

variable {auth : Authenticator σ} {services : Services σ} {turn : Turn} {requested : Option String}
  {world : World σ} {scope : Scope σ} {flow : Flow} {handler : String} {answer : Response}

namespace Hears

theorem keyed (hears : auth.Hears services turn requested world scope flow handler answer) :
    turn.activity.userKey = .ok scope.state.key :=
  ((ends_loadStored services turn.activity world).of_ok hears.loads).1

/-- What a turn loads is what is stored. -/
theorem stored (hears : auth.Hears services turn requested world scope flow handler answer) :
    Flow.stored world.documents scope.state.key = .ok flow := by
  obtain ⟨-, held, -⟩ := (ends_loadStored services turn.activity world).of_ok hears.loads
  exact (Flow.load_eq_stored held).symm.trans hears.reads

theorem unchanged (hears : auth.Hears services turn requested world scope flow handler answer) :
    scope.world.documents = world.documents ∧ scope.world.queue = world.queue := by
  obtain ⟨host, loaded⟩ := (ends_loadAlone services turn.activity world).of_ok hears.loads
  rw [loaded]
  exact ⟨rfl, rfl⟩

/-- What the gate comes to follows from the answer. -/
theorem settles (hears : auth.Hears services turn requested world scope flow handler answer) :
    ∃ after : View, auth.Settles services turn flow handler answer.effective
        (scope.blank.view.hear .gate turn ⟨handler, !flow.isActive, flow.exchange⟩ (.ok answer))
        (told (auth.startOrContinue services turn requested scope)) after ∧
      after.documents = (auth.gateLeaves services turn requested scope).documents ∧
      after.tokens = (auth.gateLeaves services turn requested scope).tokens ∧
      after.queue = (auth.gateLeaves services turn requested scope).queue := by
  obtain ⟨asked, asks, answered⟩ := hears.asks
  obtain ⟨left, passes, rfl⟩ := (mirrors_passes auth turn flow).of_ok asks
  have mirrors := mirrors_startOrContinue auth services turn .gate requested
  have yields : Yields ((auth.recorded .gate).startOrContinue (services.recorded turn) turn
      requested) scope.blank _ :=
    yields_startOrContinue_told passes hears.timely hears.reads hears.chosen
  have comes := yields.comes
  rw [← mirrors.told_eq scope] at comes
  rcases comes with ⟨given, told, settles⟩ | ⟨error, failed, -⟩
  · cases answered.symm.trans told
    refine ⟨_, settles, ?_⟩
    rw [gateLeaves, mirrors.remains_eq]
    exact ⟨rfl, rfl, rfl⟩
  · cases answered.symm.trans failed

/-- A flow that begins is stored with the activity that has started it. -/
theorem begins (hears : auth.Hears services turn requested world scope .idle handler answer)
    (pending : answer.status = .pending)
    (halts : told (auth.startOrContinue services turn requested scope) = .ok false) :
    Flow.stored (auth.gateLeaves services turn requested scope).documents scope.state.key =
      .ok (.active handler (some (.activity turn.activity.settled))) := by
  obtain ⟨after, settles, documents, -⟩ := hears.settles
  rw [halts] at settles
  rw [← documents]
  have unconcluded := Response.effective_pending.mpr pending
  cases settles with
  | stays active pending => cases active
  | begins idle pending writes =>
      have stored := writes.stored_active
      rwa [View.hear_state] at stored
  | handsOn banked holds activity continues hands => cases holds
  | reports failed ends writes now outcome told => cases unconcluded.symm.trans failed
  | goesOn complete ends writes => cases unconcluded.symm.trans complete

/-- A flow that its handler leaves pending stays as it is. -/
theorem stays (hears : auth.Hears services turn requested world scope flow handler answer)
    (active : flow.isActive = true) (pending : answer.status = .pending) :
    (auth.gateLeaves services turn requested scope).documents = world.documents := by
  obtain ⟨after, settles, documents, -⟩ := hears.settles
  have unconcluded := Response.effective_pending.mpr pending
  rw [← documents, ← hears.unchanged.1]
  generalize told (auth.startOrContinue services turn requested scope) = outcome at settles
  cases settles with
  | stays active pending => exact View.hear_documents _ _ _ _ _
  | begins idle pending writes =>
      subst idle
      cases active
  | handsOn banked holds activity continues hands =>
      exact absurd unconcluded (concluded_of_continuation continues)
  | sticks failed ends error writes => cases unconcluded.symm.trans failed
  | reports failed ends writes now outcome told => cases unconcluded.symm.trans failed
  | goesOn complete ends writes => cases unconcluded.symm.trans complete

/-- A flow that has banked an activity gives its token in a turn of an equal one: the token is kept,
nothing is queued, and the turn goes on with the flow cleared, unless the write is refused. -/
theorem returns {trigger : Activity} {token : String}
    (hears : auth.Hears services turn requested world scope
      (.active handler (some (.activity trigger))) handler answer)
    (same : (trigger == turn.activity) = true) (complete : answer.status = .complete)
    (has : answer.token = some token) :
    let after := auth.gateLeaves services turn requested scope
    after.queue = world.queue ∧ cachedToken after turn handler = some token ∧
      (told (auth.startOrContinue services turn requested scope) = .ok true ∧
          Flow.stored after.documents scope.state.key = .ok .idle ∨
        ∃ access error, Access.isStorage access = true ∧ services.Refuses access error ∧
          told (auth.startOrContinue services turn requested scope) = .error error) := by
  intro left
  obtain ⟨after, settles, documents, tokens, queue⟩ := hears.settles
  rw [Response.effective_of_token has] at settles
  generalize told (auth.startOrContinue services turn requested scope) = outcome at settles ⊢
  cases settles with
  | stays active pending => cases complete.symm.trans pending
  | begins idle pending writes => cases idle
  | handsOn banked holds activity continues hands =>
      cases holds
      simp [continuation, same] at continues
  | sticks failed ends error writes => cases complete.symm.trans failed
  | reports failed ends writes now outcome told => cases complete.symm.trans failed
  | goesOn complete ends writes =>
      have kept : left.tokens = scope.world.tokens.insert turn.user handler token := by
        rw [← tokens, writes.tokens]
        exact View.tokens_hear_of_complete _ _ _ _ complete has
      have unqueued : left.queue = scope.world.queue := by
        rw [← queue, writes.queue]
        exact View.hear_queue _ _ _ _ _
      refine ⟨unqueued.trans hears.unchanged.2, ?_, ?_⟩
      · rw [cachedToken, kept, TokenCache.get?_insert_self]
      · cases outcome with
        | error error =>
            obtain ⟨access, storage, refuses⟩ := writes.refuses
            exact .inr ⟨access, error, storage, refuses, rfl⟩
        | ok passes =>
            cases writes with
            | kept =>
                have loaded : Flow.load scope.blank.view.state = _ := hears.reads
                have stored := hears.stored
                rw [← hears.unchanged.1] at stored
                refine .inl ⟨rfl, ?_⟩
                rw [← documents]
                exact stored_cleared loaded stored (View.hear_state _ _ _ _ _)
                  (View.hear_documents _ _ _ _ _)

end Hears

/-- The flow of the user stays as it is while turns go by that its handler leaves pending. -/
theorem Waits.stored {key owner : String} {banked : Option Banked} {start : World σ}
    (waits : auth.Waits services key start world)
    (stored : Flow.stored start.documents key = .ok (.active owner banked)) :
    Flow.stored world.documents key = .ok (.active owner banked) := by
  induction waits with
  | refl => exact stored
  | @pending world waits turn requested scope flow handler answer own hears pending ih =>
      have same : scope.state.key = key := Except.ok.inj (hears.keyed.symm.trans own)
      have held := hears.stored
      rw [same, ih] at held
      obtain rfl := Except.ok.inj held
      rwa [hears.stays rfl pending]
  | elsewhere waits same ih =>
      rw [Flow.stored, same]
      exact ih

end Authenticator

/-- Completing on the activity that was banked needs no replay, unless that activity has an explicit
`null` payload.  Where a turn has started a flow and other turns of the user have gone by pending, a
turn of an equal activity in which the handler gives its token goes on: nothing is queued, the token
is kept, and the flow is cleared, unless storage refuses just that. -/
theorem banked_turn_goes_on {auth : Authenticator σ} {services : Services σ} {first last : Turn}
    {requested latest : Option String} {world left : World σ} {scope again : Scope σ} {flow : Flow}
    {handler owner token : String} {answer final : Response}
    (starts : auth.Hears services first requested world scope .idle handler answer)
    (pending : answer.status = .pending)
    (halts : told (auth.startOrContinue services first requested scope) = .ok false)
    (payload : first.activity.value ≠ some .null)
    (waits : auth.Waits services scope.state.key
      (auth.gateLeaves services first requested scope) left)
    (same : (first.activity == last.activity) = true)
    (concludes : auth.Hears services last latest left again flow owner final)
    (complete : final.status = .complete) (has : final.token = some token) :
    let after := auth.gateLeaves services last latest again
    owner = handler ∧ after.queue = left.queue ∧
      Authenticator.cachedToken after last handler = some token ∧
      (told (auth.startOrContinue services last latest again) = .ok true ∧
          Flow.stored after.documents scope.state.key = .ok .idle ∨
        ∃ access error, Access.isStorage access = true ∧ services.Refuses access error ∧
          told (auth.startOrContinue services last latest again) = .error error) := by
  have own : again.state.key = scope.state.key := by
    have keyed := starts.keyed
    rw [Activity.userKey_eq_of_beq same, concludes.keyed] at keyed
    exact Except.ok.inj keyed
  have stored := waits.stored (starts.begins pending halts)
  rw [← own, concludes.stored, Activity.settled_of_ne_null payload] at stored
  obtain rfl := Except.ok.inj stored
  obtain rfl : handler = owner := Except.ok.inj concludes.chosen
  rw [← own]
  exact ⟨rfl, concludes.returns same complete has⟩

/-- An authenticator that starts flows by itself; its handler wants to be asked three times. -/
def Authenticator.eager : Authenticator Nat :=
  { Site.sample.auth with
    dispatcher :=
      { Site.sample.auth.dispatcher with
        signIn := fun _ _ visit =>
          .ok (if visit.host < 2 then .pending else .complete "token")
            { visit with host := visit.host + 1 } }
    policy := .always }

/-- A turn begins before a host that refuses nothing. -/
def Turn.enter (turn : Turn) (world : World Nat) : Scope Nat :=
  match UserState.load .lenient turn.activity world with
  | .ok state left => ⟨left, state, false⟩
  | .error _ left => ⟨left, ⟨"", [], false⟩, false⟩

/-- What a turn of the eager authenticator leaves. -/
def eagerLeaves (turn : Turn) (world : World Nat) : World Nat :=
  Authenticator.eager.gateLeaves .lenient turn none (turn.enter world)

/-- A user asks for something. -/
def eagerTurn : Turn := ⟨.message "chat" "ada" "room" "open the door", false⟩

/-- The user says something else. -/
def eagerAside : Turn := ⟨.message "chat" "ada" "room" "hello?", false⟩

/-- What is left when both have gone by. -/
def eagerLeft : World Nat := eagerLeaves eagerAside (eagerLeaves eagerTurn (World.initial 0))

/-- When the user asks again, and the handler gives its token, the turn goes on. -/
theorem eager_turn_goes_on :
    (eagerLeaves eagerTurn eagerLeft).queue = eagerLeft.queue ∧
      Authenticator.cachedToken (eagerLeaves eagerTurn eagerLeft) eagerTurn "code" =
        some "token" ∧
      told (Authenticator.eager.startOrContinue .lenient eagerTurn none
        (eagerTurn.enter eagerLeft)) = .ok true ∧
      Flow.stored (eagerLeaves eagerTurn eagerLeft).documents "chat/users/ada" = .ok .idle := by
  let banked : Flow := .active "code" (some (.activity eagerTurn.activity))
  have starts : Authenticator.eager.Hears .lenient eagerTurn none (World.initial 0)
      (eagerTurn.enter (World.initial 0)) .idle "code" .pending :=
    ⟨rfl, rfl, rfl, rfl, _, rfl, rfl⟩
  have stays : Authenticator.eager.Hears .lenient eagerAside none
      (eagerLeaves eagerTurn (World.initial 0))
      (eagerAside.enter (eagerLeaves eagerTurn (World.initial 0))) banked "code" .pending :=
    ⟨rfl, rfl, rfl, rfl, _, rfl, rfl⟩
  have concludes : Authenticator.eager.Hears .lenient eagerTurn none eagerLeft
      (eagerTurn.enter eagerLeft) banked "code" (.complete "token") :=
    ⟨rfl, rfl, rfl, rfl, _, rfl, rfl⟩
  have waits : Authenticator.eager.Waits .lenient "chat/users/ada"
      (eagerLeaves eagerTurn (World.initial 0)) eagerLeft :=
    .pending .refl rfl stays rfl
  obtain ⟨-, queue, kept, ⟨passes, cleared⟩ | ⟨access, error, storage, refuses, -⟩⟩ :=
    banked_turn_goes_on starts rfl rfl nofun waits (by decide +kernel) concludes rfl rfl
  · exact ⟨queue, kept, passes, cleared⟩
  · have stores : (Services.lenient : Services Nat).Stores := fun _ _ host => ⟨host, rfl⟩
    exact absurd refuses (stores.permits storage)

/-- An event with an explicit `null` payload. -/
def nullTurn : Turn := ⟨.event "chat" "ada" "room" "ping" .null, false⟩

/-- What is left when the event has started a flow. -/
def nullLeft : World Nat := eagerLeaves nullTurn (World.initial 1)

/-- Where the event comes again and the handler gives its token, the turn does not go on, and the
event is queued without its payload. -/
theorem null_payload_replayed :
    Authenticator.eager.Hears .lenient nullTurn none (World.initial 1)
        (nullTurn.enter (World.initial 1)) .idle "code" .pending ∧
      told (Authenticator.eager.startOrContinue .lenient nullTurn none
        (nullTurn.enter (World.initial 1))) = .ok false ∧
      (nullTurn.activity == nullTurn.activity) = true ∧
      Authenticator.eager.Hears .lenient nullTurn none nullLeft (nullTurn.enter nullLeft)
        (.active "code" (some (.activity nullTurn.activity.settled))) "code" (.complete "token") ∧
      told (Authenticator.eager.startOrContinue .lenient nullTurn none
        (nullTurn.enter nullLeft)) = .ok false ∧
      nullLeft.queue.waiting = [] ∧
      (eagerLeaves nullTurn nullLeft).queue.waiting = [nullTurn.activity.settled] :=
  ⟨⟨rfl, rfl, rfl, rfl, _, rfl, rfl⟩, rfl, by decide +kernel,
    ⟨rfl, rfl, rfl, rfl, _, rfl, rfl⟩, rfl, rfl, rfl⟩

end SignInFlow
