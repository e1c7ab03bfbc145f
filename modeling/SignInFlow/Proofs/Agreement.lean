import SignInFlow.Proofs.History

/-!
# Two sides of a turn

Two hosts may serve the same turn, each with a store of its own.  If every call of the one agrees
with the same call of the other, and every change of the one store with that of the other, the turn
comes to the same on both sides.  What the two sides have in common is left open: the one may carry
a record, or hold the affairs of other users as well.
-/

namespace SignInFlow

variable {σ υ τ ρ α β : Type}

/-! ## Actions that agree -/

/-- Two results with the same value, or with the same error, that leave what is related. -/
inductive ResultsAgree (related : τ → ρ → Prop) :
    EStateM.Result Error τ α → EStateM.Result Error ρ α → Prop where
  | ok (value : α) {state : τ} {other : ρ} (kept : related state other) :
      ResultsAgree related (.ok value state) (.ok value other)
  | error (error : Error) {state : τ} {other : ρ} (kept : related state other) :
      ResultsAgree related (.error error state) (.error error other)

/-- Two actions come to the same from what is related. -/
def Agrees (related : τ → ρ → Prop) (left : EStateM Error τ α) (right : EStateM Error ρ α) :
    Prop :=
  ∀ state other, related state other → ResultsAgree related (left state) (right other)

section

variable {related : τ → ρ → Prop}

theorem ResultsAgree.cases {result : EStateM.Result Error τ α} {other : EStateM.Result Error ρ α}
    (agree : ResultsAgree related result other) :
    (∃ value after otherAfter, result = .ok value after ∧ other = .ok value otherAfter ∧
        related after otherAfter) ∨
      ∃ error after otherAfter, result = .error error after ∧ other = .error error otherAfter ∧
        related after otherAfter := by
  cases agree with
  | ok value kept => exact .inl ⟨value, _, _, rfl, rfl, kept⟩
  | error error kept => exact .inr ⟨error, _, _, rfl, rfl, kept⟩

theorem agrees_pure (value : α) : Agrees related (pure value) (pure value) :=
  fun _ _ kept => .ok value kept

theorem agrees_throw (error : Error) :
    Agrees related (throw error : EStateM Error τ α) (throw error) :=
  fun _ _ kept => .error error kept

theorem agrees_ofExcept (result : Except Error α) :
    Agrees related (MonadExcept.ofExcept result) (MonadExcept.ofExcept result) := by
  cases result with
  | ok value => exact agrees_pure value
  | error error => exact agrees_throw error

theorem Agrees.bind {left : EStateM Error τ α} {right : EStateM Error ρ α}
    {next : α → EStateM Error τ β} {otherNext : α → EStateM Error ρ β}
    (agrees : Agrees related left right)
    (continues : ∀ value, Agrees related (next value) (otherNext value)) :
    Agrees related (left >>= next) (right >>= otherNext) := by
  intro state other kept
  simp only [Bind.bind, EStateM.bind]
  obtain ⟨value, _, _, ends, otherEnds, kept⟩ | ⟨error, _, _, ends, otherEnds, kept⟩ :=
    (agrees state other kept).cases
  · rw [ends, otherEnds]
    exact continues value _ _ kept
  · rw [ends, otherEnds]
    exact .error error kept

theorem Agrees.discard {left : EStateM Error τ α} {right : EStateM Error ρ α}
    (agrees : Agrees related left right) :
    Agrees related (discard left) (discard right) := by
  intro state other kept
  simp only [Functor.discard, Functor.mapConst, Function.comp_apply, EStateM.map]
  obtain ⟨value, _, _, ends, otherEnds, kept⟩ | ⟨error, _, _, ends, otherEnds, kept⟩ :=
    (agrees state other kept).cases
  · rw [ends, otherEnds]
    exact .ok () kept
  · rw [ends, otherEnds]
    exact .error error kept

theorem agrees_get_bind {next : τ → EStateM Error τ α} {otherNext : ρ → EStateM Error ρ α}
    (continues : ∀ state other, related state other →
      Agrees related (next state) (otherNext other)) :
    Agrees related (get >>= next) (get >>= otherNext) :=
  fun state other kept => continues state other kept state other kept

end

/-! ## The two sides -/

/-- What two calls of a host see is alike. -/
structure Visit.Alike (hosts : σ → υ → Prop) (visit : Visit σ) (other : Visit υ) : Prop where
  host : hosts visit.host other.host
  cancelled : visit.cancelled = other.cancelled

/-- An access concerns the user of a key: the user's document, or an activity of the user's own. -/
inductive Access.Concerns (key : String) (owns : Activity → Prop) : Access → Prop where
  | read : Concerns key owns (.read [key])
  | write (document : Json) : Concerns key owns (.write [(key, document)])
  | delete : Concerns key owns (.delete [key])
  | submit (activity : Activity) (own : owns activity) : Concerns key owns (.submit activity)

/-- Two authenticators before two hosts that answer alike whatever a turn asks of them. -/
structure Parallel (turn : Turn) (key : String) (owns : Activity → Prop) (hosts : σ → υ → Prop)
    (left : Authenticator σ) (right : Authenticator υ) (leftServices : Services σ)
    (rightServices : Services υ) : Prop where
  settings : left.settings = right.settings
  defaultHandler : left.defaultHandler = right.defaultHandler
  names : left.dispatcher.names = right.dispatcher.names
  contains : left.dispatcher.contains = right.dispatcher.contains
  policy : Agrees (Visit.Alike hosts) (left.policy.shouldStart turn) (right.policy.shouldStart turn)
  signIn : ∀ request, Agrees (Visit.Alike hosts) (left.dispatcher.signIn turn request)
    (right.dispatcher.signIn turn request)
  signOut : ∀ handler, Agrees (Visit.Alike hosts) (left.dispatcher.signOut turn handler)
    (right.dispatcher.signOut turn handler)
  reset : ∀ handler, Agrees (Visit.Alike hosts) (left.dispatcher.reset turn handler)
    (right.dispatcher.reset turn handler)
  onSuccess : Option.Rel (fun callback other => ∀ report,
    Agrees (Visit.Alike hosts) (callback turn report) (other turn report))
    left.onSuccess right.onSuccess
  onFailure : Option.Rel (fun callback other => ∀ report,
    Agrees (Visit.Alike hosts) (callback turn report) (other turn report))
    left.onFailure right.onFailure
  permit : ∀ access : Access, access.Concerns key owns →
    Agrees hosts (leftServices.permit access) (rightServices.permit access)
  note : ∀ access : Access, access.Concerns key owns → ∀ host other, hosts host other →
    hosts (leftServices.note access host) (rightServices.note access other)
  send : ∀ text now, Agrees hosts (leftServices.send (turn.activity.reply text now))
    (rightServices.send (turn.activity.reply text now))
  clock : ∀ host other, hosts host other → leftServices.clock host = rightServices.clock other

/-- Two applications take the same steps, and what they call agrees. -/
inductive Conduct.Alike (hosts : σ → υ → Prop) : Conduct σ → Conduct υ → Prop where
  | finish (outcome : Except Error Unit) : Alike hosts (.finish outcome) (.finish outcome)
  | signIn (handler : String) (exchange : Option Exchange) {next : Except Error Unit → Conduct σ}
      {other : Except Error Unit → Conduct υ}
      (continues : ∀ outcome, Alike hosts (next outcome) (other outcome)) :
      Alike hosts (.signIn handler exchange next) (.signIn handler exchange other)
  | signOut (handler : Option String) {next : Except Error Unit → Conduct σ}
      {other : Except Error Unit → Conduct υ}
      (continues : ∀ outcome, Alike hosts (next outcome) (other outcome)) :
      Alike hosts (.signOut handler next) (.signOut handler other)
  | reset (handler : Option String) {next : Except Error Unit → Conduct σ}
      {other : Except Error Unit → Conduct υ}
      (continues : ∀ outcome, Alike hosts (next outcome) (other outcome)) :
      Alike hosts (.reset handler next) (.reset handler other)
  | token (handler : String) {next : Option String → Conduct σ} {other : Option String → Conduct υ}
      (continues : ∀ token, Alike hosts (next token) (other token)) :
      Alike hosts (.token handler next) (.token handler other)
  | look {next : UserState → Conduct σ} {other : UserState → Conduct υ}
      (continues : ∀ state, Alike hosts (next state) (other state)) :
      Alike hosts (.look next) (.look other)
  | set (name : String) (value : Json) (foreign : Flow.foreign name = true) {next : Conduct σ}
      {other : Conduct υ} (continues : Alike hosts next other) :
      Alike hosts (.set name value foreign next) (.set name value foreign other)
  | remove (name : String) (foreign : Flow.foreign name = true) {next : Conduct σ}
      {other : Conduct υ} (continues : Alike hosts next other) :
      Alike hosts (.remove name foreign next) (.remove name foreign other)
  | save {next : Except Error Unit → Conduct σ} {other : Except Error Unit → Conduct υ}
      (continues : ∀ outcome, Alike hosts (next outcome) (other outcome)) :
      Alike hosts (.save next) (.save other)
  | call {α : Type} {action : HostCall σ α} {otherAction : HostCall υ α}
      {next : Except Error α → Conduct σ} {other : Except Error α → Conduct υ}
      (agrees : Agrees (Visit.Alike hosts) action otherAction)
      (continues : ∀ outcome, Alike hosts (next outcome) (other outcome)) :
      Alike hosts (.call action next) (.call otherAction other)

/-- What is banked, if anything, is for an activity of one's own. -/
def Flow.Within (owns : Activity → Prop) (flow : Flow) : Prop :=
  ∀ banked, flow.banked = some banked → owns banked.initiating

/-- The world without its host. -/
def World.stock (world : World σ) : World Unit where
  documents := world.documents
  tokens := world.tokens
  metrics := world.metrics
  queue := world.queue
  host := ()

/-- Two stores that a turn sees alike, and that stay so when the turn changes both. -/
structure Storing (turn : Turn) (key : String) (owns : Activity → Prop)
    (stores : World Unit → World Unit → Prop) : Prop where
  own : owns turn.activity
  address : ∀ activity other : Activity, owns activity → other.channel = activity.channel →
    other.sender = activity.sender → owns other
  document : ∀ stock other, stores stock other →
    List.lookup key stock.documents = List.lookup key other.documents
  within : ∀ stock other, stores stock other →
    ∀ flow, Flow.stored stock.documents key = .ok flow → flow.Within owns
  token : ∀ stock other, stores stock other → ∀ handler,
    stock.tokens.get? turn.user handler = other.tokens.get? turn.user handler
  receiving : ∀ stock other, stores stock other →
    stock.queue.receiving = other.queue.receiving
  write : ∀ stock other (state : UserState), stores stock other → state.key = key →
    (∀ flow, Flow.load state = .ok flow → flow.Within owns) →
      stores { stock with documents := state.writing.apply stock.documents }
        { other with documents := state.writing.apply other.documents }
  keep : ∀ stock other handler token, stores stock other →
    stores { stock with tokens := stock.tokens.insert turn.user handler token }
      { other with tokens := other.tokens.insert turn.user handler token }
  drop : ∀ stock other handler, stores stock other →
    stores { stock with tokens := stock.tokens.remove turn.user handler }
      { other with tokens := other.tokens.remove turn.user handler }
  enqueue : ∀ stock other activity queue otherQueue, stores stock other → owns activity →
    stock.queue.submit activity = .ok queue → other.queue.submit activity = .ok otherQueue →
      stores { stock with queue := queue } { other with queue := otherQueue }
  count : ∀ stock other metric, stores stock other →
    stores { stock with metrics := stock.metrics ++ [metric] }
      { other with metrics := other.metrics ++ [metric] }

/-- Two sides on which a user is served: what their hosts and their stores have in common. -/
structure Sides (σ υ : Type) where
  /-- The key of the user. -/
  key : String
  /-- The activities of the user's own. -/
  owns : Activity → Prop
  /-- What the hosts have in common. -/
  hosts : σ → υ → Prop
  /-- What the stores have in common. -/
  stores : World Unit → World Unit → Prop

namespace Sides

variable (sides : Sides σ υ)

/-- What two worlds have in common. -/
structure Worlds (world : World σ) (other : World υ) : Prop where
  host : sides.hosts world.host other.host
  stock : sides.stores world.stock other.stock

/-- What the two sides have in common within a turn. -/
structure Scopes (scope : Scope σ) (other : Scope υ) : Prop where
  worlds : sides.Worlds scope.world other.world
  state : scope.state = other.state
  cancelled : scope.cancelled = other.cancelled
  keyed : scope.state.key = sides.key
  within : ∀ flow, Flow.load scope.state = .ok flow → flow.Within sides.owns

end Sides

theorem Flow.within_idle {owns : Activity → Prop} : Flow.idle.Within owns :=
  fun _ impossible => by cases impossible

theorem Flow.within_active {owns : Activity → Prop} {handler : String} {banked : Banked}
    (own : owns banked.initiating) : (Flow.active handler (some banked)).Within owns := by
  rintro _ ⟨⟩
  exact own

@[simp] theorem Activity.settled_channel (activity : Activity) :
    activity.settled.channel = activity.channel := by
  unfold settled
  split <;> rfl

@[simp] theorem Activity.settled_sender (activity : Activity) :
    activity.settled.sender = activity.sender := by
  unfold settled
  split <;> rfl

theorem Storing.within_settled {turn : Turn} {key : String} {owns : Activity → Prop}
    {stores : World Unit → World Unit → Prop} (storing : Storing turn key owns stores)
    {flow : Flow} (within : flow.Within owns) : flow.settled.Within owns := by
  have address (activity : Activity) (own : owns activity) : owns activity.settled :=
    storing.address activity _ own activity.settled_channel activity.settled_sender
  rcases flow with _ | ⟨handler, _ | _ | _⟩
  · exact Flow.within_idle
  · exact fun _ impossible => by cases impossible
  · exact Flow.within_active (address _ (within _ rfl))
  · exact Flow.within_active (address _ (within _ rfl))

/-! ## What every turn does -/

/-- Writing back a state that has changed is one access. -/
theorem UserState.save_of_dirty (services : Services σ) {state : UserState}
    (dirty : state.dirty = true) (world : World σ) :
    state.save services world =
      match services.permit state.writing world.host with
      | .ok _ host => .ok { state with dirty := false } { world with
          documents := state.writing.apply world.documents
          host := services.note state.writing host }
      | .error error host => .error error { world with host := host } := by
  cases empty : state.properties.isEmpty with
  | true =>
      simp only [save, writing, dirty, empty, if_true, Storage.delete, Bind.bind, EStateM.bind,
        Action.ofHost]
      cases services.permit (.delete [state.key]) world.host <;> rfl
  | false =>
      simp only [save, writing, dirty, empty, if_true, Bool.false_eq_true, if_false, Storage.write,
        Bind.bind, EStateM.bind, Action.ofHost]
      cases services.permit (.write [(state.key, .obj state.properties)]) world.host <;> rfl

/-- Loading a user's state is one access. -/
theorem UserState.load_eq (services : Services σ) {activity : Activity} {key : String}
    (keyed : activity.userKey = .ok key) (world : World σ) :
    UserState.load services activity world =
      match services.permit (.read [key]) world.host with
      | .ok _ host =>
          match propertiesOf key (List.lookup key world.documents) with
          | .ok properties => .ok ⟨key, properties, false⟩ { world with
              host := services.note (.read [key]) host }
          | .error error => .error error { world with
              host := services.note (.read [key]) host }
      | .error error host => .error error { world with host := host } := by
  rw [← lookup_select]
  change EStateM.bind (MonadExcept.ofExcept activity.userKey) _ world = _
  rw [keyed]
  change EStateM.bind (EStateM.bind (Action.ofHost (services.permit (.read [key]))) _) _ world = _
  simp only [EStateM.bind, Action.ofHost]
  cases services.permit (.read [key]) world.host with
  | error error host => rfl
  | ok _ host =>
      change EStateM.bind (MonadExcept.ofExcept (propertiesOf key
        (List.lookup key (Storage.select world.documents [key])))) _ _ = _
      cases propertiesOf key (List.lookup key (Storage.select world.documents [key])) <;> rfl

/-- Queueing an activity is one access, which the queue may refuse as well. -/
theorem Action.submit_eq (services : Services σ) (activity : Activity) (world : World σ) :
    Action.submit services activity world =
      match services.permit (.submit activity) world.host with
      | .ok _ host =>
          match world.queue.submit activity with
          | .ok queue => .ok () { world with
              queue := queue
              host := services.note (.submit activity) host }
          | .error error => .error error { world with host := host }
      | .error error host => .error error { world with host := host } := by
  simp only [submit, Bind.bind, EStateM.bind, ofHost]
  cases services.permit (.submit activity) world.host with
  | error error host => rfl
  | ok _ host =>
      change EStateM.bind (MonadExcept.ofExcept (world.queue.submit activity)) _ _ = _
      cases world.queue.submit activity <;> rfl

namespace TurnAction

theorem save_eq (services : Services σ) (scope : Scope σ) :
    save services scope =
      match scope.state.save services scope.world with
      | .ok saved world => .ok () { scope with world := world, state := saved }
      | .error error world => .error error { scope with world := world } := by
  change EStateM.bind (ofAction (scope.state.save services)) _ scope = _
  simp only [EStateM.bind, ofAction]
  cases scope.state.save services scope.world <;> rfl

variable {turn : Turn} {sides : Sides σ υ}

theorem agrees_attempt {left : TurnAction σ α} {right : TurnAction υ α}
    (agrees : Agrees sides.Scopes left right) :
    Agrees sides.Scopes (attempt left) (attempt right) := by
  intro scope other kept
  simp only [attempt]
  obtain ⟨value, _, _, ends, otherEnds, kept⟩ | ⟨error, _, _, ends, otherEnds, kept⟩ :=
    (agrees scope other kept).cases
  · rw [ends, otherEnds]
    exact .ok _ kept
  · rw [ends, otherEnds]
    exact .ok _ kept

theorem agrees_run {left : TurnAction σ α} {right : TurnAction υ α}
    (agrees : Agrees sides.Scopes left right) {state : UserState} (keyed : state.key = sides.key)
    (within : ∀ flow, Flow.load state = .ok flow → flow.Within sides.owns) (cancelled : Bool) :
    Agrees sides.Worlds (left.run state cancelled) (right.run state cancelled) := by
  intro world other kept
  simp only [run]
  obtain ⟨value, _, _, ends, otherEnds, kept⟩ | ⟨error, _, _, ends, otherEnds, kept⟩ :=
    (agrees ⟨world, state, cancelled⟩ ⟨other, state, cancelled⟩
      ⟨kept, rfl, rfl, keyed, within⟩).cases
  · rw [ends, otherEnds]
    exact .ok value kept.worlds
  · rw [ends, otherEnds]
    exact .error error kept.worlds

theorem agrees_ofHost {call : HostCall σ α} {otherCall : HostCall υ α}
    (agrees : Agrees (Visit.Alike sides.hosts) call otherCall) :
    Agrees sides.Scopes (ofHost call) (ofHost otherCall) := by
  intro scope other kept
  simp only [ofHost]
  obtain ⟨value, _, _, ends, otherEnds, alike⟩ | ⟨error, _, _, ends, otherEnds, alike⟩ :=
    (agrees ⟨scope.world.host, scope.cancelled⟩ ⟨other.world.host, other.cancelled⟩
      ⟨kept.worlds.host, kept.cancelled⟩).cases
  · rw [ends, otherEnds]
    exact .ok value { kept with
      worlds := { kept.worlds with host := alike.host }
      cancelled := congrArg₂ or kept.cancelled alike.cancelled }
  · rw [ends, otherEnds]
    exact .error error { kept with
      worlds := { kept.worlds with host := alike.host }
      cancelled := congrArg₂ or kept.cancelled alike.cancelled }

theorem agrees_ensureNotCancelled :
    Agrees sides.Scopes (ensureNotCancelled : TurnAction σ Unit) ensureNotCancelled := by
  refine agrees_get_bind fun scope other kept => ?_
  rw [kept.cancelled]
  cases other.cancelled with
  | true => exact agrees_throw .cancelled
  | false => exact agrees_pure ()

/-- Both sides see the same flow, which is one of their own. -/
theorem agrees_flow_bind {next : Flow → TurnAction σ α} {otherNext : Flow → TurnAction υ α}
    (continues : ∀ flow : Flow, flow.Within sides.owns →
      Agrees sides.Scopes (next flow) (otherNext flow)) :
    Agrees sides.Scopes (flow >>= next) (flow >>= otherNext) := by
  intro scope other kept
  change ResultsAgree sides.Scopes
    (EStateM.bind (MonadExcept.ofExcept (Flow.load scope.state)) next scope)
    (EStateM.bind (MonadExcept.ofExcept (Flow.load other.state)) otherNext other)
  rw [← kept.state]
  cases loaded : Flow.load scope.state with
  | error error => exact .error error kept
  | ok flow => exact continues flow (kept.within flow loaded) scope other kept

theorem agrees_set (name : String) (value : Json) (foreign : Flow.foreign name = true) :
    Agrees sides.Scopes (modifyState fun state => state.set name value)
      (modifyState fun state => state.set name value) :=
  fun _ _ kept => .ok () { kept with
    state := congrArg (UserState.set · name value) kept.state
    within := fun flow loaded => kept.within flow (Flow.load_set _ value foreign ▸ loaded) }

theorem agrees_remove (name : String) (foreign : Flow.foreign name = true) :
    Agrees sides.Scopes (modifyState fun state => state.remove name)
      (modifyState fun state => state.remove name) :=
  fun scope _ kept => .ok () { kept with
    state := congrArg (UserState.remove · name) kept.state
    keyed := (scope.state.remove_key).trans kept.keyed
    within := fun flow loaded => kept.within flow (Flow.load_remove _ foreign ▸ loaded) }

end TurnAction

/-! ## What changes the store -/

namespace Storing

open TurnAction

variable {turn : Turn} {sides : Sides σ υ}
  (storing : Storing turn sides.key sides.owns sides.stores)

include storing

theorem agrees_count (metric : Metric) :
    Agrees sides.Scopes (TurnAction.count metric : TurnAction σ Unit) (TurnAction.count metric) :=
  fun _ _ kept => .ok () { kept with
    worlds := { kept.worlds with stock := storing.count _ _ metric kept.worlds.stock } }

theorem agrees_cacheToken (handler : String) (response : Response) :
    Agrees sides.Scopes (Authenticator.cacheToken turn handler response : TurnAction σ String)
      (Authenticator.cacheToken turn handler response) :=
  fun _ _ kept => .ok _ { kept with
    worlds := { kept.worlds with stock := storing.keep _ _ handler _ kept.worlds.stock } }

theorem agrees_drop (handler : String) :
    Agrees sides.Scopes
      (ofAction (modify fun world : World σ =>
        { world with tokens := world.tokens.remove turn.user handler }))
      (ofAction (modify fun world : World υ =>
        { world with tokens := world.tokens.remove turn.user handler })) :=
  fun _ _ kept => .ok _ { kept with
    worlds := { kept.worlds with stock := storing.drop _ _ handler kept.worlds.stock } }

/-- Both sides keep the same token for a handler. -/
theorem cachedToken_eq {scope : Scope σ} {other : Scope υ} (kept : sides.Scopes scope other)
    (handler : String) :
    Authenticator.cachedToken scope.world turn handler =
      Authenticator.cachedToken other.world turn handler :=
  storing.token _ _ kept.worlds.stock handler

/-- What a flow is stored as is a flow of one's own again. -/
theorem agrees_store {flow : Flow} (within : flow.Within sides.owns) :
    Agrees sides.Scopes (modifyState flow.store : TurnAction σ Unit) (modifyState flow.store) :=
  fun scope _ kept => .ok () { kept with
    state := congrArg flow.store kept.state
    keyed := (flow.store_key scope.state).trans kept.keyed
    within := by
      intro stored loaded
      rw [Flow.load_store] at loaded
      cases loaded
      exact storing.within_settled within }

/-- Both queues accept an activity, or neither does. -/
theorem submit_cases {world : World σ} {other : World υ} {activity : Activity}
    (kept : sides.stores world.stock other.stock) (own : sides.owns activity) :
    (∃ queue otherQueue, world.queue.submit activity = .ok queue ∧
        other.queue.submit activity = .ok otherQueue ∧
          sides.stores { world.stock with queue := queue }
            { other.stock with queue := otherQueue }) ∨
      ∃ error, world.queue.submit activity = .error error ∧
        other.queue.submit activity = .error error := by
  have receiving : world.queue.receiving = other.queue.receiving := storing.receiving _ _ kept
  have enqueue := storing.enqueue world.stock other.stock activity
  cases listens : world.queue.receiving with
  | true =>
      have accepts : world.queue.submit activity = .ok _ := if_pos listens
      have otherAccepts : other.queue.submit activity = .ok _ := if_pos (receiving ▸ listens)
      exact .inl ⟨_, _, accepts, otherAccepts, enqueue _ _ kept own accepts otherAccepts⟩
  | false =>
      have closed : ¬ world.queue.receiving = true := ne_true_of_eq_false listens
      exact .inr ⟨_, if_neg closed, if_neg (receiving ▸ closed)⟩

end Storing

end SignInFlow
