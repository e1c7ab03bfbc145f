import SignInFlow.Proofs.Parallel

/-!
# Recording changes nothing

A recorded host behaves as the one it is made of: without the record, every action comes to what it
comes to without recording.  So whatever is shown of recorded runs is true of the runs themselves.
-/

namespace SignInFlow

variable {σ τ υ α β : Type}

/-- The world without the record. -/
def World.erase (world : World (Recorded σ)) : World σ where
  documents := world.documents
  tokens := world.tokens
  metrics := world.metrics
  queue := world.queue
  host := world.host.host

/-- The scope without the record. -/
def Scope.erase (scope : Scope (Recorded σ)) : Scope σ where
  world := scope.world.erase
  state := scope.state
  cancelled := scope.cancelled

/-- What an action comes to, with another view of the state it leaves. -/
def seenAs (forget : τ → υ) : EStateM.Result Error τ α → EStateM.Result Error υ α
  | .ok value after => .ok value (forget after)
  | .error error after => .error error (forget after)

/-- An action does the same as a plain one, as far as what is forgotten does not matter. -/
def Mirrors (forget : τ → υ) (action : EStateM Error τ α) (plain : EStateM Error υ α) : Prop :=
  ∀ state, plain (forget state) = seenAs forget (action state)

section

variable {forget : τ → υ}

theorem mirrors_pure (value : α) : Mirrors forget (pure value) (pure value) := fun _ => rfl

theorem mirrors_get_bind {next : τ → EStateM Error τ α} {plainNext : υ → EStateM Error υ α}
    (continues : ∀ state, Mirrors forget (next state) (plainNext (forget state))) :
    Mirrors forget (get >>= next) (get >>= plainNext) := fun state => continues state state

theorem Mirrors.bind {action : EStateM Error τ α} {plain : EStateM Error υ α}
    {next : α → EStateM Error τ β} {plainNext : α → EStateM Error υ β}
    (mirrors : Mirrors forget action plain)
    (continues : ∀ value, Mirrors forget (next value) (plainNext value)) :
    Mirrors forget (action >>= next) (plain >>= plainNext) := by
  intro state
  simp only [Bind.bind, EStateM.bind]
  rw [mirrors state]
  cases action state with
  | ok value after => exact continues value after
  | error error after => rfl

end

/-! ## The host -/

/-- A recorded host is made of a plain one. -/
def Recorded.IsOf (recorded : Recorded σ) (host : σ) : Prop := recorded.host = host

theorem agrees_unnoticed_erase (call : HostCall σ α) :
    Agrees (Visit.Alike Recorded.IsOf) call.unnoticed call := by
  rintro ⟨recorded, cancelled⟩ ⟨host, _⟩ ⟨rfl, rfl⟩
  simp only [HostCall.unnoticed]
  cases call ⟨recorded.host, cancelled⟩ with
  | ok value after => exact .ok value ⟨rfl, rfl⟩
  | error error after => exact .error error ⟨rfl, rfl⟩

theorem agrees_noticed_erase (call : HostCall σ α) (event : Except Error α → Event) :
    Agrees (Visit.Alike Recorded.IsOf) (call.noticed event) call := by
  rintro ⟨recorded, cancelled⟩ ⟨host, _⟩ ⟨rfl, rfl⟩
  simp only [HostCall.noticed]
  cases call ⟨recorded.host, cancelled⟩ with
  | ok value after => exact .ok value ⟨rfl, rfl⟩
  | error error after => exact .error error ⟨rfl, rfl⟩

/-- A recorded host answers as the one it is made of. -/
theorem Parallel.erase (auth : Authenticator σ) (services : Services σ) (turn : Turn)
    (key : String) (owns : Activity → Prop) (asker : Asker) :
    Parallel turn key owns Recorded.IsOf (auth.recorded asker) auth (services.recorded turn)
      services where
  settings := rfl
  defaultHandler := rfl
  names := rfl
  contains := rfl
  policy := by
    have unnoticed := agrees_unnoticed_erase (auth.policy.shouldStart turn)
    rwa [← StartPolicy.shouldStart_recorded] at unnoticed
  signIn request := agrees_noticed_erase _ _
  signOut handler := agrees_noticed_erase _ _
  reset handler := agrees_noticed_erase _ _
  onSuccess := by
    unfold Authenticator.recorded
    cases auth.onSuccess with
    | none => exact .none
    | some callback => exact .some fun report => agrees_noticed_erase _ _
  onFailure := by
    unfold Authenticator.recorded
    cases auth.onFailure with
    | none => exact .none
    | some callback => exact .some fun report => agrees_noticed_erase _ _
  permit access _ := by
    rintro recorded _ rfl
    simp only [Services.recorded]
    cases services.permit access recorded.host with
    | ok _ host => exact .ok () rfl
    | error error host => exact .error error rfl
  note access _ := by
    rintro recorded _ rfl
    rfl
  send text now := by
    rintro recorded _ rfl
    simp only [Services.recorded, Recorded.ofHost, Recorded.see]
    cases services.send (turn.activity.reply text now) recorded.host with
    | ok _ host => exact .ok () rfl
    | error error host => exact .error error rfl
  clock := by
    rintro recorded _ rfl
    rfl

theorem Conduct.alike_erase (conduct : Conduct σ) :
    conduct.recorded.Alike Recorded.IsOf conduct := by
  induction conduct with
  | finish outcome => exact .finish outcome
  | signIn handler exchange next ih => exact .signIn handler exchange ih
  | signOut handler next ih => exact .signOut handler ih
  | reset handler next ih => exact .reset handler ih
  | token handler next ih => exact .token handler ih
  | look next ih => exact .look ih
  | set name value foreign next ih => exact .set name value foreign ih
  | remove name foreign next ih => exact .remove name foreign ih
  | save next ih => exact .save ih
  | call action next ih => exact .call (agrees_unnoticed_erase action) ih

/-- The same store, for turns of anybody. -/
theorem storing_eq (turn : Turn) (key : String) :
    Storing turn key (fun _ => True) Eq where
  own := trivial
  address _ _ _ _ _ := trivial
  document := by
    rintro _ _ rfl
    rfl
  within _ _ _ _ _ _ _ := trivial
  token := by
    rintro _ _ rfl _
    rfl
  receiving := by
    rintro _ _ rfl
    rfl
  write := by
    rintro _ _ _ rfl _ _
    rfl
  keep := by
    rintro _ _ _ _ rfl
    rfl
  drop := by
    rintro _ _ _ rfl
    rfl
  enqueue := by
    rintro _ _ _ _ _ rfl _ accepted otherAccepted
    rw [accepted] at otherAccepted
    cases otherAccepted
    rfl
  count := by
    rintro _ _ _ rfl
    rfl

/-- A recorded host on one side, and the one it is made of on the other. -/
def erasing (σ : Type) (key : String) : Sides (Recorded σ) σ where
  key := key
  owns := fun _ => True
  hosts := Recorded.IsOf
  stores := Eq

theorem Sides.Worlds.eq_erase {key : String} {world : World (Recorded σ)} {other : World σ}
    (worlds : (erasing σ key).Worlds world other) : other = world.erase := by
  obtain ⟨documents, tokens, metrics, queue, host⟩ := other
  obtain ⟨rfl, stock⟩ := worlds
  cases stock
  rfl

/-- What agrees on the two sides mirrors. -/
theorem mirrors_of_agrees {action : TurnAction (Recorded σ) α} {plain : TurnAction σ α}
    (agrees : ∀ key, Agrees (erasing σ key).Scopes action plain) :
    Mirrors Scope.erase action plain := by
  have erased {key : String} {scope : Scope (Recorded σ)} {other : Scope σ}
      (kept : (erasing σ key).Scopes scope other) : other = scope.erase := by
    obtain ⟨world, state, cancelled⟩ := other
    obtain ⟨worlds, rfl, rfl, -, -⟩ := kept
    obtain rfl : world = scope.world.erase := worlds.eq_erase
    rfl
  intro scope
  have start : (erasing σ scope.state.key).Scopes scope scope.erase :=
    ⟨⟨rfl, rfl⟩, rfl, rfl, rfl, fun _ _ _ _ => trivial⟩
  obtain ⟨value, _, _, ends, otherEnds, kept⟩ | ⟨error, _, _, ends, otherEnds, kept⟩ :=
    (agrees scope.state.key scope scope.erase start).cases
  · rw [ends, otherEnds, erased kept]
    rfl
  · rw [ends, otherEnds, erased kept]
    rfl

namespace TurnAction

/-- An effect of a turn does the same as a plain one from the outside as well. -/
theorem mirrors_run {action : TurnAction (Recorded σ) α} {plain : TurnAction σ α}
    (mirrors : Mirrors Scope.erase action plain) (state : UserState) (cancelled : Bool) :
    Mirrors World.erase (action.run state cancelled) (plain.run state cancelled) := by
  intro world
  have same : plain ⟨world.erase, state, cancelled⟩ =
      seenAs Scope.erase (action ⟨world, state, cancelled⟩) := mirrors ⟨world, state, cancelled⟩
  simp only [run]
  rw [same]
  cases action ⟨world, state, cancelled⟩ <;> rfl

/-- That a turn has passed the gate is seen only in the record. -/
theorem mirrors_noteAdmitted (turn : Turn) :
    Mirrors Scope.erase (noteAdmitted turn : TurnAction (Recorded σ) Unit) (pure ()) := fun _ => rfl

end TurnAction

/-! ## The operations -/

section

variable (services : Services σ) (turn : Turn)

theorem mirrors_load (activity : Activity) :
    Mirrors World.erase (UserState.load (services.recorded turn) activity)
      (UserState.load services activity) := by
  intro world
  cases keyed : activity.userKey with
  | error error =>
      change EStateM.bind (MonadExcept.ofExcept activity.userKey) _ _ =
        seenAs World.erase (EStateM.bind (MonadExcept.ofExcept activity.userKey) _ world)
      rw [keyed]
      rfl
  | ok key =>
      rw [UserState.load_eq _ keyed, UserState.load_eq _ keyed]
      simp only [Services.recorded, World.erase]
      cases services.permit (.read [key]) world.host.host with
      | error error host => rfl
      | ok _ host =>
          simp only []
          cases UserState.propertiesOf key (List.lookup key world.documents) <;> rfl

end

namespace Authenticator

variable (auth : Authenticator σ) (services : Services σ) (turn : Turn) (asker : Asker)

theorem mirrors_startOrContinue (requested : Option String) :
    Mirrors Scope.erase
      ((auth.recorded asker).startOrContinue (services.recorded turn) turn requested)
      (auth.startOrContinue services turn requested) :=
  mirrors_of_agrees fun key =>
    Parallel.agrees_startOrContinue (.erase auth services turn key _ asker) (storing_eq turn key) _

theorem mirrors_signIn (handler : String) (exchange : Option Exchange) :
    Mirrors Scope.erase
      ((auth.recorded asker).signIn (services.recorded turn) turn handler exchange)
      (auth.signIn services turn handler exchange) :=
  mirrors_of_agrees fun key =>
    Parallel.agrees_signIn (.erase auth services turn key _ asker) (storing_eq turn key) _ _

theorem mirrors_signOut (handler : Option String) :
    Mirrors Scope.erase ((auth.recorded asker).signOut (services.recorded turn) turn handler)
      (auth.signOut services turn handler) :=
  mirrors_of_agrees fun key =>
    Parallel.agrees_signOut (.erase auth services turn key _ asker) (storing_eq turn key) _

theorem mirrors_reset (handler : Option String) :
    Mirrors Scope.erase ((auth.recorded asker).reset (services.recorded turn) turn handler)
      (auth.reset services turn handler) :=
  mirrors_of_agrees fun key =>
    Parallel.agrees_reset (.erase auth services turn key _ asker) (storing_eq turn key) _

theorem mirrors_handleCompletion :
    Mirrors Scope.erase ((auth.recorded asker).handleCompletion (services.recorded turn) turn)
      (auth.handleCompletion services turn) :=
  mirrors_of_agrees fun key =>
    Parallel.agrees_handleCompletion (.erase auth services turn key _ asker)

end Authenticator

/-! ## Applications and runs -/

open TurnAction Authenticator

theorem mirrors_perform (auth : Authenticator σ) (services : Services σ) (turn : Turn)
    (conduct : Conduct σ) :
    Mirrors Scope.erase
      (conduct.recorded.perform (auth.recorded .application) (services.recorded turn) turn)
      (conduct.perform auth services turn) :=
  mirrors_of_agrees fun key =>
    Parallel.agrees_perform (.erase auth services turn key _ .application) (storing_eq turn key)
      conduct.alike_erase

namespace Site

variable (site : Site σ)

theorem mirrors_route (turn : Turn) :
    Mirrors Scope.erase (site.recorded.gateway.route (site.services.recorded turn) turn)
      (site.deployment.gateway.route site.services turn) := by
  refine mirrors_of_agrees fun key => ?_
  have parallel (asker : Asker) := Parallel.erase site.auth site.services turn key
    (fun _ => True) asker
  have storing := storing_eq turn key
  have admitted : Agrees (erasing σ key).Scopes (noteAdmitted turn) (pure ()) :=
    fun _ _ kept => .ok () { kept with worlds := { kept.worlds with host := kept.worlds.host } }
  have application : Agrees (erasing σ key).Scopes
      (site.recorded.gateway.application turn) (site.deployment.gateway.application turn) :=
    admitted.bind fun _ =>
      (parallel .application).agrees_perform storing (site.conduct turn).alike_erase
  exact Parallel.agrees_route (parallel .gate) storing rfl application

theorem mirrors_process (turn : Turn) (cancelled : Bool) :
    Mirrors World.erase (site.recorded.process turn cancelled)
      (site.deployment.process turn cancelled) :=
  (mirrors_load site.services turn turn.activity).bind fun state =>
    mirrors_run (mirrors_route site turn) state cancelled

theorem erase_dispatch {process : TurnProcessor (Recorded σ)} {plain : TurnProcessor σ}
    (mirrors : ∀ turn, Mirrors World.erase (process turn) (plain turn)) (services : Services σ)
    (activity : Activity) (world : World (Recorded σ)) :
    (Replay.dispatch (services.recorded ⟨activity, true⟩) process activity world).erase =
      Replay.dispatch services plain activity world.erase := by
  have ended : plain ⟨activity, true⟩
      { world.erase with host := services.openSender activity world.erase.host } =
        seenAs World.erase (process ⟨activity, true⟩
          { world with
              host := (services.recorded ⟨activity, true⟩).openSender activity world.host }) :=
    mirrors ⟨activity, true⟩
      { world with host := (services.recorded ⟨activity, true⟩).openSender activity world.host }
  simp only [Replay.dispatch]
  rw [ended]
  cases process ⟨activity, true⟩ { world with
    host := (services.recorded ⟨activity, true⟩).openSender activity world.host } <;> rfl

/-- What happens to a site happens to it with and without the record. -/
theorem erase_advance (world : World (Recorded σ)) (input : Input) :
    (site.recorded.advance world input).erase = site.deployment.advance world.erase input := by
  cases input with
  | arrival activity cancelled =>
      simp only [Deployment.advance]
      rw [mirrors_process site ⟨activity, false⟩ cancelled world]
      cases site.recorded.process ⟨activity, false⟩ cancelled world <;> rfl
  | delivery =>
      have queue_eq : world.erase.queue = world.queue := rfl
      cases waiting : world.queue.waiting with
      | nil => simp only [Deployment.advance, queue_eq, waiting]
      | cons activity rest =>
          simp only [Deployment.advance, queue_eq, waiting, Replay.step, ReplayQueue.take?,
            Option.map_some, Option.getD_some]
          exact erase_dispatch (fun turn => mirrors_process site turn false)
            site.services activity _

/-- A run of a site, without the record, is the run of the site that is not recorded. -/
theorem erase_run (world : World (Recorded σ)) (inputs : List Input) :
    (site.recorded.run world inputs).erase = site.deployment.run world.erase inputs := by
  induction inputs generalizing world with
  | nil => rfl
  | cons input rest ih =>
      simp only [Deployment.run, List.foldl_cons] at ih ⊢
      rw [ih, erase_advance]

end Site
end SignInFlow
