import SignInFlow.Proofs.Preservation

/-!
# Whole turns

A turn reads the user's document first.  Then it is dropped, or it reports what the queue has
brought back, or it takes steps.  What a run keeps is proved of such turns, and of taking an
activity off the queue.
-/

namespace SignInFlow

variable {σ : Type}

/-! ## Actions add to the record -/

/-- An action only adds to the record. -/
def Grows {α : Type} (action : TurnAction (Recorded σ) α) : Prop :=
  ∀ scope, Ends action scope (fun _ after => scope.view.log <:+ after.view.log)
    (fun _ after => scope.view.log <:+ after.view.log)

section

variable {α β : Type} {turn : Turn}

theorem Grows.bind {action : TurnAction (Recorded σ) α} {next : α → TurnAction (Recorded σ) β}
    (grows : Grows action) (continues : ∀ value, Grows (next value)) : Grows (action >>= next) := by
  intro scope
  rw [ends_bind]
  refine (grows scope).mono ?_ fun _ _ => id
  intro value middle grown
  exact (continues value middle).mono (fun _ _ => grown.trans) (fun _ _ => grown.trans)

theorem Grows.preserves {action : TurnAction (Recorded σ) α} (grows : Grows action)
    (base : List Event) : Preserves (fun view => base <:+ view.log) action :=
  fun scope held => (grows scope).mono (fun _ _ => held.trans) (fun _ _ => held.trans)

theorem grows_of_preserves {action : TurnAction (Recorded σ) α}
    (preserves : ∀ base, Preserves (fun view => base <:+ view.log) action) : Grows action :=
  fun scope => preserves scope.view.log scope List.suffix_rfl

/-- That a record begins with what it was tolerates everything. -/
theorem tolerant_suffix (turn : Turn) (base : List Event) :
    Tolerant turn fun view => base <:+ view.log where
  elsewhere _ _ _ held := held
  see _ event _ _ _ held := held.trans (List.suffix_cons event _)

theorem grows_of_moves {auth : Authenticator σ} {action : TurnAction (Recorded σ) α}
    (moves : auth.Moves turn action) : Grows action := by
  intro scope
  exact (moves scope).mono (fun _ _ reaches => (View.adds_of_reaches turn reaches).suffix)
    (fun _ _ reaches => (View.adds_of_reaches turn reaches).suffix)

theorem grows_pure (value : α) : Grows (pure value : TurnAction (Recorded σ) α) :=
  fun _ => List.suffix_rfl

theorem grows_count (metric : Metric) :
    Grows (TurnAction.count metric : TurnAction (Recorded σ) Unit) := fun _ => List.suffix_rfl

variable (auth : Authenticator σ) (services : Services σ) (turn)

theorem grows_persist (flow : Flow) :
    Grows (TurnAction.persist (services.recorded turn) flow) := by
  intro scope
  refine (TurnAction.ends_persist services turn flow).mono ?_ ?_
  · intro _ after kept
    rw [kept]
    have saved : Adds turn (scope.view.hold flow).log ((scope.view.hold flow).saved turn).log :=
      View.adds_saved turn
    exact saved.suffix
  · rintro _ after ⟨access, -, -, held⟩
    rw [held]
    exact List.suffix_cons _ _

end

/-- What one turn leaves to the next. -/
structure Standing where
  /-- The stored documents. -/
  documents : Dictionary Json
  /-- The activities that wait to be replayed. -/
  waiting : List Activity
  /-- Whether the queue still accepts activities. -/
  receiving : Bool
  /-- What the host has seen, the latest first. -/
  log : List Event

namespace Standing

/-- The host notices something. -/
def see (event : Event) (standing : Standing) : Standing :=
  { standing with log := event :: standing.log }

end Standing

/-- What a view leaves to the next turn. -/
def View.standing (view : View) : Standing :=
  ⟨view.documents, view.queue.waiting, view.queue.receiving, view.log⟩

/-- What a world leaves to the next turn. -/
def World.standing (world : World (Recorded σ)) : Standing :=
  ⟨world.documents, world.queue.waiting, world.queue.receiving, world.host.log⟩

/-- A turn has loaded the state of its user. -/
structure View.Loads (turn : Turn) (before : Standing) (view : View) : Prop where
  keyed : turn.activity.userKey = .ok view.state.key
  stored : UserState.propertiesOf view.state.key (List.lookup view.state.key before.documents) =
    .ok view.state.properties
  clean : view.state.dirty = false
  standing : view.standing = before.see (.accessed turn (.read [view.state.key]))

/-- What a turn can make of what the turns before it left. -/
inductive Site.Turned (site : Site σ) (turn : Turn) (before : Standing) : Standing → Prop where
  /-- The user's document was not read. -/
  | unread : Turned site turn before before
  /-- The user's document may not be read. -/
  | refused (access : Access) : Turned site turn before (before.see (.refused turn access))
  /-- The user's document was read, and nothing came of it. -/
  | dropped (key : String) (keyed : turn.activity.userKey = .ok key) :
      Turned site turn before (before.see (.accessed turn (.read [key])))
  /-- A completion event took the completion route. -/
  | reported {view after : View} (loads : view.Loads turn before)
      (completion : site.auth.isCompletionEvent turn.activity = true)
      (completes : site.auth.Completes turn view after) :
      Turned site turn before after.standing
  /-- Anything else took steps. -/
  | conducted {view after : View} (loads : view.Loads turn before)
      (ordinary : site.auth.isCompletionEvent turn.activity = false)
      (reaches : site.auth.Reaches turn view after) :
      Turned site turn before after.standing

theorem ends_load (services : Services σ) (turn : Turn) {world : World (Recorded σ)} :
    Ends (UserState.load (services.recorded turn) turn.activity) world
      (fun state after => (after.view state).Loads turn world.standing)
      (fun _ after => after.standing = world.standing ∨
        (∃ access, after.standing = world.standing.see (.refused turn access)) ∨
        ∃ key, turn.activity.userKey = .ok key ∧
          after.standing = world.standing.see (.accessed turn (.read [key]))) := by
  simp only [UserState.load, Storage.read, ends_bind, ends_ofExcept, ends_get, ends_pure,
    Action.ends_changeHost]
  refine ⟨fun key keyed => ?_, fun _ _ => .inl trivial⟩
  refine (TurnAction.ends_permit services turn (.read [key])).mono ?_ ?_
  · rintro _ _ ⟨host, rfl⟩
    refine ⟨fun properties held => ?_, fun _ _ => .inr (.inr ⟨key, keyed, rfl⟩)⟩
    rw [lookup_select] at held
    exact ⟨keyed, held, rfl, rfl⟩
  · rintro _ _ ⟨-, host, rfl⟩
    exact .inr (.inl ⟨_, rfl⟩)

theorem ends_run {α : Type} (action : TurnAction σ α) (state : UserState) (cancelled : Bool)
    {world : World σ} {done : α → World σ → Prop} {failed : Error → World σ → Prop} :
    Ends (action.run state cancelled) world done failed ↔
      Ends action ⟨world, state, cancelled⟩ (fun value scope => done value scope.world)
        (fun error scope => failed error scope.world) := by
  unfold Ends TurnAction.run
  cases action ⟨world, state, cancelled⟩ <;> rfl

namespace Site

open Authenticator

variable (site : Site σ)

/-- The completion route leaves the user's state as it was loaded. -/
theorem clean_of_completes {turn : Turn} {view after : View}
    (completes : site.auth.Completes turn view after) (clean : view.state.dirty = false) :
    after.state.dirty = false := by
  cases completes with
  | nothing => exact clean
  | reported => exact clean

/-- A completion event takes the completion route, if the queue has delivered it. -/
theorem ends_route_of_completion {turn : Turn} {scope : Scope (Recorded σ)}
    (completion : site.auth.isCompletionEvent turn.activity = true)
    (clean : scope.state.dirty = false) :
    Ends (site.recorded.gateway.route (site.services.recorded turn) turn) scope
      (fun _ after => site.auth.Completes turn scope.view after.view)
      (fun _ after => site.auth.Completes turn scope.view after.view) := by
  unfold Gateway.route
  change Ends (if site.auth.isCompletionEvent turn.activity = true then _ else _) _ _ _
  rw [if_pos completion]
  cases turn.redelivered with
  | false => exact .nothing
  | true =>
      simp only [if_true, ends_bind]
      refine (ends_handleCompletion site.auth site.services turn).mono ?_ fun _ _ => id
      intro _ middle completes
      have still : middle.state.dirty = false := clean_of_completes site completes clean
      refine (TurnAction.ends_save site.services turn).mono ?_ ?_
      · intro _ after saved
        rw [saved, View.saved_of_clean _ turn still]
        exact completes
      · rintro _ after ⟨dirty, -⟩
        rw [still] at dirty
        cases dirty

/-- Anything else comes down to steps. -/
theorem ends_route_of_ordinary {turn : Turn} {scope : Scope (Recorded σ)}
    (ordinary : site.auth.isCompletionEvent turn.activity = false) :
    Ends (site.recorded.gateway.route (site.services.recorded turn) turn) scope
      (fun _ after => site.auth.Reaches turn scope.view after.view)
      (fun _ after => site.auth.Reaches turn scope.view after.view) := by
  unfold Gateway.route
  change Ends (if site.auth.isCompletionEvent turn.activity = true then _ else _) _ _ _
  rw [if_neg (ne_true_of_eq_false ordinary), ends_bind]
  refine (ends_startOrContinue site.auth site.services turn site.handler).mono ?_ fun _ _ => id
  intro passes middle first
  cases passes with
  | true =>
      have rest := (moves_perform site.auth site.services turn (site.conduct turn)).bind
        fun _ => moves_save site.auth site.services turn
      simp only [if_true, ends_bind, recorded, TurnAction.ends_noteAdmitted]
      rw [← ends_bind]
      exact (rest _).mono (fun _ _ => first.trans) (fun _ _ => first.trans)
  | false =>
      exact (moves_save site.auth site.services turn middle).mono (fun _ _ => first.trans)
        (fun _ _ => first.trans)

theorem ends_route (turn : Turn) {scope : Scope (Recorded σ)} {before : Standing}
    (loads : scope.view.Loads turn before) :
    Ends (site.recorded.gateway.route (site.services.recorded turn) turn) scope
      (fun _ after => site.Turned turn before after.view.standing)
      (fun _ after => site.Turned turn before after.view.standing) := by
  cases completion : site.auth.isCompletionEvent turn.activity with
  | true =>
      exact (ends_route_of_completion site completion loads.clean).mono
        (fun _ _ => .reported loads completion) (fun _ _ => .reported loads completion)
  | false =>
      exact (ends_route_of_ordinary site completion).mono
        (fun _ _ => .conducted loads completion) (fun _ _ => .conducted loads completion)

/-- What a turn makes of a world is one of the things that turns make. -/
theorem turned_process (turn : Turn) (cancelled : Bool) (world : World (Recorded σ)) :
    site.Turned turn world.standing
      (remains (site.recorded.process turn cancelled world)).standing := by
  have ends : Ends (site.recorded.process turn cancelled) world
      (fun _ after => site.Turned turn world.standing after.standing)
      (fun _ after => site.Turned turn world.standing after.standing) := by
    simp only [Deployment.process, Gateway.process, ends_bind]
    refine (ends_load site.services turn).mono ?_ ?_
    · intro state loaded loads
      rw [ends_run]
      exact ends_route site turn loads
    · rintro _ after (same | ⟨access, same⟩ | ⟨key, keyed, same⟩)
      · rw [same]
        exact .unread
      · rw [same]
        exact .refused access
      · rw [same]
        exact .dropped key keyed
  exact ends.left

/-- Counting how a replayed turn has ended changes nothing that is left. -/
theorem standing_dispatch (services : Services (Recorded σ)) (process : TurnProcessor (Recorded σ))
    (activity : Activity) (world : World (Recorded σ)) :
    (Replay.dispatch services process activity world).standing =
      (remains (process ⟨activity, true⟩
        { world with host := services.openSender activity world.host })).standing := by
  simp only [Replay.dispatch]
  cases process ⟨activity, true⟩
    { world with host := services.openSender activity world.host } <;> rfl

/-- A turn finds what was left, less its activity if that was waiting in front. -/
def Finds (turn : Turn) (left found : Standing) : Prop :=
  found.documents = left.documents ∧ found.receiving = left.receiving ∧ found.log = left.log ∧
    if turn.redelivered then left.waiting = turn.activity :: found.waiting
    else found.waiting = left.waiting

/-- Whatever happens to a site leaves everything as it is, or is a turn. -/
theorem advance_cases (world : World (Recorded σ)) (input : Input) :
    (site.recorded.advance world input).standing = world.standing ∨
      ∃ turn found, Finds turn world.standing found ∧
        site.Turned turn found (site.recorded.advance world input).standing := by
  cases input with
  | arrival activity cancelled =>
      exact .inr ⟨⟨activity, false⟩, world.standing, ⟨rfl, rfl, rfl, rfl⟩,
        turned_process site _ cancelled world⟩
  | delivery =>
      cases waiting : world.queue.waiting with
      | nil =>
          left
          simp only [Deployment.advance, waiting]
      | cons activity rest =>
          right
          let start : World (Recorded σ) :=
            { world with
              queue := { world.queue with waiting := rest }
              host := (site.services.recorded ⟨activity, true⟩).openSender activity world.host }
          have same : (site.recorded.advance world .delivery).standing =
              (remains (site.recorded.process ⟨activity, true⟩ false start)).standing := by
            simp only [Deployment.advance, waiting, Replay.step, ReplayQueue.take?, Option.map_some,
              Option.getD_some]
            exact standing_dispatch _ _ _ _
          refine ⟨⟨activity, true⟩, start.standing, ⟨rfl, rfl, rfl, ?_⟩, ?_⟩
          · exact waiting
          · rw [same]
            exact turned_process site _ false start

/-- What every turn keeps is kept by every run. -/
theorem run_induction {Holds : Standing → Prop}
    (turn : ∀ turn left found after, Holds left → Finds turn left found →
      site.Turned turn found after → Holds after)
    {world : World (Recorded σ)} (start : Holds world.standing) (inputs : List Input) :
    Holds (site.recorded.run world inputs).standing := by
  induction inputs generalizing world with
  | nil => exact start
  | cons input rest ih =>
      apply ih
      rcases advance_cases site world input with same | ⟨next, found, finds, turned⟩
      · rw [same]
        exact start
      · exact turn next world.standing found _ start finds turned

end Site
end SignInFlow
