import SignInFlow.Proofs.Parallel
import SignInFlow.Proofs.Returns
import SignInFlow.Proofs.WriteBack

/-!
# Turns that a handler leaves pending

A flow in progress waits for its handler.  However many turns of its user go by meanwhile, at the
gate alone or through the whole gateway, nothing is written, queued, kept or reported, and no turn
reaches the application.  What is left is the world as it was, with what the host itself has made of
being asked.
-/

namespace SignInFlow

variable {σ : Type}

namespace Authenticator.Hears

variable {auth : Authenticator σ} {services : Services σ} {turn : Turn} {requested : Option String}
  {world : World σ} {scope : Scope σ} {handler : String} {banked : Option Banked}
  {answer : Response}
  (hears : auth.Hears services turn requested world scope (.active handler banked) handler answer)

include hears

/-- The handler of a flow in progress is asked at once. -/
theorem answers : ∃ visit,
    auth.dispatcher.signIn turn ⟨handler, false, (Flow.active handler banked).exchange⟩
      ⟨scope.world.host, scope.cancelled⟩ = .ok answer visit := by
  obtain ⟨asked, passes, answered⟩ := hears.asks
  cases passes
  exact eq_ok_of_told answered

/-- A flow in progress that its handler leaves pending: the gate asks the handler, and nothing
else. -/
theorem startOrContinue_of_pending (pending : answer.status = .pending) {visit : Visit σ}
    (called : auth.dispatcher.signIn turn
      ⟨handler, false, (Flow.active handler banked).exchange⟩
        ⟨scope.world.host, scope.cancelled⟩ = .ok answer visit) :
    auth.startOrContinue services turn requested scope = .ok false
      ⟨{ scope.world with host := visit.host }, scope.state, visit.cancelled⟩ := by
  have timely := hears.timely
  rw [timely] at called
  have invoked : auth.invoke turn ⟨handler, false, (Flow.active handler banked).exchange⟩ scope =
      .ok answer ⟨{ scope.world with host := visit.host }, scope.state, visit.cancelled⟩ := by
    simp [invoke, TurnAction.ofHost, called, pending, timely, bind, EStateM.bind, pure,
      EStateM.pure]
  refine Ends.eq_ok ?_
  simp only [startOrContinue, ends_bind, TurnAction.ends_ensureNotCancelled, timely,
    TurnAction.ends_flow, hears.reads, Bool.false_eq_true, if_false, Except.ok.injEq, forall_eq',
    reduceCtorEq, false_implies, implies_true, and_true, passes, Flow.isActive, if_true, ends_pure,
    handlerFor, ends_ofExcept]
  unfold Ends
  rw [Bool.not_true, invoked]
  simp only [pending]
  exact ⟨rfl, rfl⟩

end Authenticator.Hears

/-- A turn goes through the gate alone, at the request of the host, or through the whole gateway. -/
structure Round where
  /-- The turn. -/
  turn : Turn
  /-- The handler to ask for, in place of the default. -/
  requested : Option String
  /-- Whether the turn is cancelled from the start. -/
  cancelled : Bool
  /-- Whether it goes through the whole gateway. -/
  whole : Bool

/-- What a round comes to that a handler leaves pending: the gate answers that the turn does not go
on, if it was the host that has asked. -/
def Round.unanswered (round : Round) : Option Bool :=
  if round.whole then none else some false

/-- Runs a turn through the gate alone, from loading the user's state to the answer. -/
def Gateway.ask (gateway : Gateway σ) (services : Services σ) (turn : Turn) (cancelled : Bool) :
    Action σ Bool := do
  let state ← UserState.load services turn.activity
  (gateway.auth.startOrContinue services turn gateway.handler).run state cancelled

namespace Deployment

/-- Runs a round; the answer is that of the gate, if it was the host that has asked. -/
def perform (deployment : Deployment σ) (round : Round) : Action σ (Option Bool) :=
  let gateway := { deployment.gateway with handler := round.requested }
  let services := deployment.services round.turn
  if round.whole then do
    gateway.process services round.turn round.cancelled
    pure none
  else do
    let passes ← gateway.ask services round.turn round.cancelled
    pure (some passes)

/-- The world after some rounds. -/
def after (deployment : Deployment σ) (world : World σ) (rounds : List Round) : World σ :=
  rounds.foldl (fun world round => remains (deployment.perform round world)) world

/-- A round in which the gate asks a handler, who leaves it pending. -/
structure Pends (deployment : Deployment σ) (round : Round) (world : World σ) (scope : Scope σ)
    (flow : Flow) (handler : String) (answer : Response) : Prop where
  hears : deployment.gateway.auth.Hears (deployment.services round.turn) round.turn round.requested
    world scope flow handler answer
  begun : scope.cancelled = round.cancelled
  ordinary : round.whole = true →
    deployment.gateway.auth.isCompletionEvent round.turn.activity = false
  pending : answer.status = .pending

namespace Pends

variable {deployment : Deployment σ} {round : Round} {world : World σ} {scope : Scope σ}
  {handler : String} {banked : Option Banked} {answer : Response}

/-- The gateway goes no further than the gate, and has nothing to write back. -/
theorem route (pends : deployment.Pends round world scope (.active handler banked) handler answer)
    (whole : round.whole = true) {visit : Visit σ}
    (called : deployment.gateway.auth.dispatcher.signIn round.turn
      ⟨handler, false, (Flow.active handler banked).exchange⟩
        ⟨scope.world.host, scope.cancelled⟩ = .ok answer visit) :
    Gateway.route { deployment.gateway with handler := round.requested }
        (deployment.services round.turn) round.turn scope =
      .ok () ⟨{ scope.world with host := visit.host }, scope.state, visit.cancelled⟩ := by
  have asks := pends.hears.startOrContinue_of_pending pends.pending called
  have clean : scope.state.dirty = false := by
    obtain ⟨fresh, -⟩ := (UserState.ends_load_keyed _ pends.hears.keyed world).of_ok
      pends.hears.loads
    rw [fresh]
  unfold Gateway.route
  simp only [pends.ordinary whole, Bool.false_eq_true, if_false, bind, EStateM.bind, asks]
  exact TurnAction.save_of_clean _ clean

/-- A round that is left pending comes to the world as it was, but for its host. -/
theorem perform (pends : deployment.Pends round world scope (.active handler banked) handler answer)
    {visit : Visit σ}
    (called : deployment.gateway.auth.dispatcher.signIn round.turn
      ⟨handler, false, (Flow.active handler banked).exchange⟩
        ⟨scope.world.host, scope.cancelled⟩ = .ok answer visit) :
    deployment.perform round world = .ok round.unanswered { world with host := visit.host } := by
  obtain ⟨-, -, host, -, unchanged⟩ :=
    (UserState.ends_load_keyed _ pends.hears.keyed world).of_ok pends.hears.loads
  have start : (⟨scope.world, scope.state, round.cancelled⟩ : Scope σ) = scope := by
    rw [← pends.begun]
  have same : { scope.world with host := visit.host } = { world with host := visit.host } := by
    rw [unchanged]
  unfold Deployment.perform Round.unanswered
  cases whole : round.whole with
  | true =>
      simp only [if_true, Gateway.process, bind, EStateM.bind, pends.hears.loads, TurnAction.run,
        start, pends.route whole called, same]
      rfl
  | false =>
      have asks := pends.hears.startOrContinue_of_pending pends.pending called
      simp only [Bool.false_eq_true, if_false, Gateway.ask, bind, EStateM.bind, pends.hears.loads,
        TurnAction.run, start, asks, same]
      rfl

end Pends

end Deployment

/-! ## What the host sees of it -/

/-- A world whose host remembers something. -/
def World.remembering (world : World σ) (log : List Event) : World (Recorded σ) where
  documents := world.documents
  tokens := world.tokens
  metrics := world.metrics
  queue := world.queue
  host := ⟨world.host, log⟩

theorem HostCall.noticed_of_ok {α : Type} {call : HostCall σ α} {event : Except Error α → Event}
    {host : σ} {log : List Event} {cancelled : Bool} {value : α} {visit : Visit σ}
    (called : call ⟨host, cancelled⟩ = .ok value visit) :
    call.noticed event ⟨⟨host, log⟩, cancelled⟩ =
      .ok value ⟨⟨visit.host, event (.ok value) :: log⟩, visit.cancelled⟩ := by
  simp only [noticed, called]

/-- A turn that hears a handler does so before a recorded host as well, which remembers that the
user's document was read. -/
theorem Authenticator.Hears.recorded {auth : Authenticator σ} {services : Services σ} {turn : Turn}
    {requested : Option String} {world : World σ} {scope : Scope σ} {handler : String}
    {banked : Option Banked} {answer : Response}
    (hears : auth.Hears services turn requested world scope (.active handler banked) handler
      answer) :
    (auth.recorded .gate).Hears (services.recorded turn) turn requested world.blank
      ⟨scope.world.remembering [.accessed turn (.read [scope.state.key])], scope.state,
        scope.cancelled⟩ (.active handler banked) handler answer where
  loads := by
    obtain ⟨fresh, held, host, permitted, unchanged⟩ :=
      (UserState.ends_load_keyed services hears.keyed world).of_ok hears.loads
    have permits : (services.recorded turn).permit (.read [scope.state.key]) world.blank.host =
        .ok () ⟨host, []⟩ := by
      simp [Services.recorded, World.blank, permitted]
    have same : UserState.propertiesOf scope.state.key
        (List.lookup scope.state.key world.blank.documents) = .ok scope.state.properties := held
    rw [UserState.load_eq _ hears.keyed, permits, same, unchanged]
    exact congrArg (EStateM.Result.ok · _) fresh.symm
  timely := hears.timely
  reads := hears.reads
  chosen := by
    rw [Authenticator.handlerFor_recorded]
    exact hears.chosen
  asks := by
    obtain ⟨visit, called⟩ := hears.answers
    exact ⟨_, rfl, congrArg told (HostCall.noticed_of_ok called)⟩

namespace Site

variable {site : Site σ} {round : Round} {world : World σ} {scope : Scope σ} {handler : String}
  {banked : Option Banked} {answer : Response}

/-- A round that is left pending comes to the same before a recorded host, which remembers the
reading of the user's document and the answer of the handler, and nothing else. -/
theorem perform_of_pends
    (pends : site.deployment.Pends round world scope (.active handler banked) handler answer) :
    ∃ host, site.deployment.perform round world =
        .ok round.unanswered { world with host := host } ∧
      site.recorded.perform round world.blank = .ok round.unanswered
        ({ world with host := host }.remembering
          [.answered .gate round.turn ⟨handler, false, (Flow.active handler banked).exchange⟩
              (.ok answer),
            .accessed round.turn (.read [scope.state.key])]) := by
  obtain ⟨visit, called⟩ := pends.hears.answers
  have recorded : site.recorded.Pends round world.blank _ (.active handler banked) handler answer :=
    ⟨pends.hears.recorded, pends.begun, pends.ordinary, pends.pending⟩
  exact ⟨visit.host, pends.perform called, recorded.perform (HostCall.noticed_of_ok called)⟩

/-- A handler is asked in a round, and leaves it pending. -/
def LeftPending (site : Site σ) (round : Round) (world : World σ) : Prop :=
  ∃ scope flow handler answer, site.deployment.Pends round world scope flow handler answer

/-- It is the handler of the flow that is stored. -/
theorem LeftPending.pends {key : String} (left : site.LeftPending round world)
    (own : round.turn.activity.userKey = .ok key)
    (stored : Flow.stored world.documents key = .ok (.active handler banked)) :
    ∃ scope answer, scope.state.key = key ∧
      site.deployment.Pends round world scope (.active handler banked) handler answer := by
  obtain ⟨scope, flow, asked, answer, pends⟩ := left
  have same : scope.state.key = key := Except.ok.inj (pends.hears.keyed.symm.trans own)
  have held := pends.hears.stored
  rw [same, stored] at held
  cases held
  cases pends.hears.chosen
  exact ⟨scope, answer, same, pends⟩

/-- Rounds that are left pending leave the world as it was, but for its host. -/
theorem after_of_leftPending {key : String} {rounds : List Round}
    (stored : Flow.stored world.documents key = .ok (.active handler banked))
    (own : ∀ round ∈ rounds, round.turn.activity.userKey = .ok key)
    (left : ∀ earlier round later, rounds = earlier ++ round :: later →
      site.LeftPending round (site.deployment.after world earlier)) :
    ∃ host, site.deployment.after world rounds = { world with host := host } := by
  induction rounds generalizing world with
  | nil => exact ⟨world.host, rfl⟩
  | cons round rest ih =>
      have first : site.LeftPending round world := left [] round rest rfl
      obtain ⟨scope, answer, -, pends⟩ := first.pends (own round List.mem_cons_self) stored
      obtain ⟨host, performed, -⟩ := perform_of_pends pends
      have next : remains (site.deployment.perform round world) = { world with host := host } := by
        rw [performed]
        rfl
      have others (earlier : List Round) (later : Round) (last : List Round)
          (split : rest = earlier ++ later :: last) :
          site.LeftPending later (site.deployment.after { world with host := host } earlier) := by
        have held := left (round :: earlier) later last (congrArg (round :: ·) split)
        rwa [Deployment.after, List.foldl_cons, next] at held
      obtain ⟨final, same⟩ := @ih { world with host := host } stored
        (fun later member => own later (List.mem_cons_of_mem _ member)) others
      refine ⟨final, ?_⟩
      rw [Deployment.after, List.foldl_cons, next]
      exact same

end Site

/-- Stores that are the same are seen alike, and stay the same. -/
theorem storing_same (turn : Turn) (key : String) :
    Storing turn key (fun _ => True) (fun stock other => stock = other) where
  own := trivial
  address _ _ _ _ _ := trivial
  document := by
    rintro stock _ rfl
    rfl
  within _ _ _ _ _ _ _ := trivial
  token := by
    rintro stock _ rfl handler
    rfl
  receiving := by
    rintro stock _ rfl
    rfl
  write := by
    rintro stock _ state rfl - -
    rfl
  keep := by
    rintro stock _ handler token rfl
    rfl
  drop := by
    rintro stock _ handler rfl
    rfl
  enqueue := by
    rintro stock _ activity queue _ rfl - accepted other
    cases accepted.symm.trans other
    rfl
  count := by
    rintro stock _ metric rfl
    rfl

/-- Two sides with the same store, before hosts that are alike. -/
abbrev Sides.twin (key : String) (alike : σ → σ → Prop) : Sides σ σ :=
  ⟨key, fun _ => True, alike, fun stock other => stock = other⟩

namespace Site

/-- A round comes to the same before hosts that are alike. -/
theorem agrees_perform (site : Site σ) {alike : σ → σ → Prop} {key : String} {round : Round}
    (keyed : round.turn.activity.userKey = .ok key)
    (parallel : Parallel round.turn key (fun _ => True) alike site.auth site.auth site.services
      site.services)
    (conduct : (site.conduct round.turn).Alike alike (site.conduct round.turn)) :
    Agrees (Sides.twin key alike).Worlds (site.deployment.perform round)
      (site.deployment.perform round) := by
  have same := storing_same round.turn key
  let gateway : Gateway σ := { site.deployment.gateway with handler := round.requested }
  unfold Deployment.perform
  cases round.whole with
  | true =>
      have application : Agrees (Sides.twin key alike).Scopes (gateway.application round.turn)
          (gateway.application round.turn) := parallel.agrees_perform same conduct
      have processed : Agrees (Sides.twin key alike).Worlds
          (gateway.process site.services round.turn round.cancelled)
          (gateway.process site.services round.turn round.cancelled) :=
        parallel.agrees_process same rfl application keyed round.cancelled
      exact processed.bind fun _ => agrees_pure none
  | false =>
      have asked : Agrees (Sides.twin key alike).Worlds
          (gateway.ask site.services round.turn round.cancelled)
          (gateway.ask site.services round.turn round.cancelled) :=
        parallel.agrees_turn same (parallel.agrees_startOrContinue same round.requested) keyed
          round.cancelled
      exact asked.bind fun passes => agrees_pure (some passes)

/-- However often the handler of a flow leaves turns of its user pending, it is as if they had not
been.  Each comes to nothing: the gate does not let it on, it reads the user's document and asks the
handler, and nothing else.  In the end the world is what it was, with what the host has made of
being asked, and whatever round comes next, if the host is alike for that, comes to the same as at
once and leaves the same. -/
theorem pending_rounds_change_nothing (site : Site σ) {world : World σ} {key handler : String}
    {banked : Option Banked} {rounds : List Round}
    (stored : Flow.stored world.documents key = .ok (.active handler banked))
    (own : ∀ round ∈ rounds, round.turn.activity.userKey = .ok key)
    (left : ∀ earlier round later, rounds = earlier ++ round :: later →
      site.LeftPending round (site.deployment.after world earlier)) :
    (∀ earlier round later, rounds = earlier ++ round :: later →
      ∃ host answer, answer.status = .pending ∧
        site.deployment.perform round (site.deployment.after world earlier) =
          .ok round.unanswered { world with host := host } ∧
        site.recorded.perform round (site.deployment.after world earlier).blank =
          .ok round.unanswered ({ world with host := host }.remembering
            [.answered .gate round.turn ⟨handler, false, (Flow.active handler banked).exchange⟩
                (.ok answer),
              .accessed round.turn (.read [key])])) ∧
      ∃ host, site.deployment.after world rounds = { world with host := host } ∧
        ∀ (next : Round) (user : String) (alike : σ → σ → Prop),
          next.turn.activity.userKey = .ok user →
          Parallel next.turn user (fun _ => True) alike site.auth site.auth site.services
            site.services →
          (site.conduct next.turn).Alike alike (site.conduct next.turn) →
          alike host world.host →
          ResultsAgree (Sides.twin user alike).Worlds
            (site.deployment.perform next (site.deployment.after world rounds))
            (site.deployment.perform next world) := by
  refine ⟨fun earlier round later split => ?_, ?_⟩
  · have member : round ∈ rounds := by rw [split]; exact List.mem_append_cons_self
    have before : ∃ host, site.deployment.after world earlier = { world with host := host } :=
      after_of_leftPending stored
        (fun other among => own other (by rw [split]; exact List.mem_append_left _ among))
        (fun first other last parts => left first other (last ++ round :: later)
          (by rw [split, parts, List.append_assoc, List.cons_append]))
    obtain ⟨host, same⟩ := before
    have held : Flow.stored (site.deployment.after world earlier).documents key =
        .ok (.active handler banked) := by rwa [same]
    obtain ⟨scope, answer, keyed, pends⟩ :=
      (left earlier round later split).pends (own round member) held
    obtain ⟨later, performed, recorded⟩ := perform_of_pends pends
    rw [same] at performed recorded
    rw [same, ← keyed]
    exact ⟨later, answer, pends.pending, performed, recorded⟩
  · obtain ⟨host, same⟩ := after_of_leftPending stored own left
    refine ⟨host, same, fun next user alike keyed parallel conduct hosts => ?_⟩
    rw [same]
    exact site.agrees_perform keyed parallel conduct _ _ ⟨hosts, rfl⟩

/-- A site that starts flows by itself; its handler waits for the code, and the host counts how
often it was asked. -/
def coded : Site Nat :=
  { sample with
    auth :=
      { sample.auth with
        dispatcher :=
          { sample.auth.dispatcher with
            signIn := fun turn _ visit =>
              .ok (if turn.activity.text = some "42" then .complete "token" else .pending)
                { visit with host := visit.host + 1 } }
        policy := .always } }

/-- The user says something in a turn at the gate alone, or through the whole gateway. -/
def saying (text : String) (requested : Option String) (whole : Bool) : Round :=
  ⟨⟨.message "chat" "ada" "room" text, false⟩, requested, false, whole⟩

/-- A world in which the user has asked for something and waits. -/
def codedWorld : World Nat := coded.deployment.after (.initial 0) [saying "open the door" none true]

/-- The user says something else twice, the second time with another handler in mind. -/
def chatter : List Round := [saying "hello?" none false, saying "anyone?" (some "card") true]

/-- The handler does not care how often it was asked. -/
theorem parallel_coded (turn : Turn) (key : String) :
    Parallel turn key (fun _ => True) (fun _ _ : Nat => True) coded.auth coded.auth coded.services
      coded.services where
  settings := rfl
  defaultHandler := rfl
  names := rfl
  contains := rfl
  policy := fun _ _ kept => .ok true kept
  signIn := fun _ _ _ kept => .ok _ ⟨trivial, kept.cancelled⟩
  signOut := fun _ => agrees_pure ()
  reset := fun _ => agrees_pure ()
  onSuccess := .some fun _ => agrees_pure ()
  onFailure := .none
  permit := fun _ _ => agrees_pure ()
  note := fun _ _ _ _ => id
  send := fun _ _ => agrees_pure ()
  clock := fun _ _ _ => rfl

/-- Whatever the user says besides, it is as if nothing had been said: the code then completes the
flow as it would have at once. -/
theorem coded_rounds_change_nothing :
    (∃ host, coded.deployment.after codedWorld chatter = { codedWorld with host := host }) ∧
      told (coded.deployment.perform (saying "hello?" none false) codedWorld) = .ok (some false) ∧
      ResultsAgree (Sides.twin "chat/users/ada" fun _ _ => True).Worlds
        (coded.deployment.perform (saying "42" none true)
          (coded.deployment.after codedWorld chatter))
        (coded.deployment.perform (saying "42" none true) codedWorld) := by
  have own : ∀ round ∈ chatter, round.turn.activity.userKey = .ok "chat/users/ada" :=
    List.forall_mem_cons.mpr ⟨rfl, List.forall_mem_singleton.mpr rfl⟩
  have left : ∀ earlier round later, chatter = earlier ++ round :: later →
      coded.LeftPending round (coded.deployment.after codedWorld earlier) := by
    unfold chatter
    rintro (_ | ⟨_, _ | ⟨_, _ | ⟨_, _⟩⟩⟩) round later split <;> cases split
    · exact ⟨⟨_, _, false⟩, _, _, _, ⟨⟨rfl, rfl, rfl, rfl, _, rfl, rfl⟩, rfl, nofun, rfl⟩⟩
    · exact ⟨⟨_, _, false⟩, _, _, _, ⟨⟨rfl, rfl, rfl, rfl, _, rfl, rfl⟩, rfl, fun _ => rfl, rfl⟩⟩
  obtain ⟨each, host, same, next⟩ :=
    @pending_rounds_change_nothing Nat coded codedWorld _ _ _ chatter rfl own left
  obtain ⟨_, _, -, first, -⟩ := each [] _ _ rfl
  refine ⟨⟨host, same⟩, congrArg told first, ?_⟩
  exact next _ _ _ rfl (parallel_coded _ _) (.signIn _ _ fun outcome => .finish outcome) trivial

end Site

end SignInFlow
