import SignInFlow.Proofs.Provenance
import SignInFlow.Proofs.Sessions

/-!
# What becomes of a replayed request

Turns overlap at will: from the channel they begin at any time, the worker takes more from the queue
before it is done, and each is routed to its end when its time has come.  A request that an
automatic flow has banked is not lost when it is replayed, unless another flow of its user is in
progress by then, which takes it for its own.
-/

namespace SignInFlow

variable {σ : Type}

/-- A record has grown by an event, among others. -/
def Newly (before : List Event) (event : Event) (after : List Event) : Prop :=
  ∃ older, before <:+ older ∧ event :: older <:+ after

section

variable {before later after : List Event} {event : Event}

theorem newly_cons (suffix : before <:+ after) : Newly before event (event :: after) :=
  ⟨after, suffix, List.suffix_rfl⟩

theorem Newly.mono (newly : Newly before event after) (more : after <:+ later) :
    Newly before event later := by
  obtain ⟨older, grown, seen⟩ := newly
  exact ⟨older, grown, seen.trans more⟩

theorem Newly.mem (newly : Newly before event after) : event ∈ after := by
  obtain ⟨older, -, seen⟩ := newly
  exact seen.subset List.mem_cons_self

end

/-- The request of a turn is taken care of: the application is let to see it, a flow that the turn
starts banks it, or its failure is reported. -/
inductive Kept (auth : Authenticator σ) (turn : Turn) (view after : View) : Prop where
  | admitted (goesOn : Newly view.log (.admitted turn) after.log)
  | banked (key handler : String) (exchange : Option Exchange) (answer : Response)
      (keyed : turn.activity.userKey = .ok key)
      (pending : answer.effective.status = .pending)
      (starts : Newly view.log (.answered .gate turn ⟨handler, true, exchange⟩ (.ok answer))
        after.log)
      (stored : Flow.stored after.documents key =
        .ok (.active handler (some (.activity turn.activity))))
  | reported (handler : String) (response : Response) (now : Instant)
      (told : Newly view.log (auth.failureEvent turn ⟨handler, response, turn.activity⟩ now)
        after.log)

/-- Another flow is in progress, and its handler is asked to continue it with the request of the
turn. -/
inductive Continued (turn : Turn) (view after : View) : Prop where
  | asked (handler : String) (banked : Option Banked) (exchange : Option Exchange)
      (answer : Response) (active : Flow.load view.state = .ok (.active handler banked))
      (continues : Newly view.log (.answered .gate turn ⟨handler, false, exchange⟩ (.ok answer))
        after.log)

/-- An automatic flow has banked an activity. -/
def Automatic (log : List Event) (activity : Activity) : Prop :=
  ∃ turn handler exchange answer,
    .answered .gate turn ⟨handler, true, exchange⟩ (.ok answer) ∈ log ∧
      answer.effective.status = .pending ∧ turn.activity.settled = activity

/-! ## What the gate makes of a request -/

theorem View.saved_clean (view : View) (turn : Turn) : (view.saved turn).state.dirty = false := by
  cases dirty : view.state.dirty with
  | false => rwa [View.saved_of_clean view turn dirty]
  | true =>
      obtain ⟨access, -, written⟩ := View.saved_of_dirty view turn dirty
      rw [written]
      rfl

namespace Authenticator

variable {auth : Authenticator σ} {turn : Turn} {scope : Scope (Recorded σ)}
  (services : Services σ)

theorem grows_ofExcept {α : Type} (outcome : Except Error α) :
    Grows (MonadExcept.ofExcept outcome : TurnAction (Recorded σ) α) := by
  intro scope
  cases outcome <;> exact List.suffix_rfl

theorem grows_passes (flow : Flow) : Grows ((auth.recorded .gate).passes turn flow) := by
  intro scope
  refine (ends_passes auth turn flow .gate).mono ?_ fun _ _ impossible => impossible.elim
  rintro _ after ⟨unseen, -⟩
  exact ⟨[], (congrArg View.log unseen).symm⟩

theorem grows_invoke (request : Request) : Grows ((auth.recorded .gate).invoke turn request) := by
  intro scope
  refine (ends_invoke auth turn .gate request).mono ?_ ?_
  · rintro _ after ⟨answer, -, seen⟩
    rw [seen]
    exact List.suffix_cons _ _
  · rintro _ after ⟨-, seen⟩
    rw [seen]
    exact List.suffix_cons _ _

theorem grows_suspend (flow : Flow) (handler : String) :
    Grows (suspend (services.recorded turn) turn flow handler) := by
  cases flow with
  | active owner banked => exact grows_pure ()
  | idle => exact (grows_persist turn services _).bind fun _ => grows_count _

theorem grows_concludeFailure (flow : Flow) (handler : String) (response : Response) :
    Grows ((auth.recorded .gate).concludeFailure (services.recorded turn) turn flow handler
      response) :=
  grows_of_preserves fun base => (tolerant_suffix turn base).preserves_concludeFailure auth services
    ((grows_persist turn services .idle).preserves base) flow handler response

theorem grows_concludeSuccess (flow : Flow) (handler : String) (response : Response) :
    Grows ((auth.recorded .gate).concludeSuccess (services.recorded turn) turn flow handler
      response) :=
  grows_of_preserves fun base => (tolerant_suffix turn base).preserves_concludeSuccess auth services
    ((grows_persist turn services .idle).preserves base) flow handler response

/-- What follows from the answer of a handler only adds to the record. -/
theorem grows_conclude (flow : Flow) (handler : String) (response : Response) :
    Grows (match response.status with
      | .pending => do
          suspend (services.recorded turn) turn flow handler
          pure false
      | .error => do
          (auth.recorded .gate).concludeFailure (services.recorded turn) turn flow handler response
          pure false
      | .complete =>
          (auth.recorded .gate).concludeSuccess (services.recorded turn) turn flow handler
            response) := by
  cases response.status with
  | pending => exact (grows_suspend services flow handler).bind fun _ => grows_pure false
  | error =>
      exact (grows_concludeFailure services flow handler response).bind fun _ => grows_pure false
  | complete => exact grows_concludeSuccess services flow handler response

theorem grows_startOrContinue (requested : Option String) :
    Grows ((auth.recorded .gate).startOrContinue (services.recorded turn) turn requested) := by
  have runs : Grows (TurnAction.ensureNotCancelled : TurnAction (Recorded σ) Unit) := by
    intro scope
    rw [TurnAction.ends_ensureNotCancelled]
    split <;> exact List.suffix_rfl
  have loads : Grows (TurnAction.flow : TurnAction (Recorded σ) Flow) := by
    intro scope
    rw [TurnAction.ends_flow]
    exact ⟨fun _ _ => List.suffix_rfl, fun _ _ => List.suffix_rfl⟩
  refine runs.bind fun _ => loads.bind fun flow => (grows_passes flow).bind fun passes => ?_
  cases passes with
  | true => exact grows_pure true
  | false =>
      simp only [Bool.false_eq_true, if_false]
      exact (grows_ofExcept _).bind fun handler => (grows_invoke _).bind fun response =>
        grows_conclude services flow handler response

/-! ### Where a turn does not pass -/

/-- Why a turn does not pass the gate: it has started a flow that is stored with its activity, a
failure that names its activity is told, or another flow took it. -/
inductive Halts (auth : Authenticator σ) (turn : Turn) (view after : View) : Prop where
  | started (handler : String) (answer : Response) (pending : answer.effective.status = .pending)
      (starts : Newly view.log (.answered .gate turn ⟨handler, true, none⟩ (.ok answer)) after.log)
      (stored : Flow.stored after.documents view.state.key =
        .ok (.active handler (some (.activity turn.activity.settled))))
      (clean : after.state.dirty = false)
  | failed (handler : String) (response : Response) (now : Instant)
      (told : Newly view.log (auth.failureEvent turn ⟨handler, response, turn.activity⟩ now)
        after.log)
  | continued (continued : Continued turn view after)

theorem ends_suspend_idle {view : View} {handler : String} {answer : Response}
    (heard : scope.view = view.see (.answered .gate turn ⟨handler, true, none⟩ (.ok answer)))
    (pending : answer.effective.status = .pending) :
    Ends (suspend (services.recorded turn) turn .idle handler) scope
      (fun _ after => Halts auth turn view after.view) (fun _ _ => True) := by
  simp only [suspend, Flow.isActive, Bool.false_eq_true, if_false, ends_bind,
    TurnAction.ends_count]
  refine (TurnAction.ends_persist services turn _).mono ?_ fun _ _ _ => trivial
  intro _ after kept
  let held := scope.view.hold (.active handler (some (.activity turn.activity)))
  change Halts auth turn view after.view
  have stored := View.stored_saved_of_dirty held turn (Flow.store_active_dirty _ _ _)
  rw [← kept, View.hold_state, Flow.store_key, Flow.load_store, heard] at stored
  have saved : Adds turn held.log (held.saved turn).log := View.adds_saved turn
  have starts : Newly view.log (.answered .gate turn ⟨handler, true, none⟩ (.ok answer))
      held.log := by
    rw [View.hold_log, heard]
    exact newly_cons List.suffix_rfl
  rw [← kept] at saved
  have clean : after.view.state.dirty = false := by
    rw [kept]
    exact View.saved_clean held turn
  exact .started handler answer pending (starts.mono saved.suffix) stored clean

theorem ends_concludeFailure_idle {view : View} (handler : String) (response : Response)
    (grown : view.log <:+ scope.view.log) :
    Ends ((auth.recorded .gate).concludeFailure (services.recorded turn) turn .idle handler
        response) scope
      (fun _ after => Halts auth turn view after.view) (fun _ _ => True) := by
  simp only [concludeFailure, Flow.banked, ends_bind, TurnAction.ends_count]
  refine (TurnAction.ends_persist services turn .idle).mono ?_ fun _ _ _ => trivial
  intro _ middle kept
  refine (ends_reportFailure auth services turn _ .gate).mono ?_ fun _ _ _ => trivial
  rintro _ after ⟨now, told⟩
  have saved : Adds turn scope.view.log middle.view.log := by
    rw [kept]
    exact View.adds_saved turn
  refine .failed handler response now ?_
  rw [told]
  exact newly_cons (grown.trans saved.suffix)

/-- Where no flow is in progress, a turn passes as soon as there is a token. -/
theorem ends_concludeSuccess_idle (handler : String) (response : Response) :
    Ends ((auth.recorded .gate).concludeSuccess (services.recorded turn) turn .idle handler
        response) scope (fun passes _ => passes = true) (fun _ _ => True) := by
  simp only [concludeSuccess, cacheToken, Flow.banked, ends_bind, ends_discard, ends_pure,
    ends_modify, TurnAction.ends_ofAction, TurnAction.ends_count]
  exact (TurnAction.ends_persist services turn .idle).mono (fun _ _ _ => trivial)
    fun _ _ _ => trivial

theorem ends_startOrContinue_halts (requested : Option String) :
    Ends ((auth.recorded .gate).startOrContinue (services.recorded turn) turn requested) scope
      (fun passes after => passes = false → Halts auth turn scope.view after.view)
      (fun _ _ => True) := by
  unfold startOrContinue
  simp only [ends_bind, TurnAction.ends_ensureNotCancelled, TurnAction.ends_flow]
  split
  · trivial
  refine ⟨fun flow loaded => ?_, fun _ _ => trivial⟩
  refine (ends_passes auth turn flow .gate).mono ?_ fun _ _ _ => trivial
  rintro passes asked ⟨unseen, -⟩
  cases passes with
  | true =>
      intro impossible
      cases impossible
  | false =>
      simp only [Bool.false_eq_true, if_false, ends_bind, ends_ofExcept]
      refine ⟨fun handler chosen => ?_, fun _ _ => trivial⟩
      refine (ends_invoke auth turn .gate ⟨handler, !flow.isActive, flow.exchange⟩).mono ?_
        fun _ _ _ => trivial
      rintro _ heard ⟨answer, rfl, seen⟩
      rw [unseen] at seen
      cases flow with
      | active owner banked =>
          obtain rfl : owner = handler := Except.ok.inj chosen
          refine (grows_conclude services (.active owner banked) owner answer.effective heard).mono
            ?_ fun _ _ _ => trivial
          intro _ after grown _
          rw [seen] at grown
          exact .continued (.asked owner banked _ answer loaded
            ((newly_cons List.suffix_rfl).mono grown))
      | idle =>
          cases status : answer.effective.status with
          | pending =>
              simp only [ends_bind, ends_pure]
              exact (ends_suspend_idle services seen status).mono (fun _ _ halts _ => halts)
                fun _ _ => id
          | error =>
              simp only [ends_bind, ends_pure]
              refine (ends_concludeFailure_idle services handler answer.effective ?_).mono
                (fun _ _ halts _ => halts) fun _ _ => id
              rw [seen]
              exact List.suffix_cons _ _
          | complete =>
              refine (ends_concludeSuccess_idle services handler answer.effective).mono ?_
                fun _ _ => id
              intro passes _ passed halted
              rw [passed] at halted
              cases halted

end Authenticator

/-! ## What a turn makes of a request -/

namespace Site

open Authenticator

variable (site : Site σ) {turn : Turn} {scope : Scope (Recorded σ)}

/-- What has halted a turn stays so when the state is written back. -/
theorem kept_of_halts {auth : Authenticator σ} {view middle : View}
    (keyed : turn.activity.userKey = .ok view.state.key)
    (settled : turn.activity.settled = turn.activity) (halts : auth.Halts turn view middle) :
    Kept auth turn view (middle.saved turn) ∨ Continued turn view (middle.saved turn) := by
  have saved : middle.log <:+ (middle.saved turn).log := (View.adds_saved turn).suffix
  cases halts with
  | started handler answer pending starts stored clean =>
      rw [settled] at stored
      refine .inl (.banked view.state.key handler none answer keyed pending (starts.mono saved) ?_)
      rwa [View.saved_of_clean middle turn clean]
  | failed handler response now told =>
      exact .inl (.reported handler response now (told.mono saved))
  | continued continued =>
      obtain ⟨handler, banked, exchange, answer, active, continues⟩ := continued
      exact .inr (.asked handler banked exchange answer active (continues.mono saved))

/-- A turn that is no completion event and ends well keeps its request, or another flow has it. -/
theorem ends_route_keeps (ordinary : site.auth.isCompletionEvent turn.activity = false)
    (keyed : turn.activity.userKey = .ok scope.state.key)
    (settled : turn.activity.settled = turn.activity) :
    Ends (site.recorded.gateway.route (site.services.recorded turn) turn) scope
      (fun _ after => Kept site.auth turn scope.view after.view ∨
        Continued turn scope.view after.view)
      (fun _ _ => True) := by
  unfold Gateway.route
  change Ends (if site.auth.isCompletionEvent turn.activity = true then _ else _) _ _ _
  rw [if_neg (ne_true_of_eq_false ordinary), ends_bind]
  refine ((grows_startOrContinue site.services site.handler scope).and
    (ends_startOrContinue_halts site.services site.handler)).mono ?_ fun _ _ _ => trivial
  rintro passes middle ⟨grown, halts⟩
  cases passes with
  | true =>
      have rest := (grows_of_moves (moves_perform site.auth site.services turn
        (site.conduct turn))).bind fun _ => grows_of_moves (moves_save site.auth site.services turn)
      simp only [if_true, ends_bind, recorded, TurnAction.ends_noteAdmitted]
      rw [← ends_bind]
      refine (rest _).mono ?_ fun _ _ _ => trivial
      intro _ after later
      exact .inl (.admitted ((newly_cons grown).mono later))
  | false =>
      simp only [Bool.false_eq_true, if_false]
      refine (TurnAction.ends_save site.services turn).mono ?_ fun _ _ _ => trivial
      intro _ after saved
      rw [saved]
      exact kept_of_halts keyed settled (halts rfl)

end Site

/-! ## Overlapping turns -/

/-- What happens next where turns overlap. -/
inductive Move where
  /-- An activity arrives from the channel, in a turn that may be cancelled from the start. -/
  | arrive (activity : Activity) (cancelled : Bool)
  /-- The worker takes the oldest activity off the queue. -/
  | deliver
  /-- One of the turns in progress is routed to its end. -/
  | finish (index : Nat)

namespace Deployment

/-- What a turn leaves at its end; how a replayed one has ended is counted. -/
def conclude (turn : Turn) (succeeded : Bool) (world : World σ) : World σ :=
  if turn.redelivered then { world with queue := world.queue.settle succeeded } else world

/-- A turn begins and loads the state of its user, or else is over. -/
def begin (deployment : Deployment σ) (sessions : Sessions σ) (turn : Turn) (cancelled : Bool) :
    Sessions σ :=
  match UserState.load (deployment.services turn) turn.activity sessions.world with
  | .ok state world => ⟨world, sessions.turns ++ [⟨turn, state, cancelled⟩]⟩
  | .error _ world => ⟨conclude turn false world, sessions.turns⟩

/-- A turn in progress is routed to its end. -/
def finish (deployment : Deployment σ) (world : World σ) (session : Session) : World σ :=
  match deployment.gateway.route (deployment.services session.turn) session.turn
      ⟨world, session.state, session.cancelled⟩ with
  | .ok _ after => conclude session.turn true after.world
  | .error _ after => conclude session.turn false after.world

/-- Carries out what happens next. -/
def move (deployment : Deployment σ) (sessions : Sessions σ) : Move → Sessions σ
  | .arrive activity cancelled => deployment.begin sessions ⟨activity, false⟩ cancelled
  | .deliver =>
      match sessions.world.queue.take? with
      | none => sessions
      | some (activity, rest) =>
          let turn : Turn := ⟨activity, true⟩
          let host := (deployment.services turn).openSender activity sessions.world.host
          let world := { sessions.world with queue := rest, host := host }
          deployment.begin { sessions with world := world } turn false
  | .finish index =>
      match sessions.turns[index]? with
      | none => sessions
      | some session => ⟨deployment.finish sessions.world session, sessions.turns.eraseIdx index⟩

/-- Carries out all that happens. -/
def overlap (deployment : Deployment σ) (sessions : Sessions σ) (moves : List Move) : Sessions σ :=
  moves.foldl deployment.move sessions

end Deployment

/-- A turn that is carried to its end at once. -/
def Input.moves : Input → List Move
  | .arrival activity cancelled => [.arrive activity cancelled, .finish 0]
  | .delivery => [.deliver, .finish 0]

namespace Deployment

/-- A turn that is routed to its end as soon as it has begun is processed. -/
theorem ends_process (deployment : Deployment σ) (turn : Turn) (cancelled : Bool)
    (world : World σ) : Ends (deployment.process turn cancelled) world
      (fun _ after => deployment.move (deployment.begin ⟨world, []⟩ turn cancelled) (.finish 0) =
        ⟨conclude turn true after, []⟩)
      (fun _ after => deployment.move (deployment.begin ⟨world, []⟩ turn cancelled) (.finish 0) =
        ⟨conclude turn false after, []⟩) := by
  unfold Ends
  simp only [begin, process, Gateway.process, bind, EStateM.bind, TurnAction.run]
  cases UserState.load (deployment.services turn) turn.activity world with
  | error error after => rfl
  | ok state loaded =>
      simp only [move, List.nil_append, List.getElem?_cons_zero, List.eraseIdx_cons_zero, finish]
      cases deployment.gateway.route (deployment.services turn) turn
        ⟨loaded, state, cancelled⟩ <;> rfl

theorem overlap_moves (deployment : Deployment σ) (world : World σ) (input : Input) :
    deployment.overlap ⟨world, []⟩ input.moves = ⟨deployment.advance world input, []⟩ := by
  cases input with
  | arrival activity cancelled =>
      have ends := deployment.ends_process ⟨activity, false⟩ cancelled world
      simp only [advance]
      cases processed : deployment.process ⟨activity, false⟩ cancelled world with
      | ok _ after => exact ends.of_ok processed
      | error error after => exact ends.of_error processed
  | delivery =>
      simp only [Input.moves, overlap, List.foldl_cons, List.foldl_nil]
      cases waiting : world.queue.waiting with
      | nil => simp only [move, advance, ReplayQueue.take?, waiting, List.getElem?_nil]
      | cons activity rest =>
          let turn : Turn := ⟨activity, true⟩
          let start : World σ :=
            { world with
              queue := { world.queue with waiting := rest }
              host := (deployment.services turn).openSender activity world.host }
          have delivered : deployment.move ⟨world, []⟩ .deliver =
              deployment.begin ⟨start, []⟩ turn false := by
            simp only [move, ReplayQueue.take?, waiting]
            rfl
          have ends := deployment.ends_process turn false start
          rw [delivered]
          simp only [advance, waiting, Replay.step, ReplayQueue.take?, Option.map_some,
            Option.getD_some, Replay.dispatch]
          cases processed : deployment.process turn false start with
          | ok _ after => exact ends.of_ok processed
          | error error after => exact ends.of_error processed

/-- Runs in which turns follow one another are among those in which they overlap. -/
theorem overlap_inputs (deployment : Deployment σ) (world : World σ) (inputs : List Input) :
    deployment.overlap ⟨world, []⟩ (inputs.flatMap Input.moves) =
      ⟨deployment.run world inputs, []⟩ := by
  induction inputs generalizing world with
  | nil => rfl
  | cons input rest ih =>
      have first := overlap_moves deployment world input
      simp only [overlap, run, List.flatMap_cons, List.foldl_append, List.foldl_cons] at first ih ⊢
      rw [first, ih]

end Deployment

namespace Site

variable (site : Site σ)

theorem erase_conclude (turn : Turn) (succeeded : Bool) (world : World (Recorded σ)) :
    (Deployment.conclude turn succeeded world).erase =
      Deployment.conclude turn succeeded world.erase := by
  unfold Deployment.conclude
  cases turn.redelivered <;> rfl

theorem erase_begin (sessions : Sessions (Recorded σ)) (turn : Turn) (cancelled : Bool) :
    (site.recorded.begin sessions turn cancelled).erase =
      site.deployment.begin sessions.erase turn cancelled := by
  have same : UserState.load (site.deployment.services turn) turn.activity sessions.erase.world =
      seenAs World.erase
        (UserState.load (site.recorded.services turn) turn.activity sessions.world) :=
    mirrors_load site.services turn turn.activity sessions.world
  unfold Deployment.begin
  rw [same]
  cases UserState.load (site.recorded.services turn) turn.activity sessions.world with
  | ok state world => rfl
  | error error world =>
      simp only [seenAs, Sessions.erase, erase_conclude]

theorem erase_finish (world : World (Recorded σ)) (session : Session) :
    (site.recorded.finish world session).erase = site.deployment.finish world.erase session := by
  have same : site.deployment.gateway.route (site.deployment.services session.turn) session.turn
      ⟨world.erase, session.state, session.cancelled⟩ = seenAs Scope.erase
        (site.recorded.gateway.route (site.recorded.services session.turn) session.turn
          ⟨world, session.state, session.cancelled⟩) :=
    mirrors_route site session.turn ⟨world, session.state, session.cancelled⟩
  unfold Deployment.finish
  rw [same]
  cases site.recorded.gateway.route (site.recorded.services session.turn) session.turn
      ⟨world, session.state, session.cancelled⟩ with
  | ok _ after => exact erase_conclude session.turn true after.world
  | error _ after => exact erase_conclude session.turn false after.world

theorem erase_move (sessions : Sessions (Recorded σ)) (move : Move) :
    (site.recorded.move sessions move).erase = site.deployment.move sessions.erase move := by
  cases move with
  | arrive activity cancelled => exact erase_begin site sessions _ cancelled
  | deliver =>
      have queue_eq : sessions.erase.world.queue = sessions.world.queue := rfl
      simp only [Deployment.move]
      rw [queue_eq]
      cases sessions.world.queue.take? with
      | none => rfl
      | some taken => exact erase_begin site _ _ false
  | finish index =>
      have turns_eq : sessions.erase.turns = sessions.turns := rfl
      simp only [Deployment.move]
      rw [turns_eq]
      cases sessions.turns[index]? with
      | none => rfl
      | some session =>
          have ended := erase_finish site sessions.world session
          exact congrArg (fun world => (⟨world, sessions.turns.eraseIdx index⟩ : Sessions σ)) ended

/-- An overlapping run of a site, without the record, is that of the site that is not recorded. -/
theorem erase_overlap (sessions : Sessions (Recorded σ)) (moves : List Move) :
    (site.recorded.overlap sessions moves).erase =
      site.deployment.overlap sessions.erase moves := by
  induction moves generalizing sessions with
  | nil => rfl
  | cons move rest ih =>
      simp only [Deployment.overlap, List.foldl_cons] at ih ⊢
      rw [ih, erase_move]

end Site

/-! ## What overlapping turns keep -/

/-- The gate asks a handler for no completion event. -/
def Ordinary (auth : Authenticator σ) (log : List Event) : Prop :=
  ∀ turn request answer, .answered .gate turn request answer ∈ log →
    auth.isCompletionEvent turn.activity = false

namespace Ordinary

variable {auth : Authenticator σ} {log : List Event} {turn : Turn}

theorem nil (auth : Authenticator σ) : Ordinary auth [] := by
  intro turn request answer member
  cases member

theorem cons (ordinary : Ordinary auth log) {event : Event} (unasked : event.isAnswer = false) :
    Ordinary auth (event :: log) := by
  intro turn request answer member
  rcases List.mem_cons.mp member with same | earlier
  · exact absurd same.symm (Event.ne_answered unasked .gate turn request answer)
  · exact ordinary turn request answer earlier

theorem adds (ordinary : Ordinary auth log) {after : List Event} (adds : Adds turn log after)
    (plain : auth.isCompletionEvent turn.activity = false) : Ordinary auth after := by
  obtain ⟨seen, rfl, owns⟩ := adds
  intro other request answer member
  rcases List.mem_append.mp member with new | earlier
  · obtain rfl : other = turn := owns _ new
    exact plain
  · exact ordinary other request answer earlier

theorem completes {view after : View} (ordinary : Ordinary auth view.log)
    (completes : auth.Completes turn view after) : Ordinary auth after.log := by
  cases completes with
  | nothing => exact ordinary
  | reported event response report redelivered decoded carried tells =>
      exact ordinary.cons (Event.isAnswer_of_notice tells.notice.2)

end Ordinary

namespace Site

/-- What overlapping turns keep: the gate has asked for no completion event, and each turn in
progress has loaded the state of its own user. -/
structure Proper (site : Site σ) (sessions : Sessions (Recorded σ)) : Prop where
  ordinary : Ordinary site.auth sessions.world.host.log
  loaded : ∀ session ∈ sessions.turns,
    session.turn.activity.userKey = .ok session.state.key ∧ session.state.dirty = false

variable {site : Site σ} {sessions : Sessions (Recorded σ)}

theorem log_conclude (turn : Turn) (succeeded : Bool) (world : World (Recorded σ)) :
    (Deployment.conclude turn succeeded world).host.log = world.host.log := by
  unfold Deployment.conclude
  cases turn.redelivered <;> rfl

theorem Proper.begin (proper : site.Proper sessions) (turn : Turn) (cancelled : Bool) :
    site.Proper (site.recorded.begin sessions turn cancelled) := by
  have ends : Ends (UserState.load (site.recorded.services turn) turn.activity) sessions.world
      _ _ := ends_load site.services turn
  unfold Deployment.begin
  cases result : UserState.load (site.recorded.services turn) turn.activity sessions.world with
  | ok state world =>
      have loads := ends.of_ok result
      have log : world.host.log = .accessed turn (.read [state.key]) :: sessions.world.host.log :=
        congrArg Standing.log loads.standing
      refine ⟨?_, ?_⟩
      · change Ordinary site.auth world.host.log
        rw [log]
        exact proper.ordinary.cons rfl
      · intro session member
        rcases List.mem_append.mp member with earlier | new
        · exact proper.loaded session earlier
        · rw [List.mem_singleton.mp new]
          exact ⟨loads.keyed, loads.clean⟩
  | error error world =>
      refine ⟨?_, proper.loaded⟩
      rw [log_conclude]
      rcases ends.of_error result with same | ⟨access, same⟩ | ⟨key, -, same⟩
      · have log : world.host.log = sessions.world.host.log := congrArg Standing.log same
        rw [log]
        exact proper.ordinary
      · have log : world.host.log = .refused turn access :: sessions.world.host.log :=
          congrArg Standing.log same
        rw [log]
        exact proper.ordinary.cons rfl
      · have log : world.host.log = .accessed turn (.read [key]) :: sessions.world.host.log :=
          congrArg Standing.log same
        rw [log]
        exact proper.ordinary.cons rfl

theorem ordinary_finish (site : Site σ) {world : World (Recorded σ)} {session : Session}
    (ordinary : Ordinary site.auth world.host.log) (clean : session.state.dirty = false) :
    Ordinary site.auth (site.recorded.finish world session).host.log := by
  let start : Scope (Recorded σ) := ⟨world, session.state, session.cancelled⟩
  have ends : Ends (site.recorded.gateway.route (site.recorded.services session.turn) session.turn)
      start (fun _ after => Ordinary site.auth after.view.log)
      (fun _ after => Ordinary site.auth after.view.log) := by
    cases completion : site.auth.isCompletionEvent session.turn.activity with
    | true =>
        exact (ends_route_of_completion site completion clean).mono
          (fun _ _ => Ordinary.completes ordinary) (fun _ _ => Ordinary.completes ordinary)
    | false =>
        refine (ends_route_of_ordinary site completion).mono ?_ ?_ <;>
        · intro _ after reaches
          exact Ordinary.adds ordinary (View.adds_of_reaches session.turn reaches) completion
  unfold Deployment.finish
  cases result : site.recorded.gateway.route (site.recorded.services session.turn) session.turn
      ⟨world, session.state, session.cancelled⟩ with
  | ok _ after =>
      simp only [log_conclude]
      exact ends.of_ok result
  | error error after =>
      simp only [log_conclude]
      exact ends.of_error result

theorem Proper.move (proper : site.Proper sessions) (move : Move) :
    site.Proper (site.recorded.move sessions move) := by
  cases move with
  | arrive activity cancelled => exact proper.begin _ cancelled
  | deliver =>
      simp only [Deployment.move]
      cases sessions.world.queue.take? with
      | none => exact proper
      | some taken =>
          obtain ⟨activity, rest⟩ := taken
          let turn : Turn := ⟨activity, true⟩
          let start : Sessions (Recorded σ) :=
            { sessions with
              world := { sessions.world with
                queue := rest
                host := (site.recorded.services turn).openSender activity sessions.world.host } }
          have prepared : site.Proper start := ⟨proper.ordinary, proper.loaded⟩
          exact prepared.begin turn false
  | finish index =>
      simp only [Deployment.move]
      cases found : sessions.turns[index]? with
      | none => exact proper
      | some session =>
          have clean := (proper.loaded session (List.mem_of_getElem? found)).2
          refine ⟨ordinary_finish site proper.ordinary clean, ?_⟩
          intro other member
          exact proper.loaded other (List.mem_of_mem_eraseIdx member)

theorem Proper.overlap (proper : site.Proper sessions) (moves : List Move) :
    site.Proper (site.recorded.overlap sessions moves) := by
  induction moves generalizing sessions with
  | nil => exact proper
  | cons move rest ih => exact ih (proper.move move)

/-- Overlapping turns from empty storage and an empty queue, with the record of their host. -/
def overlapping (site : Site σ) (host : σ) (moves : List Move) : Sessions (Recorded σ) :=
  site.recorded.overlap ⟨World.initial ⟨host, []⟩, []⟩ moves

/-- A request that an automatic flow has banked is not lost when it comes back.  However turns
overlap, its turn, if it ends well, has let the application see the request, or banked it in a flow
that it started, or told of its failure; or else a flow of the user was in progress when the turn
began, and its handler was asked to continue it with the request. -/
theorem replayed_request_kept (site : Site σ) (host : σ) (moves : List Move) :
    (site.overlapping host moves).erase =
        site.deployment.overlap ⟨World.initial host, []⟩ moves ∧
      ∀ session ∈ (site.overlapping host moves).turns,
        Automatic (site.overlapping host moves).world.host.log session.turn.activity →
          ∀ after : Scope (Recorded σ),
            site.recorded.gateway.route (site.services.recorded session.turn) session.turn
                ⟨(site.overlapping host moves).world, session.state, session.cancelled⟩ =
              .ok () after →
            Kept site.auth session.turn ((site.overlapping host moves).world.view session.state)
                after.view ∨
              Continued session.turn ((site.overlapping host moves).world.view session.state)
                after.view := by
  refine ⟨erase_overlap site _ moves, ?_⟩
  intro session member automatic after ended
  have empty : site.Proper ⟨World.initial ⟨host, []⟩, []⟩ :=
    ⟨.nil site.auth, List.forall_mem_nil _⟩
  have proper : site.Proper (site.overlapping host moves) := empty.overlap moves
  obtain ⟨turn, handler, exchange, answer, answered, -, same⟩ := automatic
  have ordinary : site.auth.isCompletionEvent session.turn.activity = false := by
    rw [← same, isCompletionEvent_settled]
    exact proper.ordinary _ _ _ answered
  have settled : session.turn.activity.settled = session.turn.activity := by
    rw [← same, Activity.settled_settled]
  let start : Scope (Recorded σ) :=
    ⟨(site.overlapping host moves).world, session.state, session.cancelled⟩
  have keyed : session.turn.activity.userKey = .ok start.state.key := (proper.loaded _ member).1
  exact (ends_route_keeps site ordinary keyed settled).of_ok ended

/-- A site that starts a flow for every request; its one handler gives a token when it is asked for
the second time, and otherwise wants to hear from the user once more. -/
def eager : Site Nat where
  auth :=
    { settings := .standard
      defaultHandler := "code"
      dispatcher :=
        { defaultName := "code"
          names := ["code"]
          contains := fun name => name == "code"
          signIn := fun _ _ visit =>
            .ok (if visit.host = 1 then .complete "token" else .pending)
              { visit with host := visit.host + 1 }
          signOut := fun _ _ => pure ()
          reset := fun _ _ => pure () }
      policy := .always
      onSuccess := none
      onFailure := none }
  services := .lenient
  conduct := fun _ => .finish (.ok ())
  handler := none

/-- The request that is banked at the eager site. -/
def eagerRequest : Activity := .message "chat" "ada" "room" "first"

/-- A user asks for something and then says the code, so that the request is queued. -/
def eagerMoves : List Move :=
  [.arrive eagerRequest false, .finish 0, .arrive (.message "chat" "ada" "room" "second") false,
    .finish 0]

/-- Before the request is replayed, the user asks for something else, which starts another flow. -/
def eagerCrossing : List Move :=
  eagerMoves ++ [.arrive (.message "chat" "ada" "room" "third") false, .finish 0]

/-- The turn of the request when it is replayed. -/
def eagerReplay : Turn := ⟨eagerRequest, true⟩

/-- What comes of the request at the eager site, replayed after some moves. -/
def eagerOutcome (moves : List Move) (session : Session) :
    EStateM.Result Error (Scope (Recorded Nat)) Unit :=
  eager.recorded.gateway.route (eager.services.recorded session.turn) session.turn
    ⟨(eager.overlapping 0 moves).world, session.state, session.cancelled⟩

/-- Whether a replay of the request ends well. -/
def endsWell : EStateM.Result Error (Scope (Recorded Nat)) Unit → Bool
  | .ok _ _ => true
  | .error _ _ => false

/-- Replayed at once, the request starts a flow of its own. -/
theorem eager_request_kept : ∃ session ∈ (eager.overlapping 0 (eagerMoves ++ [.deliver])).turns,
    session.turn = eagerReplay ∧ ∃ after,
      eagerOutcome (eagerMoves ++ [.deliver]) session = .ok () after ∧
        Kept eager.auth eagerReplay
          ((eager.overlapping 0 (eagerMoves ++ [.deliver])).world.view session.state)
          after.view := by
  let session : Session := ⟨eagerReplay, ⟨"chat/users/ada", [], false⟩, false⟩
  have turns : (eager.overlapping 0 (eagerMoves ++ [.deliver])).turns = [session] := rfl
  have member : session ∈ (eager.overlapping 0 (eagerMoves ++ [.deliver])).turns := by
    rw [turns]
    exact List.mem_singleton_self session
  have pending : (eager.overlapping 0 (eagerMoves ++ [.deliver])).world.host.log[6]? =
      some (.answered .gate ⟨eagerRequest, false⟩ ⟨"code", true, none⟩ (.ok .pending)) := rfl
  have automatic : Automatic (eager.overlapping 0 (eagerMoves ++ [.deliver])).world.host.log
      eagerRequest :=
    ⟨_, _, _, _, List.mem_of_getElem? pending, rfl, rfl⟩
  cases ended : eagerOutcome (eagerMoves ++ [.deliver]) session with
  | error error after =>
      have well : endsWell (eagerOutcome (eagerMoves ++ [.deliver]) session) = true := by
        decide +kernel
      rw [ended] at well
      cases well
  | ok _ after =>
      refine ⟨session, member, rfl, after, ended, ?_⟩
      have fate := (replayed_request_kept eager 0 (eagerMoves ++ [Move.deliver])).2 session member
        automatic after ended
      rcases fate with kept | ⟨handler, banked, exchange, answer, active, -⟩
      · exact kept
      · cases active

/-- Whether an event lets the application see a request or tells somebody of a failure. -/
def heeds : Event → Bool
  | .admitted _ | .failed _ _ | .sent _ _ => true
  | _ => false

/-- Whether the flow that is stored for the user has banked some text. -/
def banksText (documents : Dictionary Json) (text : String) : Bool :=
  match Flow.stored documents "chat/users/ada" with
  | .ok (.active _ (some (.activity trigger))) => trigger.text == some text
  | _ => false

/-- Whether a replay of the request ends well, with nobody to heed it and nothing banked. -/
def misses : EStateM.Result Error (Scope (Recorded Nat)) Unit → Bool
  | .ok _ after => !after.view.log.any heeds && !banksText after.view.documents "first"
  | .error _ _ => false

/-- What nobody has heeded and the stored flow has not banked is not kept. -/
theorem eager_not_kept {view after : View} (unheeded : after.log.any heeds = false)
    (unbanked : banksText after.documents "first" = false) :
    ¬ Kept eager.auth eagerReplay view after := by
  have quiet (event : Event) (heeded : heeds event = true) : event ∉ after.log := by
    intro member
    have some : after.log.any heeds = true := List.any_eq_true.mpr ⟨event, member, heeded⟩
    rw [unheeded] at some
    cases some
  intro kept
  cases kept with
  | admitted goesOn => exact quiet (.admitted eagerReplay) rfl goesOn.mem
  | banked key handler exchange answer keyed pending starts stored =>
      have own : key = "chat/users/ada" := (Except.ok.inj keyed).symm
      rw [own] at stored
      have banks : banksText after.documents "first" = true := by
        rw [banksText, stored]
        rfl
      rw [unbanked] at banks
      cases banks
  | reported handler response now told =>
      rcases eager.auth.failureEvent_cases eagerReplay ⟨handler, response, eagerReplay.activity⟩
        now with same | ⟨message, same⟩
      · rw [same] at told
        exact quiet _ rfl told.mem
      · rw [same] at told
        exact quiet _ rfl told.mem

/-- Once the user has started another flow, that flow takes the request: the turn ends well, and the
application has not seen it, nothing has banked it, and no failure is told. -/
theorem eager_request_taken : ∃ session ∈
      (eager.overlapping 0 (eagerCrossing ++ [.deliver])).turns,
    session.turn = eagerReplay ∧
      Automatic (eager.overlapping 0 (eagerCrossing ++ [.deliver])).world.host.log eagerRequest ∧
      ∃ after, eagerOutcome (eagerCrossing ++ [.deliver]) session = .ok () after ∧
        ¬ Kept eager.auth eagerReplay
          ((eager.overlapping 0 (eagerCrossing ++ [.deliver])).world.view session.state)
          after.view := by
  have pending : (eager.overlapping 0 (eagerCrossing ++ [.deliver])).world.host.log[9]? =
      some (.answered .gate ⟨eagerRequest, false⟩ ⟨"code", true, none⟩ (.ok .pending)) := rfl
  have automatic : Automatic (eager.overlapping 0 (eagerCrossing ++ [.deliver])).world.host.log
      eagerRequest :=
    ⟨_, _, _, _, List.mem_of_getElem? pending, rfl, rfl⟩
  have begun : (eager.overlapping 0 (eagerCrossing ++ [.deliver])).turns.map Session.turn =
      [eagerReplay] := rfl
  have missed : ((eager.overlapping 0 (eagerCrossing ++ [.deliver])).turns.all fun session =>
      misses (eagerOutcome (eagerCrossing ++ [.deliver]) session)) = true := by decide +kernel
  obtain ⟨session, turns, same⟩ := List.map_eq_singleton_iff.mp begun
  have member : session ∈ (eager.overlapping 0 (eagerCrossing ++ [.deliver])).turns := by
    rw [turns]
    exact List.mem_singleton_self session
  have outcome := List.all_eq_true.mp missed session member
  cases ended : eagerOutcome (eagerCrossing ++ [.deliver]) session with
  | error error after =>
      rw [ended] at outcome
      cases outcome
  | ok _ after =>
      simp only [ended, misses, Bool.and_eq_true, Bool.not_eq_true'] at outcome
      exact ⟨session, member, same, automatic, after, ended,
        eager_not_kept outcome.1 outcome.2⟩

end Site
end SignInFlow
