import SignInFlow.Proofs.Conservation
import SignInFlow.Proofs.Durability

/-!
# One coherent flow for each user

While storage works and turns follow one another, the record alone tells how a handler is asked.
What began the flow in progress decides the handler and the exchange parameters of every request
until the flow is cleared, and meanwhile an explicit sign-in fails and changes nothing.
-/

namespace SignInFlow

variable {σ : Type}

/-! ## What a record tells of the flow in progress -/

/-- What a flow forwards once it has begun: the exchange parameters of the explicit sign-in that
began it, if it had any. -/
def Asker.forwards (asker : Asker) (request : Request) : Option Exchange :=
  match asker with
  | .gate => none
  | .application => request.exchange.filter fun exchange => !exchange.isEmpty

/-- The request that continues the flow that an event begins for a user. -/
def Event.opens (key : String) (event : Event) : Option Request :=
  match event with
  | .answered asker turn request _ =>
      if turn.isOf key = true ∧ event.begins = true then
        some ⟨request.handler, false, asker.forwards request⟩
      else none
  | _ => none

/-- The request that continues the flow in progress of a user: what began last decides it, unless
the flow has been cleared since. -/
def continuing (key : String) : List Event → Option Request
  | [] => none
  | event :: older =>
      match event.opens key with
      | some request => some request
      | none =>
          if Flow.banks (replay [] older) key && !Flow.banks (replay [] (event :: older)) key
          then none
          else continuing key older

/-- What is stored for a user is what the record tells to be in progress. -/
inductive Tracks (log : List Event) (key : String) : Prop where
  | idle (stored : Flow.after log key = .ok .idle) (nothing : continuing key log = none)
  | active (handler : String) (banked : Banked)
      (stored : Flow.after log key = .ok (.active handler (some banked)))
      (continues : continuing key log =
        some ⟨handler, false, (Flow.active handler (some banked)).exchange⟩)

/-- A request of a user forces a new start exactly if no flow is stored, and otherwise continues
the one in progress. -/
structure Follows (older : List Event) (key : String) (request : Request) : Prop where
  tracked : Tracks older key
  forced : request.force = true ↔ Flow.after older key = .ok .idle
  continued : ∀ expected, continuing key older = some expected → request = expected

/-- Every request in a record follows from what the record tells before it. -/
def Coherent (log : List Event) : Prop :=
  ∀ asker turn request answer older, .answered asker turn request answer :: older <:+ log →
    ∀ key, turn.isOf key = true → Follows older key request

/-- Whether an access to storage was refused. -/
def Event.isOutage : Event → Bool
  | refused _ access => access.isStorage
  | _ => false

/-- No access to storage is refused. -/
def StorageWorks (log : List Event) : Prop := ∀ event ∈ log, event.isOutage = false

instance (log : List Event) : Decidable (StorageWorks log) :=
  inferInstanceAs (Decidable (∀ event ∈ log, event.isOutage = false))

section

variable {log : List Event} {event : Event} {key : String}

theorem Turn.isOf_iff {turn : Turn} {own : String} (keyed : turn.activity.userKey = .ok own) :
    turn.isOf key = true ↔ key = own := by
  simp only [Turn.isOf, keyed, beq_iff_eq]
  exact eq_comm

theorem Event.opens_of_unbegun (unbegun : event.begins = false) (key : String) :
    event.opens key = none := by
  cases event <;> simp [opens, unbegun]

theorem Event.begins_of_unasked (unasked : event.isAnswer = false) : event.begins = false := by
  cases event <;> first | rfl | cases unasked

theorem Event.opens_of_other (other : event.turn.isOf key = false) : event.opens key = none := by
  cases event with
  | answered asker turn request answer =>
      have apart : turn.isOf key = false := other
      simp [opens, apart]
  | _ => rfl

/-- Storing a flow and loading it again leaves the exchange parameters as they were given. -/
theorem exchange_banked (asker : Asker) (turn : Turn) (request : Request) (handler : String) :
    (Flow.active handler (some (asker.banked turn request).settled)).exchange =
      asker.forwards request := by
  cases asker with
  | gate => rfl
  | application =>
      rcases request with ⟨owner, force, _ | ⟨connection, scopes⟩⟩
      · rfl
      · cases connection <;> cases scopes <;> rfl

theorem banks_of_after {other : List Event} (same : Flow.after log key = Flow.after other key) :
    Flow.banks (replay [] log) key = Flow.banks (replay [] other) key := by
  unfold Flow.after at same
  unfold Flow.banks
  rw [same]

/-- What neither begins a flow nor changes the one that is stored leaves it in progress. -/
theorem continuing_cons_of_same (unopened : event.opens key = none)
    (same : Flow.after (event :: log) key = Flow.after log key) :
    continuing key (event :: log) = continuing key log := by
  simp [continuing, unopened, banks_of_after same]

theorem Tracks.cons (tracks : Tracks log key) (unopened : event.opens key = none)
    (same : Flow.after (event :: log) key = Flow.after log key) : Tracks (event :: log) key := by
  have kept := continuing_cons_of_same unopened same
  cases tracks with
  | idle stored nothing => exact .idle (same.trans stored) (kept.trans nothing)
  | active handler banked stored continues =>
      exact .active handler banked (same.trans stored) (kept.trans continues)

theorem Coherent.cons (coherent : Coherent log)
    (follows : ∀ asker turn request answer, event = .answered asker turn request answer →
      ∀ key, turn.isOf key = true → Follows log key request) : Coherent (event :: log) := by
  intro asker turn request answer older suffix
  rcases List.suffix_cons_iff.mp suffix with same | earlier
  · cases same
    exact follows asker turn request answer rfl
  · exact coherent asker turn request answer older earlier

theorem Coherent.nil : Coherent [] := by
  intro asker turn request answer older suffix
  cases List.suffix_nil.mp suffix

theorem Coherent.cons_of_unasked (coherent : Coherent log) (unasked : event.isAnswer = false) :
    Coherent (event :: log) :=
  coherent.cons fun asker turn request answer same =>
    absurd same (Event.ne_answered unasked asker turn request answer)

theorem StorageWorks.mono {final : List Event} (works : StorageWorks final) (more : log <:+ final) :
    StorageWorks log :=
  fun event member => works event (more.subset member)

end

/-! ## Within a turn -/

/-- The documents are those of the record, its requests follow, and for all but the user of the turn
what is stored is what is in progress. -/
structure Keeps (turn : Turn) (view : View) : Prop where
  keyed : turn.activity.userKey = .ok view.state.key
  recalls : view.Recalls []
  coherent : Coherent view.log
  elsewhere : ∀ key, key ≠ view.state.key → Tracks view.log key

namespace Keeps

variable {turn : Turn} {view : View}

theorem see (keeps : Keeps turn view) {event : Event} (own : event.turn = turn)
    (silent : ∀ documents, event.apply documents = documents)
    (follows : ∀ asker request answer, event = .answered asker turn request answer →
      Follows view.log view.state.key request) : Keeps turn (view.see event) where
  keyed := keeps.keyed
  recalls := keeps.recalls.see (silent _)
  coherent := by
    apply keeps.coherent.cons
    rintro asker other request answer rfl key isOf
    obtain rfl : other = turn := own
    rw [(Turn.isOf_iff keeps.keyed).mp isOf]
    exact follows asker request answer rfl
  elsewhere := by
    intro key apart
    have other : event.turn.isOf key = false := by
      rw [own, Bool.eq_false_iff]
      exact fun isOf => apart ((Turn.isOf_iff keeps.keyed).mp isOf)
    exact (keeps.elsewhere key apart).cons (Event.opens_of_other other)
      (Flow.after_cons_of_silent silent view.log key)

theorem hold (keeps : Keeps turn view) (flow : Flow) : Keeps turn (view.hold flow) where
  keyed := by
    rw [keeps.keyed, View.hold_state, Flow.store_key]
  recalls := keeps.recalls
  coherent := keeps.coherent
  elsewhere := by
    intro key apart
    rw [View.hold_state, Flow.store_key] at apart
    exact keeps.elsewhere key apart

end Keeps

/-- What every step of a turn keeps: what the turn sees of its user's flow is what is stored, and
that is what is in progress. -/
structure Coheres (turn : Turn) (view : View) : Prop extends Keeps turn view where
  sees : Flow.load view.state = Flow.after view.log view.state.key
  tracks : Tracks view.log view.state.key

namespace Coheres

variable {turn : Turn} {view : View}

/-- What is written back is stored; the record decides whether that is the flow in progress. -/
theorem of_written (keeps : Keeps turn view) (dirty : view.state.dirty = true)
    (tracks : ∀ access, Flow.after (.accessed turn access :: view.log) view.state.key =
        Flow.load view.state → Tracks (.accessed turn access :: view.log) view.state.key) :
    Coheres turn (view.saved turn) := by
  obtain ⟨access, -, log, stored, others⟩ := View.written_of_dirty turn keeps.recalls dirty
  refine ⟨⟨?_, keeps.recalls.saved turn, ?_, ?_⟩, ?_, ?_⟩
  · rw [View.saved_key, keeps.keyed]
  · rw [log]
    exact keeps.coherent.cons_of_unasked rfl
  · intro key apart
    rw [View.saved_key] at apart
    rw [log]
    exact (keeps.elsewhere key apart).cons (Event.opens_of_unbegun rfl key) (others key apart)
  · rw [View.load_saved, View.saved_key, log]
    exact stored.symm
  · rw [View.saved_key, log]
    exact tracks access stored

theorem saved (coheres : Coheres turn view) : Coheres turn (view.saved turn) := by
  cases dirty : view.state.dirty with
  | false => rwa [View.saved_of_clean view turn dirty]
  | true =>
      refine of_written coheres.toKeeps dirty fun access stored => ?_
      exact coheres.tracks.cons (Event.opens_of_unbegun rfl _) (stored.trans coheres.sees)

theorem see (coheres : Coheres turn view) {event : Event} (own : event.turn = turn)
    (silent : ∀ documents, event.apply documents = documents) (unbegun : event.begins = false)
    (follows : ∀ asker request answer, event = .answered asker turn request answer →
      Follows view.log view.state.key request) : Coheres turn (view.see event) := by
  have same : Flow.after (event :: view.log) view.state.key =
      Flow.after view.log view.state.key := Flow.after_cons_of_silent silent _ _
  refine ⟨coheres.toKeeps.see own silent follows, ?_, ?_⟩
  · exact coheres.sees.trans same.symm
  · exact coheres.tracks.cons (Event.opens_of_unbegun unbegun _) same

theorem see_unasked (coheres : Coheres turn view) {event : Event} (own : event.turn = turn)
    (silent : ∀ documents, event.apply documents = documents) (unasked : event.isAnswer = false) :
    Coheres turn (view.see event) :=
  coheres.see own silent (Event.begins_of_unasked unasked) fun asker request answer same =>
    absurd same (Event.ne_answered unasked asker turn request answer)

theorem notice (coheres : Coheres turn view) {event : Event} (own : event.turn = turn)
    (notice : event.isNotice = true) : Coheres turn (view.see event) :=
  coheres.see_unasked own (Event.apply_of_notice notice) (Event.isAnswer_of_notice notice)

/-- Tokens and queue have no part in it. -/
theorem of_elsewhere (coheres : Coheres turn view) (tokens : TokenCache) (queue : ReplayQueue) :
    Coheres turn { view with tokens := tokens, queue := queue } :=
  ⟨⟨coheres.keyed, coheres.recalls, coheres.coherent, coheres.elsewhere⟩, coheres.sees,
    coheres.tracks⟩

/-- The other properties of the user have no part in it. -/
theorem of_state (coheres : Coheres turn view) {state : UserState}
    (key : state.key = view.state.key) (load : Flow.load state = Flow.load view.state) :
    Coheres turn { view with state := state } := by
  refine ⟨⟨?_, coheres.recalls, coheres.coherent, ?_⟩, ?_, ?_⟩
  · rw [coheres.keyed, key]
  · intro other apart
    change other ≠ state.key at apart
    rw [key] at apart
    exact coheres.elsewhere other apart
  · change Flow.load state = Flow.after view.log state.key
    rw [load, key, coheres.sees]
  · change Tracks view.log state.key
    rw [key]
    exact coheres.tracks

/-- What the turn sees of the flow makes the request follow from the record. -/
theorem follows (coheres : Coheres turn view) (asker : Asker) (request : Request)
    (asks : ∃ flow, Flow.load view.state = .ok flow ∧ asker.Asks flow request) :
    Follows view.log view.state.key request := by
  obtain ⟨flow, loaded, asks⟩ := asks
  rw [coheres.sees] at loaded
  have tracks := coheres.tracks
  refine ⟨tracks, ?_, ?_⟩
  · rw [loaded]
    cases flow with
    | idle => exact iff_of_true asks rfl
    | active handler banked =>
        rw [asks.2]
        exact iff_of_false Bool.false_ne_true fun same => by cases same
  · intro expected continues
    cases tracks with
    | idle stored nothing =>
        rw [nothing] at continues
        cases continues
    | active handler banked stored expects =>
        rw [stored] at loaded
        cases loaded
        rw [expects] at continues
        cases continues
        exact asks.2

theorem hear (coheres : Coheres turn view) (asker : Asker) (request : Request)
    (answer : Except Error Response)
    (unbegun : (Event.answered asker turn request answer).begins = false)
    (asks : ∃ flow, Flow.load view.state = .ok flow ∧ asker.Asks flow request) :
    Coheres turn (view.hear asker turn request answer) := by
  obtain ⟨tokens, heard⟩ := View.hear_eq view turn asker request answer
  rw [heard]
  have follows := coheres.follows asker request asks
  refine (coheres.of_elsewhere tokens view.queue).see rfl (fun _ => rfl) unbegun ?_
  rintro _ _ _ ⟨⟩
  exact follows

theorem part (coheres : Coheres turn view) (way : Withdrawal) (handler : String)
    (outcome : Except Error Unit) : Coheres turn (view.part turn way handler outcome) := by
  have parted : Coheres turn (view.see (.withdrew turn way handler outcome)) :=
    coheres.see_unasked rfl (fun _ => rfl) rfl
  cases outcome with
  | error error => exact parted
  | ok _ => exact parted.of_elsewhere _ _

theorem enqueue (coheres : Coheres turn view) (activity : Activity) (queue : ReplayQueue) :
    Coheres turn (view.enqueue turn activity queue) :=
  (coheres.of_elsewhere view.tokens queue).see_unasked rfl (fun _ => rfl) rfl

/-- Clearing the flow and writing that back ends what is in progress. -/
theorem cleared (coheres : Coheres turn view) : Coheres turn ((view.hold .idle).saved turn) := by
  have key : (view.hold .idle).state.key = view.state.key := Flow.store_key .idle view.state
  have load : Flow.load (view.hold .idle).state = .ok .idle := Flow.load_store .idle view.state
  have keeps := coheres.toKeeps.hold .idle
  cases coheres.tracks with
  | idle stored nothing =>
      refine saved ⟨keeps, ?_, ?_⟩
      · rw [load, key]
        exact stored.symm
      · rw [key]
        exact .idle stored nothing
  | active handler banked active continues =>
      have dirty := Flow.store_idle_dirty (coheres.sees.trans active)
      refine of_written keeps dirty fun access stored => ?_
      rw [key, load] at stored
      rw [key]
      have before : Flow.banks (replay [] view.log) view.state.key = true :=
        (Flow.banks_iff _ _).mpr ⟨handler, banked, active⟩
      have after : Flow.banks (replay [] (.accessed turn access :: view.log)) view.state.key =
          false := by
        rw [Bool.eq_false_iff]
        intro banks
        obtain ⟨owner, payload, still⟩ := (Flow.banks_iff _ _).mp banks
        cases stored.symm.trans still
      refine .idle stored ?_
      have ended : continuing view.state.key (.accessed turn access :: view.log) = none := by
        simp only [continuing, Event.opens, before, after, Bool.not_false, Bool.and_self, if_true]
      exact ended

/-- A flow begins, and what it banks decides how it is continued. -/
theorem began (coheres : Coheres turn view) {asker : Asker} {request : Request}
    {response : Response} (idle : Flow.load view.state = .ok .idle) (forced : request.force = true)
    (pending : response.effective.status = .pending) :
    Coheres turn (((view.hear asker turn request (.ok response)).hold
      (.active request.handler (some (asker.banked turn request)))).saved turn) := by
  have follows := coheres.follows asker request ⟨.idle, idle, forced⟩
  have stored : Flow.after view.log view.state.key = .ok .idle := coheres.sees.symm.trans idle
  obtain ⟨tokens, heard⟩ := View.hear_eq view turn asker request (.ok response)
  have hears : Keeps turn (view.hear asker turn request (.ok response)) := by
    rw [heard]
    refine (coheres.of_elsewhere tokens view.queue).toKeeps.see rfl (fun _ => rfl) ?_
    rintro _ _ _ ⟨⟩
    exact follows
  refine of_written (hears.hold _) (Flow.store_active_dirty _ _ _) fun access written => ?_
  rw [View.hold_state, Flow.store_key, Flow.load_store, View.hear_state] at written
  rw [View.hold_state, Flow.store_key, View.hear_state]
  rw [View.hold_log, View.hear_log] at written ⊢
  have opens : (Event.answered asker turn request (.ok response)).opens view.state.key =
      some ⟨request.handler, false, asker.forwards request⟩ := by
    have isOf : turn.isOf view.state.key = true := (Turn.isOf_iff coheres.keyed).mpr rfl
    simp [Event.opens, Event.begins, isOf, forced, pending]
  have before : Flow.banks (replay [] (.answered asker turn request (.ok response) :: view.log))
      view.state.key = false := by
    rw [Bool.eq_false_iff]
    intro banks
    obtain ⟨owner, payload, active⟩ := (Flow.banks_iff _ _).mp banks
    cases stored.symm.trans active
  refine .active request.handler (asker.banked turn request).settled written ?_
  rw [exchange_banked, continuing]
  simp only [before, Bool.false_and, Bool.false_eq_true, if_false]
  simp only [continuing, opens]
  rfl

/-- Where storage works, what a turn stores is stored, and notices may follow. -/
theorem of_persists {flow : Flow} {report : List Event} {after : View}
    (stored : Coheres turn ((view.hold flow).saved turn)) (works : StorageWorks after.log)
    (notices : Notices turn report) (persists : Persists turn flow report view after) :
    Coheres turn after := by
  revert works
  refine persists.keeps (fun _ => stored) ?_ ?_
  · intro access storage works
    cases storage.symm.trans (works _ List.mem_cons_self)
  · intro event member earlier before works
    obtain ⟨own, notice⟩ := notices event member
    exact (before (works.mono (List.suffix_cons _ _))).notice own notice

theorem step {auth : Authenticator σ} {after : View} (coheres : Coheres turn view)
    (works : StorageWorks after.log) (step : auth.Step turn view after) : Coheres turn after := by
  cases step with
  | heard asker request answer unbegun quiet asks =>
      exact coheres.hear asker request answer unbegun asks
  | balked request answer activity asks continued =>
      have unbegun : (Event.answered .gate turn request answer).begins = false := by
        cases answer <;> simp [Event.begins, continued]
      exact (coheres.hear .gate request answer unbegun asks).see_unasked rfl
        (fun _ => rfl) rfl
  | refused access storage =>
      cases storage.symm.trans (works _ List.mem_cons_self)
  | disappointed request response idle failed forced =>
      have unbegun : (Event.answered .application turn request (.ok response)).begins = false := by
        simp [Event.begins, failed]
      exact (coheres.hear .application request _ unbegun ⟨.idle, idle, forced⟩).notice rfl rfl
  | admitted => exact coheres.notice rfl rfl
  | told report => exact coheres.notice rfl rfl
  | began asker request response idle known forced pending persists =>
      exact (coheres.began idle forced pending).of_persists works (notices_nil turn) persists
  | handedOn handler banked exchange response activity queue active _ _ persists forwards =>
      subst forwards
      have heard := coheres.hear .gate _ (.ok response) rfl ⟨_, active, rfl, rfl⟩
      exact (heard.enqueue activity queue).cleared.of_persists works (notices_nil turn)
        persists
  | proceeded handler trigger exchange response active complete own persists forwards =>
      subst forwards
      have heard := coheres.hear .gate _ (.ok response) rfl ⟨_, active, rfl, rfl⟩
      exact heard.cleared.of_persists works (notices_admitted turn) persists
  | gaveUp handler trigger exchange response now active failed persists forwards =>
      subst forwards
      have heard := coheres.hear .gate _ (.ok response) rfl ⟨_, active, rfl, rfl⟩
      exact heard.cleared.of_persists works (auth.notices_failureEvent turn _ now) persists
  | settled flow request response report loaded empty reports persists asks =>
      have concluded : response.effective.status ≠ .pending := by
        cases reports with
        | success complete => simp [complete]
        | failure failed now => simp [failed]
      have unbegun : (Event.answered .gate turn request (.ok response)).begins = false := by
        simp [Event.begins, concluded]
      have heard := coheres.hear .gate request _ unbegun ⟨flow, loaded, asks⟩
      exact heard.cleared.of_persists works reports.notices persists
  | parted way handler outcome other => exact coheres.part way handler outcome
  | withdrawn way handler banked active persists =>
      exact (coheres.part way handler (.ok ())).cleared.of_persists works (notices_nil turn)
        persists
  | set name value foreign => exact coheres.of_state rfl (Flow.load_set view.state value foreign)
  | remove name foreign =>
      exact coheres.of_state (UserState.remove_key view.state) (Flow.load_remove view.state foreign)
  | saved => exact coheres.saved

theorem comes {auth : Authenticator σ} {after : View} (coheres : Coheres turn view)
    (works : StorageWorks after.log) (comes : Call.Comes auth turn view after) :
    Coheres turn after := by
  rcases comes with reaches | completes
  · induction reaches with
    | refl => exact coheres
    | tail _ step ih =>
        exact (ih (works.mono (View.adds_of_step turn step).suffix)).step works step
  · cases completes with
    | nothing => exact coheres
    | reported event response report redelivered decoded carried tells =>
        exact coheres.notice tells.notice.1 tells.notice.2

end Coheres

/-! ## Turn after turn -/

/-- What turns leave to one another: the documents are those of the record, its requests follow, and
what is stored for each user is what is in progress. -/
structure Standing.Coherent (standing : Standing) : Prop where
  recalls : standing.documents = replay [] standing.log
  coherent : SignInFlow.Coherent standing.log
  tracks : ∀ key, Tracks standing.log key

namespace Standing.Coherent

variable {standing : Standing} {turn : Turn} {view : View}

theorem initial (host : σ) : (World.initial (⟨host, []⟩ : Recorded σ)).standing.Coherent where
  recalls := rfl
  coherent := .nil
  tracks := fun _ => .idle rfl rfl

/-- What is no answer and changes no document leaves it so. -/
theorem see (coherent : standing.Coherent) {event : Event}
    (silent : ∀ documents, event.apply documents = documents) (unasked : event.isAnswer = false) :
    (standing.see event).Coherent where
  recalls := by
    change standing.documents = event.apply (replay [] standing.log)
    rw [silent, coherent.recalls]
  coherent := coherent.coherent.cons_of_unasked unasked
  tracks := by
    intro key
    have unbegun := Event.begins_of_unasked unasked
    exact (coherent.tracks key).cons (Event.opens_of_unbegun unbegun key)
      (Flow.after_cons_of_silent silent standing.log key)

/-- A turn that has loaded its user's state sees what is stored. -/
theorem loads (coherent : standing.Coherent) (loads : view.Loads turn standing) :
    Coheres turn view := by
  have read : view.standing.Coherent := by
    rw [loads.standing]
    exact coherent.see (fun _ => rfl) rfl
  have documents : view.documents = standing.documents := congrArg Standing.documents loads.standing
  refine ⟨⟨loads.keyed, read.recalls, read.coherent, fun key _ => read.tracks key⟩, ?_,
    read.tracks _⟩
  have stored := Flow.load_eq_stored loads.stored
  rw [← documents, show view.documents = replay [] view.log from read.recalls] at stored
  exact stored

theorem left (coheres : Coheres turn view) : view.standing.Coherent where
  recalls := coheres.recalls
  coherent := coheres.coherent
  tracks := by
    intro key
    by_cases own : key = view.state.key
    · exact own ▸ coheres.tracks
    · exact coheres.elsewhere key own

end Standing.Coherent

namespace Errand

variable {auth : Authenticator σ} {services : Services σ}

theorem log_suffix_of_makeCalls {turn : Turn} (calls : List (Call σ)) (scope : Scope (Recorded σ)) :
    scope.view.log <:+ (makeCallsRecorded auth services turn calls scope).view.log := by
  induction calls generalizing scope with
  | nil => exact List.suffix_rfl
  | cons call rest ih =>
      have comes := call.comes_performRecorded auth services turn scope
      exact (Call.adds_of_comes comes).suffix.trans (ih _)

theorem coheres_makeCalls {turn : Turn} (calls : List (Call σ)) {scope : Scope (Recorded σ)}
    (coheres : Coheres turn scope.view)
    (works : StorageWorks (makeCallsRecorded auth services turn calls scope).view.log) :
    Coheres turn (makeCallsRecorded auth services turn calls scope).view := by
  induction calls generalizing scope with
  | nil => exact coheres
  | cons call rest ih =>
      have comes := call.comes_performRecorded auth services turn scope
      exact ih (coheres.comes (works.mono (log_suffix_of_makeCalls rest _)) comes) works

variable {errand : Errand σ} {world : World (Recorded σ)}

theorem log_suffix_of_perform (errand : Errand σ) (world : World (Recorded σ)) :
    world.host.log <:+ (errand.performRecorded auth services world).host.log := by
  have seen {after : World (Recorded σ)} {event : Event}
      (same : after.standing = world.standing.see event) : world.host.log <:+ after.host.log := by
    have log : after.host.log = event :: world.host.log := congrArg Standing.log same
    rw [log]
    exact List.suffix_cons _ _
  rcases performRecorded_cases auth services errand world with
    ⟨loaded, loads, -, performed⟩ | ⟨-, same | ⟨access, same⟩ | ⟨key, same⟩⟩
  · rw [performed]
    have read : world.host.log <:+ loaded.world.host.log := seen loads.standing
    exact read.trans (log_suffix_of_makeCalls errand.calls loaded)
  · have log : (errand.performRecorded auth services world).host.log = world.host.log :=
      congrArg Standing.log same
    rw [log]
  · exact seen same
  · exact seen same

theorem coherent_perform (coherent : world.standing.Coherent)
    (works : StorageWorks (errand.performRecorded auth services world).host.log) :
    (errand.performRecorded auth services world).standing.Coherent := by
  rcases performRecorded_cases auth services errand world with
    ⟨loaded, loads, -, performed⟩ | ⟨-, same | ⟨access, same⟩ | ⟨key, same⟩⟩
  · rw [performed] at works ⊢
    exact Standing.Coherent.left (coheres_makeCalls errand.calls (coherent.loads loads) works)
  · rwa [same]
  · rw [same]
    exact coherent.see (fun _ => rfl) rfl
  · rw [same]
    exact coherent.see (fun _ => rfl) rfl

theorem coheres_reached (coherent : world.standing.Coherent) {scope : Scope (Recorded σ)}
    (reached : errand.reached auth services world = some scope)
    (works : StorageWorks scope.view.log) : Coheres errand.turn scope.view := by
  rcases performRecorded_cases auth services errand world with
    ⟨loaded, loads, calls, -⟩ | ⟨unread, -⟩
  · obtain rfl := Option.some.inj (reached.symm.trans calls)
    exact coheres_makeCalls errand.calls (coherent.loads loads) works
  · rw [unread] at reached
    cases reached

end Errand

namespace World

/-- What becomes of a world next, before a recorded host. -/
def advanceRecorded (auth : Authenticator σ) (services : Services σ) (world : World (Recorded σ)) :
    Occasion σ → World (Recorded σ)
  | .errand errand => errand.performRecorded auth services world
  | .elsewhere tokens queue host =>
      { world with tokens := tokens, queue := queue, host := { world.host with host := host } }

/-- What becomes of a world in the end, before a recorded host. -/
def runRecorded (auth : Authenticator σ) (services : Services σ) (world : World (Recorded σ))
    (occasions : List (Occasion σ)) : World (Recorded σ) :=
  occasions.foldl (advanceRecorded auth services) world

variable {auth : Authenticator σ} {services : Services σ}

theorem erase_runRecorded (world : World (Recorded σ)) (occasions : List (Occasion σ)) :
    (runRecorded auth services world occasions).erase =
      world.erase.run auth services occasions := by
  induction occasions generalizing world with
  | nil => rfl
  | cons occasion rest ih =>
      have first : (advanceRecorded auth services world occasion).erase =
          world.erase.advance auth services occasion := by
        cases occasion with
        | errand errand => exact Errand.erase_perform auth services errand world
        | elsewhere tokens queue host => rfl
      simp only [runRecorded, run, List.foldl_cons] at ih ⊢
      rw [ih, first]

theorem log_suffix_of_run (world : World (Recorded σ)) (occasions : List (Occasion σ)) :
    world.host.log <:+ (runRecorded auth services world occasions).host.log := by
  induction occasions generalizing world with
  | nil => exact List.suffix_rfl
  | cons occasion rest ih =>
      refine List.IsSuffix.trans ?_ (ih (advanceRecorded auth services world occasion))
      cases occasion with
      | errand errand => exact Errand.log_suffix_of_perform errand world
      | elsewhere tokens queue host => exact List.suffix_rfl

theorem coherent_run {world : World (Recorded σ)} (coherent : world.standing.Coherent)
    (occasions : List (Occasion σ))
    (works : StorageWorks (runRecorded auth services world occasions).host.log) :
    (runRecorded auth services world occasions).standing.Coherent := by
  induction occasions generalizing world with
  | nil => exact coherent
  | cons occasion rest ih =>
      have first : (advanceRecorded auth services world occasion).standing.Coherent := by
        cases occasion with
        | errand errand =>
            exact Errand.coherent_perform coherent (works.mono (log_suffix_of_run _ rest))
        | elsewhere tokens queue host =>
            exact ⟨coherent.recalls, coherent.coherent, coherent.tracks⟩
      exact ih first works

end World

/-- While a flow is active, an explicit sign-in fails and changes nothing. -/
theorem Authenticator.signIn_of_active (auth : Authenticator σ) (services : Services σ)
    (turn : Turn) (handler : String) (exchange : Option Exchange) {scope : Scope σ}
    {owner : String} {banked : Option Banked} (running : scope.cancelled = false)
    (active : Flow.load scope.state = .ok (.active owner banked)) :
    auth.signIn services turn handler exchange scope =
      .error (.alreadyActive owner handler) scope := by
  apply Ends.eq_error
  unfold signIn
  simp only [ends_bind, TurnAction.ends_ensureNotCancelled, TurnAction.ends_flow, running, active]
  simp

/-- In a turn that is cancelled, an explicit sign-in fails and changes nothing. -/
theorem Authenticator.signIn_of_cancelled (auth : Authenticator σ) (services : Services σ)
    (turn : Turn) (handler : String) (exchange : Option Exchange) {scope : Scope σ}
    (cancelled : scope.cancelled = true) :
    auth.signIn services turn handler exchange scope = .error .cancelled scope := by
  apply Ends.eq_error
  unfold signIn
  simp only [ends_bind, TurnAction.ends_ensureNotCancelled, cancelled, if_true, and_self]

/-- A user has one coherent flow at most.  While storage works and turns follow one another, every
request of a handler follows from the record: it forces a new start exactly if no flow of the user
is stored, and otherwise names the handler and the exchange parameters with which the flow in
progress began.  In the meantime an explicit sign-in, for whatever handler, fails and changes
nothing. -/
theorem one_coherent_flow (auth : Authenticator σ) (services : Services σ) (host : σ)
    (occasions : List (Occasion σ))
    (works : StorageWorks
      ((World.initial ⟨host, []⟩).runRecorded auth services occasions).host.log) :
    ((World.initial ⟨host, []⟩).runRecorded auth services occasions).erase =
        (World.initial host).run auth services occasions ∧
      Coherent ((World.initial ⟨host, []⟩).runRecorded auth services occasions).host.log ∧
      ∀ errand : Errand σ, ∀ scope, errand.reached auth services
          ((World.initial ⟨host, []⟩).runRecorded auth services occasions) = some scope →
        StorageWorks scope.view.log → scope.cancelled = false →
          ∀ request, continuing scope.state.key scope.view.log = some request →
            ∀ handler exchange,
              (auth.recorded .application).signIn (services.recorded errand.turn) errand.turn
                handler exchange scope =
                  .error (.alreadyActive request.handler handler) scope := by
  have coherent := World.coherent_run (Standing.Coherent.initial host) occasions works
  refine ⟨World.erase_runRecorded _ occasions, coherent.coherent, ?_⟩
  intro errand scope reached working running request continues handler exchange
  have coheres := Errand.coheres_reached coherent reached working
  cases coheres.tracks with
  | idle stored nothing => cases nothing.symm.trans continues
  | active owner banked stored expects =>
      obtain rfl := Option.some.inj (expects.symm.trans continues)
      exact Authenticator.signIn_of_active _ _ errand.turn handler exchange running
        (coheres.sees.trans stored)

/-- Another turn of the user who has signed in at the sample site, before it calls anything. -/
def sampleAgain : Errand Nat where
  turn := ⟨.message "chat" "ada" "room" "sign in again", false⟩
  cancelled := false
  calls := []

/-- Once the sign-in of the sample site is pending, another one fails, with whatever handler. -/
theorem sample_already_active : ∃ scope,
    sampleAgain.reached Site.sample.auth Site.sample.services
        ((World.initial ⟨0, []⟩).runRecorded Site.sample.auth Site.sample.services
          [.errand sampleSignIn]) = some scope ∧
      ∀ handler exchange,
        (Site.sample.auth.recorded .application).signIn
          (Site.sample.services.recorded sampleAgain.turn) sampleAgain.turn handler exchange scope =
            .error (.alreadyActive "code" handler) scope := by
  obtain ⟨-, -, fails⟩ := one_coherent_flow Site.sample.auth Site.sample.services 0
    [.errand sampleSignIn] (by decide +kernel)
  have ready : (sampleAgain.reached Site.sample.auth Site.sample.services
      ((World.initial ⟨0, []⟩).runRecorded Site.sample.auth Site.sample.services
        [.errand sampleSignIn])).any (fun scope => decide (StorageWorks scope.view.log ∧
          scope.cancelled = false ∧ continuing scope.state.key scope.view.log =
            some ⟨"code", false, none⟩)) = true := by
    decide +kernel
  obtain ⟨scope, reached, ready⟩ := (Option.any_eq_true _ _).mp ready
  obtain ⟨works, running, continues⟩ := of_decide_eq_true ready
  exact ⟨scope, reached, fails sampleAgain scope reached works running _ continues⟩

end SignInFlow
