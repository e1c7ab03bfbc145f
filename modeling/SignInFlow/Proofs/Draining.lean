import SignInFlow.Proofs.Ledger
import SignInFlow.Proofs.Sessions
import SignInFlow.Proofs.Working

/-!
# Draining ends

A replayed turn may queue another activity, and may start another flow.  It queues one only for the
flow that it clears, and starts one at most, so that what waits, counted twice, and the users with a
flow are fewer after every replay.
-/

namespace SignInFlow

variable {σ α : Type}

/-! ## The load -/

namespace Flow

/-- Whether a flow is stored for a user. -/
def runs (documents : Dictionary Json) (key : String) : Bool :=
  match stored documents key with
  | .ok flow => flow.isActive
  | .error _ => false

/-- The users for whom a flow is stored. -/
def running (documents : Dictionary Json) : Finset String :=
  (documents.map Prod.fst).toFinset.filter fun key => runs documents key = true

variable {documents left : Dictionary Json} {key : String}

theorem mem_running : key ∈ running documents ↔ runs documents key = true := by
  simp only [running, Finset.mem_filter, List.mem_toFinset, and_iff_right_iff_imp]
  intro runs
  refine mem_of_stored fun idle => ?_
  simp [Flow.runs, idle, isActive] at runs

theorem card_running_le (documents : Dictionary Json) :
    (running documents).card ≤ documents.length := by
  calc (running documents).card
      ≤ (documents.map Prod.fst).toFinset.card := Finset.card_filter_le _ _
    _ ≤ (documents.map Prod.fst).length := List.toFinset_card_le _
    _ = documents.length := List.length_map _

/-- Who has a flow after the documents of one user have changed. -/
theorem running_subset
    (others : ∀ other, other ≠ key → stored left other = stored documents other) :
    running left ⊆ insert key (running documents) := by
  intro other runs
  by_cases own : other = key
  · exact own ▸ Finset.mem_insert_self _ _
  · rw [mem_running, Flow.runs, others other own] at runs
    exact Finset.mem_insert_of_mem (mem_running.mpr runs)

/-- One user has one flow at most. -/
theorem card_running_le_add
    (others : ∀ other, other ≠ key → stored left other = stored documents other) :
    (running left).card ≤ (running documents).card + 1 :=
  (Finset.card_le_card (running_subset others)).trans (Finset.card_insert_le _ _)

/-- Clearing a flow takes its user away. -/
theorem card_running_lt
    (others : ∀ other, other ≠ key → stored left other = stored documents other)
    {handler : String} {banked : Option Banked}
    (active : stored documents key = .ok (.active handler banked))
    (cleared : stored left key = .ok .idle) :
    (running left).card < (running documents).card := by
  have runs : key ∈ running documents := mem_running.mpr (by simp [Flow.runs, active, isActive])
  have gone : key ∉ running left := by simp [mem_running, Flow.runs, cleared, isActive]
  refine Finset.card_lt_card ⟨?_, fun subset => gone (subset runs)⟩
  intro other member
  rcases Finset.mem_insert.mp (running_subset others member) with rfl | kept
  · exact absurd member gone
  · exact kept

end Flow

/-- What is to be done: two for each activity that waits, and one for each user with a flow. -/
def backlog (waiting : List Activity) (documents : Dictionary Json) : Nat :=
  2 * waiting.length + (Flow.running documents).card

/-- What is to be done in a world. -/
def World.backlog (world : World σ) : Nat :=
  SignInFlow.backlog world.queue.waiting world.documents

/-- The bound that is set in advance is high enough. -/
theorem World.backlog_le_bound (world : World σ) : world.backlog ≤ Replay.bound world :=
  Nat.add_le_add_left (Flow.card_running_le world.documents) _

/-! ## What a turn leaves -/

/-- Storage refuses nothing. -/
def Services.Stores (services : Services σ) : Prop :=
  ∀ access : Access, access.isStorage = true → ∀ host, ∃ left,
    services.permit access host = .ok () left

theorem Services.Stores.permits {services : Services σ} (stores : services.Stores)
    {access : Access} (storage : access.isStorage = true) {error : Error} :
    ¬ services.Refuses access error := by
  rintro ⟨host, left, refused⟩
  obtain ⟨_, permitted⟩ := stores access storage host
  cases refused.symm.trans permitted

/-- A turn has queued nothing, and touched no document but that of its user. -/
structure View.Aside (documents : Dictionary Json) (key : String) (queue : ReplayQueue)
    (view : View) : Prop where
  own : view.state.key = key
  others : ∀ other, other ≠ key → Flow.stored view.documents other = Flow.stored documents other
  unqueued : view.queue = queue

/-- A turn has cleared the flow of its user, and has queued one activity in place of it. -/
structure View.Discharged (documents : Dictionary Json) (key : String) (queue : ReplayQueue)
    (view : View) : Prop where
  own : view.state.key = key
  others : ∀ other, other ≠ key → Flow.stored view.documents other = Flow.stored documents other
  queued : ∃ activity, queue.submit activity = .ok view.queue
  active : ∃ handler banked, Flow.stored documents key = .ok (.active handler banked)
  cleared : Flow.stored view.documents key = .ok .idle
  sees : Flow.load view.state = .ok .idle

section

variable {documents : Dictionary Json} {key : String} {queue : ReplayQueue} {view after : View}
  {services : Services σ} {turn : Turn} {flow : Flow} {value : α} {outcome : Except Error α}

namespace View.Aside

theorem saved (aside : view.Aside documents key queue) (turn : Turn) :
    (view.saved turn).Aside documents key queue where
  own := by rw [View.saved_key, aside.own]
  others other differs := by
    rw [View.stored_saved_of_ne view turn (aside.own ▸ differs), aside.others other differs]
  unqueued := by rw [View.saved_queue, aside.unqueued]

theorem hold (aside : view.Aside documents key queue) (flow : Flow) :
    (view.hold flow).Aside documents key queue :=
  ⟨by rw [View.hold_state, Flow.store_key, aside.own], aside.others, aside.unqueued⟩

theorem see (aside : view.Aside documents key queue) (event : Event) :
    (view.see event).Aside documents key queue := ⟨aside.own, aside.others, aside.unqueued⟩

theorem hear (aside : view.Aside documents key queue) (asker : Asker) (request : Request)
    (answer : Except Error Response) :
    (view.hear asker turn request answer).Aside documents key queue := by
  obtain ⟨tokens, heard⟩ := View.hear_eq view turn asker request answer
  rw [heard]
  exact ⟨aside.own, aside.others, aside.unqueued⟩

theorem part (aside : view.Aside documents key queue) (way : Withdrawal) (handler : String)
    (outcome : Except Error Unit) :
    (view.part turn way handler outcome).Aside documents key queue := by
  cases outcome <;> exact ⟨aside.own, aside.others, aside.unqueued⟩

theorem writes (aside : view.Aside documents key queue)
    (writes : services.Writes turn flow value view outcome after) :
    after.Aside documents key queue := by
  cases writes with
  | kept => exact (aside.hold flow).saved turn
  | refused access error storage refuses => exact (aside.hold flow).see _

end View.Aside

namespace View.Discharged

theorem see (discharged : view.Discharged documents key queue) (event : Event) :
    (view.see event).Discharged documents key queue :=
  ⟨discharged.own, discharged.others, discharged.queued, discharged.active, discharged.cleared,
    discharged.sees⟩

theorem saved (discharged : view.Discharged documents key queue) (turn : Turn) :
    (view.saved turn).Discharged documents key queue where
  own := by rw [View.saved_key, discharged.own]
  others other differs := by
    rw [View.stored_saved_of_ne view turn (discharged.own ▸ differs)]
    exact discharged.others other differs
  queued := by
    rw [View.saved_queue]
    exact discharged.queued
  active := discharged.active
  cleared := by
    rcases View.stored_saved view turn key with kept | ⟨-, written⟩
    · exact kept.trans discharged.cleared
    · exact written.trans discharged.sees
  sees := (View.load_saved view turn).trans discharged.sees

end View.Discharged

/-- What a turn has queued is offset by the flow that it has cleared. -/
def View.Offset (documents : Dictionary Json) (key : String) (queue : ReplayQueue) (view : View) :
    Prop :=
  view.Aside documents key queue ∨ view.Discharged documents key queue

theorem View.Offset.see (offset : view.Offset documents key queue) (event : Event) :
    (view.see event).Offset documents key queue :=
  offset.imp (fun aside => aside.see event) fun discharged => discharged.see event

theorem View.Offset.saved (offset : view.Offset documents key queue) (turn : Turn) :
    (view.saved turn).Offset documents key queue :=
  offset.imp (fun aside => aside.saved turn) fun discharged => discharged.saved turn

/-- What is to be done grows by one at most in a turn. -/
theorem View.Offset.backlog_le (offset : view.Offset documents key queue) :
    backlog view.queue.waiting view.documents ≤ backlog queue.waiting documents + 1 := by
  unfold backlog
  rcases offset with aside | discharged
  · have flows := Flow.card_running_le_add aside.others
    rw [aside.unqueued]
    omega
  · obtain ⟨-, others, ⟨activity, accepted⟩, ⟨handler, banked, active⟩, cleared, -⟩ := discharged
    have flows := Flow.card_running_lt others active cleared
    rw [(ReplayQueue.eq_of_submit accepted).1, List.length_append, List.length_singleton]
    omega

/-! ## The gate -/

/-- Where storage works, a flow is cleared once its continuation is queued. -/
theorem Services.HandsOn.aside_or_discharged {activity : Activity} (stores : services.Stores)
    (aside : view.Aside documents key queue)
    (active : ∃ handler banked, Flow.stored documents key = .ok (.active handler banked))
    {handler : String} {banked : Option Banked}
    (loaded : Flow.load view.state = .ok (.active handler banked))
    (hands : services.HandsOn turn activity value view outcome after) :
    after.Aside documents key queue ∨
      outcome = .ok value ∧ after.Discharged documents key queue := by
  cases hands with
  | balked error refuses => exact .inl (aside.see _)
  | closed error rejected => exact .inl aside
  | queued left accepted writes =>
      cases writes with
      | refused access error storage refuses => exact absurd refuses (stores.permits storage)
      | kept =>
          let held := (view.enqueue turn activity left).hold .idle
          have own : held.state.key = key := (Flow.store_key _ _).trans aside.own
          have dirty : held.state.dirty = true := Flow.store_idle_dirty loaded
          refine .inr ⟨rfl, by rw [View.saved_key, own], fun other differs => ?_,
            ⟨activity, ?_⟩, active, ?_, ?_⟩
          · rw [View.stored_saved_of_ne held turn (own ▸ differs)]
            exact aside.others other differs
          · rw [View.saved_queue, ← aside.unqueued]
            exact accepted
          · rw [← own, View.stored_saved_of_dirty held turn dirty]
            exact Flow.load_store .idle _
          · rw [View.load_saved]
            exact Flow.load_store .idle _

end

namespace Authenticator

section

variable {documents : Dictionary Json} {key handler : String} {queue : ReplayQueue}
  {view after : View} {auth : Authenticator σ} {services : Services σ} {turn : Turn}
  {response : Response} {cancelled : Bool}

theorem Settles.aside_or_discharged {flow : Flow} {outcome : Except Error Bool}
    (stores : services.Stores) (aside : view.Aside documents key queue)
    (loaded : Flow.load view.state = .ok flow) (stored : Flow.stored documents key = .ok flow)
    (settles : auth.Settles services turn flow handler response view outcome after) :
    after.Aside documents key queue ∨
      outcome = .ok false ∧ after.Discharged documents key queue := by
  cases settles with
  | stays active pending => exact .inl aside
  | begins idle pending writes => exact .inl (aside.writes writes)
  | sticks failed ends error writes => exact .inl (aside.writes writes)
  | reports failed ends writes now outcome told => exact .inl ((aside.writes writes).see _)
  | goesOn complete ends writes => exact .inl (aside.writes writes)
  | handsOn banked holds activity continues hands =>
      cases flow with
      | idle => cases holds
      | active owner payload =>
          exact hands.aside_or_discharged stores aside ⟨owner, payload, stored⟩ loaded

/-- A turn that goes on from the gate has queued nothing, and one that has queued an activity has
cleared the flow of its user. -/
theorem Passage.aside_or_discharged {requested : Option String} {outcome : Except Error Bool}
    (stores : services.Stores) (aside : view.Aside documents key queue)
    (stored : Flow.stored documents key = Flow.load view.state)
    (passage : auth.Passage services turn requested cancelled view outcome after) :
    after.Aside documents key queue ∨
      outcome = .ok false ∧ after.Discharged documents key queue := by
  cases passage with
  | halted late => exact .inl aside
  | garbled timely error unread => exact .inl aside
  | waved timely idle => exact .inl aside
  | unknown timely error idle missing => exact .inl aside
  | faulted timely flow handler loaded chosen error faults => exact .inl (aside.see _)
  | answered timely flow handler loaded chosen answer settles =>
      refine settles.aside_or_discharged stores (aside.hear _ _ _) ?_ (stored.trans loaded)
      rw [View.hear_state, loaded]

/-! ## The application -/

variable {exchange : Option Exchange} {outcome : Except Error Unit}

theorem Announces.aside {report : Success} (aside : view.Aside documents key queue)
    (announces : Announces turn report view after) : after.Aside documents key queue := by
  cases announces with
  | silently => exact aside
  | aloud => exact aside.see _

theorem Decides.aside (aside : view.Aside documents key queue)
    (decides : auth.Decides services turn handler exchange response view outcome after) :
    after.Aside documents key queue := by
  cases decides with
  | begins pending writes => exact aside.writes writes
  | returns failed silent => exact aside
  | reports failed outcome => exact aside.see _
  | accepts complete outcome announces => exact announces.aside aside

theorem Entry.aside (aside : view.Aside documents key queue)
    (entry : auth.Entry services turn handler exchange cancelled view outcome after) :
    after.Aside documents key queue := by
  cases entry with
  | halted late => exact aside
  | garbled timely error unread => exact aside
  | occupied timely owner banked active => exact aside
  | unknown timely idle missing => exact aside
  | remembered timely idle known token kept outcome announces => exact announces.aside aside
  | faulted timely idle known error faults => exact aside.see _
  | answered timely idle known answer decides => exact decides.aside (aside.hear _ _ _)

end

variable {documents : Dictionary Json} {key : String} {queue : ReplayQueue}
  (auth : Authenticator σ) (services : Services σ) (turn : Turn)

theorem aside_clear : Preserves (View.Aside documents key queue)
    (TurnAction.persist (services.recorded turn) .idle) := fun _ aside =>
  (ends_writes services turn .idle ()).mono (fun _ _ => aside.writes) fun _ _ => aside.writes

theorem aside_save : Preserves (View.Aside documents key queue)
    (TurnAction.save (services.recorded turn)) := by
  intro scope aside
  refine (TurnAction.ends_save services turn).mono ?_ ?_
  · intro _ after saved
    rw [saved]
    exact aside.saved turn
  · rintro _ after ⟨-, access, -, -, refused⟩
    rw [refused]
    exact aside.see _

/-- An application queues nothing. -/
theorem aside_perform (conduct : Conduct σ) : Preserves (View.Aside documents key queue)
    (conduct.recorded.perform (auth.recorded .application) (services.recorded turn) turn) := by
  refine preserves_perform (fun _ _ _ _ aside => aside.part _ _ _) (aside_clear services turn)
    (fun handler exchange scope aside => ?_) (aside_save services turn)
    (fun _ _ _ aside => ⟨aside.own, aside.others, aside.unqueued⟩)
    (fun _ _ aside => ⟨?_, aside.others, aside.unqueued⟩) conduct
  · exact (auth.yields_signIn services turn handler exchange).mono (fun _ _ => Entry.aside aside)
      (fun _ _ => Entry.aside aside)
  · rw [UserState.remove_key, aside.own]

end Authenticator

/-! ## Turns -/

namespace Site

variable (site : Site σ)

theorem ends_route_offset (stores : site.services.Stores) (turn : Turn)
    {scope : Scope (Recorded σ)} {before : Standing} (loads : scope.view.Loads turn before) :
    Ends (site.recorded.gateway.route (site.services.recorded turn) turn) scope
      (fun _ after => after.view.Offset before.documents scope.state.key scope.world.queue)
      (fun _ after => after.view.Offset before.documents scope.state.key scope.world.queue) := by
  have documents : scope.view.documents = before.documents :=
    congrArg Standing.documents loads.standing
  have aside : scope.view.Aside before.documents scope.state.key scope.world.queue :=
    ⟨rfl, fun _ _ => by rw [documents], rfl⟩
  cases completion : site.auth.isCompletionEvent turn.activity with
  | true =>
      have reported {after : View} (completes : site.auth.Completes turn scope.view after) :
          after.Offset before.documents scope.state.key scope.world.queue := by
        cases completes with
        | nothing => exact .inl aside
        | reported => exact .inl (aside.see _)
      exact (ends_route_of_completion site completion loads.clean).mono (fun _ _ => reported)
        (fun _ _ => reported)
  | false =>
      have saves {middle : Scope (Recorded σ)}
          (offset : middle.view.Offset before.documents scope.state.key scope.world.queue) :
          Ends (TurnAction.save (site.services.recorded turn)) middle
            (fun _ after => after.view.Offset before.documents scope.state.key scope.world.queue)
            (fun _ after =>
              after.view.Offset before.documents scope.state.key scope.world.queue) := by
        refine (TurnAction.ends_save site.services turn).mono ?_ ?_
        · intro _ after saved
          rw [saved]
          exact offset.saved turn
        · rintro _ after ⟨-, access, -, -, refused⟩
          rw [refused]
          exact offset.see _
      have stored : Flow.stored before.documents scope.state.key = Flow.load scope.view.state :=
        (Flow.load_eq_stored loads.stored).symm
      unfold Gateway.route
      change Ends (if site.auth.isCompletionEvent turn.activity = true then _ else _) _ _ _
      rw [if_neg (ne_true_of_eq_false completion), ends_bind]
      refine (site.auth.yields_startOrContinue site.services turn site.handler).mono ?_ ?_
      · intro passes middle passage
        cases passes with
        | true =>
            obtain passed | ⟨impossible, -⟩ := passage.aside_or_discharged stores aside stored
            · simp only [if_true, ends_bind, recorded, TurnAction.ends_noteAdmitted]
              refine (Authenticator.aside_perform site.auth site.services turn (site.conduct turn) _
                (passed.see (.admitted turn))).mono ?_ fun _ _ => .inl
              exact fun _ after asked => saves (.inl asked)
            · cases impossible
        | false =>
            exact saves ((passage.aside_or_discharged stores aside stored).imp_right And.right)
      · exact fun error after passage =>
          (passage.aside_or_discharged stores aside stored).imp_right And.right

/-- What is to be done depends only on the documents and on what waits. -/
theorem backlog_eq {world other : World (Recorded σ)}
    (documents : world.documents = other.documents)
    (waiting : world.queue.waiting = other.queue.waiting) : world.backlog = other.backlog := by
  rw [World.backlog, World.backlog, documents, waiting]

/-- A turn adds one at most to what is to be done. -/
theorem backlog_process (stores : site.services.Stores) (turn : Turn) (cancelled : Bool)
    (world : World (Recorded σ)) :
    (remains (site.recorded.process turn cancelled world)).backlog ≤ world.backlog + 1 := by
  have ends : Ends (site.recorded.process turn cancelled) world
      (fun _ after => after.backlog ≤ world.backlog + 1)
      (fun _ after => after.backlog ≤ world.backlog + 1) := by
    simp only [Deployment.process, Gateway.process, ends_bind]
    refine (ends_load site.services turn).mono ?_ ?_
    · intro state loaded loads
      have waiting : loaded.queue.waiting = world.queue.waiting :=
        congrArg Standing.waiting loads.standing
      have bounded {after : View}
          (offset : after.Offset world.documents state.key loaded.queue) :
          backlog after.queue.waiting after.documents ≤ world.backlog + 1 := by
        have lighter := offset.backlog_le
        rwa [waiting] at lighter
      rw [ends_run]
      exact (ends_route_offset site stores turn loads).mono (fun _ _ => bounded)
        (fun _ _ => bounded)
    · intro _ after unread
      have same : after.backlog = world.backlog := by
        rcases unread with same | ⟨access, same⟩ | ⟨key, -, same⟩
        · exact backlog_eq (congrArg Standing.documents same) (congrArg Standing.waiting same)
        · exact backlog_eq (congrArg Standing.documents same) (congrArg Standing.waiting same)
        · exact backlog_eq (congrArg Standing.documents same) (congrArg Standing.waiting same)
      exact same.trans_le (Nat.le_succ _)
  exact ends.left

/-- Replaying an activity takes two from what is to be done, and its turn adds one at most. -/
theorem backlog_step (stores : site.services.Stores) {world after : World σ}
    (step : Replay.step site.services (fun turn => site.deployment.process turn false) world =
      some after) : after.backlog < world.backlog := by
  obtain ⟨activity, rest, waiting, rfl⟩ := Replay.step_eq_some.mp step
  let taken : World σ := { world with queue := { world.queue with waiting := rest } }
  let begun : World (Recorded σ) :=
    { taken.blank with
      host := (site.services.recorded ⟨activity, true⟩).openSender activity taken.blank.host }
  let left := Replay.dispatch (site.services.recorded ⟨activity, true⟩)
    (fun turn => site.recorded.process turn false) activity taken.blank
  have same : left.erase = Replay.dispatch site.services
      (fun turn => site.deployment.process turn false) activity taken :=
    erase_dispatch (fun turn => mirrors_process site turn false) site.services activity taken.blank
  have standing : left.standing =
      (remains (site.recorded.process ⟨activity, true⟩ false begun)).standing :=
    standing_dispatch _ _ activity taken.blank
  have ended : left.backlog ≤ begun.backlog + 1 := by
    rw [backlog_eq (congrArg Standing.documents standing) (congrArg Standing.waiting standing)]
    exact backlog_process site stores ⟨activity, true⟩ false begun
  have took : begun.backlog + 2 = world.backlog := by
    simp only [World.backlog, backlog, waiting, List.length_cons]
    change 2 * rest.length + (Flow.running world.documents).card + 2 = _
    omega
  rw [← same]
  change left.backlog < world.backlog
  omega

/-- Every replay makes what is to be done smaller, and draining ends with nothing left to replay,
after no more replays than there was to be done at first.  The bound that the library sets is one of
the limits that make no difference. -/
theorem drain_ends (stores : site.services.Stores) (world : World σ) :
    (∀ found after : World σ, Replay.step site.services
        (fun turn => site.deployment.process turn false) found = some after →
      after.backlog < found.backlog) ∧
    world.backlog ≤ Replay.bound world ∧
    ∃ count left, count ≤ world.backlog ∧ left.queue.waiting = [] ∧
      ∀ limit, count ≤ limit → Replay.drain site.services
        (fun turn => site.deployment.process turn false) limit world = (count, left) :=
  ⟨fun _ _ => backlog_step site stores, world.backlog_le_bound,
    Replay.drain_of_descends (fun _ _ => backlog_step site stores) world⟩

/-- The sample site once its user has asked for a sign-in, with the code waiting to be replayed. -/
def sampleBusy : World Nat :=
  let asked := sample.deployment.run (.initial 0) (sampleInputs.take 1)
  { asked with
    queue := { asked.queue with waiting := [.message "chat" "ada" "room" "42"] } }

/-- One activity and one flow are to be done at the sample site.  The replay of the activity queues
another one, and draining still ends. -/
theorem sample_drain_ends : sampleBusy.backlog = 3 ∧
    (Replay.drain sample.services (fun turn => sample.deployment.process turn false) 3
      sampleBusy).1 = 2 ∧
    ∃ count left, count ≤ sampleBusy.backlog ∧ left.queue.waiting = [] ∧
      ∀ limit, count ≤ limit → Replay.drain sample.services
        (fun turn => sample.deployment.process turn false) limit sampleBusy = (count, left) :=
  ⟨by decide +kernel, by decide +kernel,
    (drain_ends sample (fun _ _ host => ⟨host, rfl⟩) sampleBusy).2.2⟩

end Site
end SignInFlow
