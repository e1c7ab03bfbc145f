import SignInFlow.Proofs.Failures

/-!
# One outlet for every outcome

A flow that concludes at the gate is told of once: the turn goes on, something is queued, or the
failure is reported.  What an application asks for is reported once at most, and a handler is never
asked twice in one call.
-/

namespace SignInFlow

variable {σ : Type}

/-! ## What the record tells of outcomes -/

namespace Event

/-- Whether a handler has concluded. -/
def isVerdict : Event → Bool
  | answered _ _ _ (.ok answer) => decide (answer.effective.status ≠ .pending)
  | _ => false

/-- The activity that the queue has accepted. -/
def accepted? : Event → Option Activity
  | accessed _ (.submit activity) => some activity
  | _ => none

/-- Whether an outcome is handed to somebody: to the queue, the callback or the user. -/
def isOutlet (event : Event) : Bool := event.accepted?.isSome || event.isFailure

/-- Whether a success is reported. -/
def isSuccess : Event → Bool
  | succeeded _ _ => true
  | _ => false

end Event

/-- A queue has accepted what the record tells, which is one activity at most. -/
def ReplayQueue.Accepts (queue after : ReplayQueue) (seen : List Event) : Prop :=
  match seen.filterMap Event.accepted? with
  | [] => after = queue
  | [activity] => queue.submit activity = .ok after
  | _ => False

/-- A call of an authenticator within a turn. -/
inductive Operation where
  | gate (requested : Option String)
  | signIn (handler : String) (exchange : Option Exchange)
  | signOut (handler : Option String)
  | reset (handler : Option String)
  | completion

namespace Operation

/-- Carries out a call; the answer is whether the turn goes on to the application. -/
def perform (auth : Authenticator σ) (services : Services σ) (turn : Turn) :
    Operation → TurnAction σ Bool
  | gate requested => auth.startOrContinue services turn requested
  | signIn handler exchange => do
      auth.signIn services turn handler exchange
      pure false
  | signOut handler => do
      auth.signOut services turn handler
      pure false
  | reset handler => do
      auth.reset services turn handler
      pure false
  | completion => do
      auth.handleCompletion services turn
      pure false

/-- Who makes a call. -/
def asker : Operation → Asker
  | gate _ | completion => .gate
  | signIn _ _ | signOut _ | reset _ => .application

/-- Carries out a call before a recorded host. -/
def performRecorded (auth : Authenticator σ) (services : Services σ) (turn : Turn)
    (operation : Operation) : TurnAction (Recorded σ) Bool :=
  operation.perform (auth.recorded operation.asker) (services.recorded turn) turn

/-- What a call tells of outcomes, by its own answer, the record of it and the queue. -/
structure Surfaces (operation : Operation) (queue : ReplayQueue) (outcome : Except Error Bool)
    (seen : List Event) (after : ReplayQueue) : Prop where
  asked : seen.countP Event.isAnswer ≤ 1
  accepted : queue.Accepts after seen
  /-- At the gate, what has concluded goes one way, and nothing else is told. -/
  once : ∀ requested passes, operation = .gate requested → outcome = .ok passes →
    if seen.any Event.isVerdict then passes.toNat + seen.countP Event.isOutlet = 1
    else seen.countP Event.isOutlet = 0
  /-- The gate leaves successes to the completion route. -/
  silent : ∀ requested, operation = .gate requested → seen.countP Event.isSuccess = 0
  /-- Away from the gate nothing is queued. -/
  unqueued : (∀ requested, operation ≠ .gate requested) → after = queue
  /-- A success or a failure is reported, not both. -/
  reported : (∃ passes, outcome = .ok passes) → seen.countP Event.isReport ≤ 1

end Operation

/-! ## What an operation adds to the record -/

/-- Whether an event is an access to storage, or the refusal of one, or a withdrawal. -/
def Event.isRoutine : Event → Bool
  | .accessed _ access | .refused _ access => access.isStorage
  | .withdrew _ _ _ _ => true
  | _ => false

/-- Neither an access to storage nor a withdrawal tells anybody of an outcome. -/
theorem Event.mute_of_routine {event : Event} (routine : event.isRoutine = true) :
    event.isAnswer = false ∧ event.isOutlet = false ∧ event.isSuccess = false ∧
      event.isReport = false ∧ event.accepted? = none := by
  cases event with
  | accessed turn access =>
      cases access <;> first | exact ⟨rfl, rfl, rfl, rfl, rfl⟩ | cases routine
  | refused | withdrew => exact ⟨rfl, rfl, rfl, rfl, rfl⟩
  | _ => cases routine

/-- Accesses to storage and withdrawals alone. -/
def Routine (written : List Event) : Prop := ∀ event ∈ written, event.isRoutine = true

namespace Routine

theorem nil : Routine [] := List.forall_mem_nil _

variable {written : List Event}

theorem countP_eq_zero (routine : Routine written) {kind : Event → Bool}
    (blind : ∀ event, event.isRoutine = true → kind event = false) : written.countP kind = 0 := by
  rw [List.countP_eq_zero]
  intro event member
  exact ne_true_of_eq_false (blind event (routine event member))

theorem unasked (routine : Routine written) : written.countP Event.isAnswer = 0 :=
  routine.countP_eq_zero fun _ told => (Event.mute_of_routine told).1

theorem unconcluded (routine : Routine written) : written.countP Event.isOutlet = 0 :=
  routine.countP_eq_zero fun _ told => (Event.mute_of_routine told).2.1

theorem silent (routine : Routine written) : written.countP Event.isSuccess = 0 :=
  routine.countP_eq_zero fun _ told => (Event.mute_of_routine told).2.2.1

theorem unreported (routine : Routine written) : written.countP Event.isReport = 0 :=
  routine.countP_eq_zero fun _ told => (Event.mute_of_routine told).2.2.2.1

theorem accepted (routine : Routine written) : written.filterMap Event.accepted? = [] :=
  List.filterMap_eq_nil_iff.mpr fun event member =>
    (Event.mute_of_routine (routine event member)).2.2.2.2

end Routine

section

variable {auth : Authenticator σ} {services : Services σ} {turn : Turn}
  {outcome : Except Error Bool} {view after : View}

theorem View.routine_saved (view : View) (turn : Turn) :
    ∃ written, Routine written ∧ (view.saved turn).log = written ++ view.log := by
  cases dirty : view.state.dirty with
  | false => exact ⟨[], List.forall_mem_nil _, by rw [View.saved_of_clean _ turn dirty]; rfl⟩
  | true =>
      refine ⟨[.accessed turn view.state.writing], List.forall_mem_singleton.mpr ?_, ?_⟩
      · unfold UserState.writing
        cases view.state.properties.isEmpty <;> rfl
      · rw [View.saved_eq_writing view turn dirty]
        rfl

theorem Services.Writes.routine {α : Type} {flow : Flow} {value : α} {outcome : Except Error α}
    (writes : services.Writes turn flow value view outcome after) :
    ∃ written, Routine written ∧ after.log = written ++ view.log := by
  cases writes with
  | kept => exact View.routine_saved (view.hold flow) turn
  | refused access error storage refuses =>
      exact ⟨[.refused turn access], List.forall_mem_singleton.mpr storage, rfl⟩

/-- What has been told once a handler has answered at the gate. -/
structure Conveys (concluded : Bool) (queue : ReplayQueue) (outcome : Except Error Bool)
    (seen : List Event) (after : ReplayQueue) : Prop where
  unasked : seen.countP Event.isAnswer = 0
  accepted : queue.Accepts after seen
  once : ∀ passes, outcome = .ok passes →
    passes.toNat + seen.countP Event.isOutlet = concluded.toNat
  silent : seen.countP Event.isSuccess = 0
  reported : seen.countP Event.isReport ≤ 1

/-- Accesses to storage convey nothing, and are all there is if nothing has concluded, or if the
turn goes on. -/
theorem Routine.conveys {written : List Event} (routine : Routine written) {concluded : Bool}
    {queue : ReplayQueue} (once : ∀ passes, outcome = .ok passes → passes = concluded) :
    Conveys concluded queue outcome written queue where
  unasked := routine.unasked
  accepted := by
    unfold ReplayQueue.Accepts
    rw [routine.accepted]
  once := by
    intro passes passed
    rw [routine.unconcluded, once passes passed, Nat.add_zero]
  silent := routine.silent
  reported := by
    rw [routine.unreported]
    exact Nat.zero_le 1

/-- What one other event conveys beside accesses to storage. -/
theorem Routine.conveys_beside {event : Event} {older later : List Event}
    (routineOlder : Routine older) (routineLater : Routine later) {queue left : ReplayQueue}
    {concluded : Bool} (unasked : event.isAnswer = false)
    (accepted : queue.Accepts left [event])
    (once : ∀ passes, outcome = .ok passes →
      passes.toNat + event.isOutlet.toNat = concluded.toNat)
    (silent : event.isSuccess = false) :
    Conveys concluded queue outcome (later ++ event :: older) left := by
  have counts (kind : Event → Bool)
      (blind : ∀ event, event.isRoutine = true → kind event = false) :
      (later ++ event :: older).countP kind = (kind event).toNat := by
    rw [List.countP_append, List.countP_cons, routineOlder.countP_eq_zero blind,
      routineLater.countP_eq_zero blind]
    cases kind event <;> rfl
  constructor
  · rw [counts _ fun _ told => (Event.mute_of_routine told).1, unasked, Bool.toNat_false]
  · unfold ReplayQueue.Accepts at accepted ⊢
    rw [List.filterMap_append, List.filterMap_cons, routineOlder.accepted, routineLater.accepted]
    exact accepted
  · intro passes passed
    rw [counts _ fun _ told => (Event.mute_of_routine told).2.1]
    exact once passes passed
  · rw [counts _ fun _ told => (Event.mute_of_routine told).2.2.1, silent, Bool.toNat_false]
  · rw [counts _ fun _ told => (Event.mute_of_routine told).2.2.2.1]
    exact Bool.toNat_le _

theorem Services.HandsOn.conveys {activity : Activity}
    (hands : services.HandsOn turn activity false view outcome after) :
    ∃ seen, after.log = seen ++ view.log ∧ Conveys true view.queue outcome seen after.queue := by
  cases hands with
  | balked error refuses =>
      exact ⟨[.refused turn (.submit activity)], rfl,
        Routine.nil.conveys_beside .nil rfl rfl (fun _ impossible => by cases impossible) rfl⟩
  | closed error rejected =>
      exact ⟨[], rfl, Routine.nil.conveys fun _ impossible => by cases impossible⟩
  | queued queue accepted writes =>
      obtain ⟨written, routine, log⟩ := writes.routine
      refine ⟨written ++ [.accessed turn (.submit activity)], by rw [log]; simp, ?_⟩
      rw [writes.queue]
      refine Routine.nil.conveys_beside routine rfl accepted ?_ rfl
      rintro passes rfl
      cases writes with
      | kept => rfl

theorem Authenticator.concluded_of_continuation {handler : String} {response : Response}
    {banked : Banked} {activity : Activity}
    (continues : auth.continuation turn handler response banked = some activity) :
    response.status ≠ .pending := by
  intro pending
  cases banked <;> simp [continuation, pending] at continues

theorem Authenticator.Settles.conveys {flow : Flow} {handler : String} {response : Response}
    (settles : auth.Settles services turn flow handler response view outcome after) :
    ∃ seen, after.log = seen ++ view.log ∧ Conveys (decide (response.status ≠ .pending)) view.queue
      outcome seen after.queue := by
  cases settles with
  | stays active pending =>
      refine ⟨[], rfl, Routine.nil.conveys ?_⟩
      rintro _ ⟨⟩
      simp [pending]
  | begins idle pending writes =>
      obtain ⟨written, routine, log⟩ := writes.routine
      refine ⟨written, log, ?_⟩
      rw [writes.queue]
      refine routine.conveys ?_
      rintro passes rfl
      cases writes with
      | kept => simp [pending]
  | handsOn banked holds activity continues hands =>
      rw [decide_eq_true (concluded_of_continuation continues)]
      exact hands.conveys
  | sticks failed ends error writes =>
      obtain ⟨written, routine, log⟩ := writes.routine
      refine ⟨written, log, ?_⟩
      rw [writes.queue]
      exact routine.conveys fun _ impossible => by cases impossible
  | reports failed ends writes now outcome told =>
      obtain ⟨written, routine, log⟩ := writes.routine
      refine ⟨auth.failureEvent turn (failureOf turn flow handler response) now :: written,
        by rw [View.see_log, log]; rfl, ?_⟩
      have once : ∀ passes, outcome = .ok passes →
          passes.toNat + true.toNat = (decide (response.status ≠ .pending)).toNat := by
        rintro passes rfl
        obtain ⟨⟨⟩⟩ | ⟨_, impossible, -⟩ := told
        · simp [failed]
        · cases impossible
      rw [View.see_queue, writes.queue]
      rcases auth.failureEvent_cases turn (failureOf turn flow handler response) now with
        same | ⟨message, same⟩ <;>
      · rw [same]
        exact routine.conveys_beside .nil rfl rfl once rfl
  | goesOn complete ends writes =>
      obtain ⟨written, routine, log⟩ := writes.routine
      refine ⟨written, log, ?_⟩
      rw [writes.queue]
      refine routine.conveys ?_
      rintro passes rfl
      cases writes with
      | kept => simp [complete]

end

/-! ## The operations -/

section

variable {auth : Authenticator σ} {services : Services σ} {turn : Turn} {view after : View}

theorem Event.isVerdict_eq_false {event : Event} (unasked : event.isAnswer = false) :
    event.isVerdict = false := by
  cases event <;> first | rfl | cases unasked

theorem Conveys.surfaces {concluded : Bool} {queue left : ReplayQueue} {outcome : Except Error Bool}
    {seen : List Event} {request : Request} {answer : Except Error Response}
    (conveys : Conveys concluded queue outcome seen left)
    (verdict : (Event.answered .gate turn request answer).isVerdict = concluded)
    (requested : Option String) :
    (Operation.gate requested).Surfaces queue outcome
      (seen ++ [.answered .gate turn request answer]) left where
  asked := by
    rw [List.countP_append, conveys.unasked]
    exact Nat.le_refl 1
  accepted := by
    unfold ReplayQueue.Accepts
    rw [List.filterMap_append]
    exact (List.append_nil _).symm ▸ conveys.accepted
  once := by
    intro _ passes _ passed
    have silent : seen.any Event.isVerdict = false := by
      rw [List.any_eq_false]
      intro event member
      have unasked := List.countP_eq_zero.mp conveys.unasked event member
      simp [Event.isVerdict_eq_false (eq_false_of_ne_true unasked)]
    have once := conveys.once passes passed
    have mute : [Event.answered .gate turn request answer].countP Event.isOutlet = 0 := rfl
    rw [List.any_append, silent, Bool.false_or, List.any_cons, verdict, List.any_nil, Bool.or_false,
      List.countP_append, mute, Nat.add_zero]
    cases concluded with
    | true => exact once
    | false => exact Nat.eq_zero_of_add_eq_zero_left once
  silent := by
    intro _ _
    rw [List.countP_append, conveys.silent]
    rfl
  unqueued elsewhere := absurd rfl (elsewhere requested)
  reported _ := by
    rw [List.countP_append]
    exact conveys.reported

/-- Where no handler has answered, nothing is told. -/
theorem Operation.surfaces_nothing (operation : Operation) (queue : ReplayQueue)
    (outcome : Except Error Bool) : operation.Surfaces queue outcome [] queue where
  asked := Nat.zero_le 1
  accepted := rfl
  once _ _ _ _ := rfl
  silent _ _ := rfl
  unqueued _ := rfl
  reported _ := Nat.zero_le 1

theorem Authenticator.Passage.surfaces {requested : Option String} {cancelled : Bool}
    {outcome : Except Error Bool}
    (passage : auth.Passage services turn requested cancelled view outcome after)
    (fresh : view.log = []) :
    (Operation.gate requested).Surfaces view.queue outcome after.log after.queue := by
  cases passage with
  | faulted timely flow handler loaded chosen error faults =>
      rw [View.see_log, fresh]
      exact (Routine.nil.conveys fun _ impossible => by cases impossible).surfaces rfl requested
  | answered timely flow handler loaded chosen answer settles =>
      obtain ⟨seen, log, conveys⟩ := settles.conveys
      rw [View.hear_queue] at conveys
      rw [log, View.hear_log, fresh]
      exact conveys.surfaces rfl requested
  | _ =>
      rw [fresh]
      exact Operation.surfaces_nothing _ _ _

/-- Away from the gate, nothing is queued, and a report is all that is told. -/
theorem Operation.surfaces_of_reports {operation : Operation} {queue : ReplayQueue}
    {seen : List Event} (elsewhere : ∀ requested, operation ≠ .gate requested)
    (asked : seen.countP Event.isAnswer ≤ 1) (accepted : seen.filterMap Event.accepted? = [])
    (reported : seen.countP Event.isReport ≤ 1) {outcome : Except Error Bool} :
    operation.Surfaces queue outcome seen queue where
  asked := asked
  accepted := by
    unfold ReplayQueue.Accepts
    rw [accepted]
  once requested _ same := absurd same (elsewhere requested)
  silent requested same := absurd same (elsewhere requested)
  unqueued _ := rfl
  reported _ := reported

theorem Authenticator.Decides.surfaces {handler : String} {exchange : Option Exchange}
    {request : Request} {answer : Except Error Response} {response : Response}
    {outcome : Except Error Unit}
    (decides : auth.Decides services turn handler exchange response
      (view.hear .application turn request answer) outcome after)
    (fresh : view.log = []) (result : Except Error Bool) :
    (Operation.signIn handler exchange).Surfaces view.queue result after.log after.queue := by
  have elsewhere : ∀ requested, Operation.signIn handler exchange ≠ .gate requested := nofun
  cases decides with
  | begins pending writes =>
      obtain ⟨written, routine, log⟩ := writes.routine
      rw [log, writes.queue, View.hear_log, View.hear_queue, fresh]
      refine Operation.surfaces_of_reports elsewhere ?_ ?_ ?_
      · rw [List.countP_append, routine.unasked]
        exact Nat.le_refl 1
      · rw [List.filterMap_append, routine.accepted]
        rfl
      · rw [List.countP_append, routine.unreported]
        exact Nat.zero_le 1
  | returns failed silent =>
      rw [View.hear_log, View.hear_queue, fresh]
      refine Operation.surfaces_of_reports elsewhere ?_ rfl ?_
      · exact Nat.le_refl 1
      · exact Nat.zero_le 1
  | reports failed outcome =>
      rw [View.see_log, View.see_queue, View.hear_log, View.hear_queue, fresh]
      refine Operation.surfaces_of_reports elsewhere ?_ rfl ?_
      · exact Nat.le_refl 1
      · exact Nat.le_refl 1
  | accepts complete outcome announces =>
      cases announces with
      | silently =>
          rw [View.hear_log, View.hear_queue, fresh]
          refine Operation.surfaces_of_reports elsewhere ?_ rfl ?_
          · exact Nat.le_refl 1
          · exact Nat.zero_le 1
      | aloud =>
          rw [View.see_log, View.see_queue, View.hear_log, View.hear_queue, fresh]
          refine Operation.surfaces_of_reports elsewhere ?_ rfl ?_
          · exact Nat.le_refl 1
          · exact Nat.le_refl 1

theorem Authenticator.Entry.surfaces {handler : String} {exchange : Option Exchange}
    {cancelled : Bool} {outcome : Except Error Unit}
    (entry : auth.Entry services turn handler exchange cancelled view outcome after)
    (fresh : view.log = []) (result : Except Error Bool) :
    (Operation.signIn handler exchange).Surfaces view.queue result after.log after.queue := by
  have elsewhere : ∀ requested, Operation.signIn handler exchange ≠ .gate requested := nofun
  cases entry with
  | remembered timely idle known token kept outcome announces =>
      cases announces with
      | silently =>
          rw [fresh]
          exact Operation.surfaces_nothing _ _ _
      | aloud =>
          rw [View.see_log, fresh]
          refine Operation.surfaces_of_reports elsewhere ?_ rfl ?_
          · exact Nat.zero_le 1
          · exact Nat.le_refl 1
  | faulted timely idle known error faults =>
      rw [View.see_log, fresh]
      refine Operation.surfaces_of_reports elsewhere ?_ rfl ?_
      · exact Nat.le_refl 1
      · exact Nat.zero_le 1
  | answered timely idle known answer decides => exact decides.surfaces fresh result
  | _ =>
      rw [fresh]
      exact Operation.surfaces_nothing _ _ _

/-- The completion route reports once at most, and asks nobody. -/
theorem Authenticator.Completes.surfaces (completes : auth.Completes turn view after)
    (fresh : view.log = []) (result : Except Error Bool) :
    Operation.completion.Surfaces view.queue result after.log after.queue := by
  have elsewhere : ∀ requested, Operation.completion ≠ .gate requested := nofun
  cases completes with
  | nothing =>
      rw [fresh]
      exact Operation.surfaces_nothing _ _ _
  | reported event response report redelivered decoded carried tells =>
      rw [View.see_log, View.see_queue, fresh]
      have unasked := Event.isAnswer_of_notice tells.notice.2
      have unqueued : report.accepted? = none := by
        cases report <;> first | rfl | cases tells.notice.2
      refine Operation.surfaces_of_reports elsewhere ?_ ?_ List.countP_le_length
      · exact List.countP_le_length
      · simp [unqueued]

/-- Only accesses to storage and withdrawals have been seen, and nothing is queued. -/
def View.Minds (queue : ReplayQueue) (view : View) : Prop :=
  Routine view.log ∧ view.queue = queue

theorem View.Minds.surfaces {queue : ReplayQueue} (minds : view.Minds queue)
    {operation : Operation} (elsewhere : ∀ requested, operation ≠ .gate requested)
    (result : Except Error Bool) : operation.Surfaces queue result view.log view.queue := by
  obtain ⟨routine, unqueued⟩ := minds
  rw [unqueued]
  refine Operation.surfaces_of_reports elsewhere ?_ routine.accepted ?_
  · rw [routine.unasked]
    exact Nat.zero_le 1
  · rw [routine.unreported]
    exact Nat.zero_le 1

end

namespace Authenticator

variable (services : Services σ) {turn : Turn} {queue : ReplayQueue}

theorem minds_part (view : View) (way : Withdrawal) (handler : String)
    (outcome : Except Error Unit) (minds : view.Minds queue) :
    (view.part turn way handler outcome).Minds queue := by
  refine ⟨?_, (View.part_queue view turn way handler outcome).trans minds.2⟩
  rw [View.part_log]
  exact List.forall_mem_cons.mpr ⟨rfl, minds.1⟩

theorem minds_clear :
    Preserves (View.Minds queue) (TurnAction.persist (services.recorded turn) .idle) := by
  rintro scope ⟨routine, unqueued⟩
  refine (ends_writes services turn .idle ()).mono ?_ ?_ <;>
  · intro _ after writes
    obtain ⟨written, more, log⟩ := writes.routine
    refine ⟨?_, writes.queue.trans unqueued⟩
    rw [log]
    exact List.forall_mem_append.mpr ⟨more, routine⟩

variable (auth : Authenticator σ) (handler : Option String)

theorem minds_signOut : Preserves (View.Minds queue)
    ((auth.recorded .application).signOut (services.recorded turn) turn handler) :=
  preserves_signOut minds_part (minds_clear services) handler

theorem minds_reset : Preserves (View.Minds queue)
    ((auth.recorded .application).reset (services.recorded turn) turn handler) :=
  preserves_reset minds_part (minds_clear services) handler

end Authenticator

namespace Operation

variable (auth : Authenticator σ) (services : Services σ) (turn : Turn)

theorem mirrors_perform (operation : Operation) :
    Mirrors Scope.erase (operation.performRecorded auth services turn)
      (operation.perform auth services turn) := by
  cases operation with
  | gate requested => exact Authenticator.mirrors_startOrContinue auth services turn .gate requested
  | signIn handler exchange =>
      exact (Authenticator.mirrors_signIn auth services turn .application handler exchange).bind
        fun _ => mirrors_pure false
  | signOut handler =>
      exact (Authenticator.mirrors_signOut auth services turn .application handler).bind
        fun _ => mirrors_pure false
  | reset handler =>
      exact (Authenticator.mirrors_reset auth services turn .application handler).bind
        fun _ => mirrors_pure false
  | completion =>
      exact (Authenticator.mirrors_handleCompletion auth services turn .gate).bind
        fun _ => mirrors_pure false

theorem yields_performRecorded (operation : Operation) (scope : Scope σ) :
    Yields (operation.performRecorded auth services turn) scope.blank fun outcome after =>
      operation.Surfaces scope.world.queue outcome after.log after.queue := by
  cases operation with
  | gate requested =>
      exact (auth.yields_startOrContinue services turn requested).mono
        (fun _ _ passage => passage.surfaces rfl) (fun _ _ passage => passage.surfaces rfl)
  | signIn handler exchange =>
      simp only [performRecorded, perform, Yields, ends_bind, ends_pure]
      exact (auth.yields_signIn services turn handler exchange).mono
        (fun _ _ entry => entry.surfaces rfl _) (fun _ _ entry => entry.surfaces rfl _)
  | signOut handler =>
      have elsewhere : ∀ requested, signOut handler ≠ gate requested := by
        rintro requested ⟨⟩
      simp only [performRecorded, perform, Yields, ends_bind, ends_pure]
      exact (Authenticator.minds_signOut services auth handler scope.blank ⟨.nil, rfl⟩).mono
        (fun _ _ minded => minded.surfaces elsewhere _)
        (fun _ _ minded => minded.surfaces elsewhere _)
  | reset handler =>
      have elsewhere : ∀ requested, reset handler ≠ gate requested := by
        rintro requested ⟨⟩
      simp only [performRecorded, perform, Yields, ends_bind, ends_pure]
      exact (Authenticator.minds_reset services auth handler scope.blank ⟨.nil, rfl⟩).mono
        (fun _ _ minded => minded.surfaces elsewhere _)
        (fun _ _ minded => minded.surfaces elsewhere _)
  | completion =>
      simp only [performRecorded, perform, Yields, ends_bind, ends_pure]
      exact (auth.ends_handleCompletion services turn).mono
        (fun _ _ completes => completes.surfaces rfl _)
        (fun _ _ completes => completes.surfaces rfl _)

/-- Whatever is asked of an authenticator, a handler is asked once at most.  What concludes at the
gate goes one way: on to the application, to the queue, to the callback or to the user.  Elsewhere
nothing is queued, and an outcome is reported once at most. -/
theorem outcome_surfaces_once (operation : Operation) (scope : Scope σ) :
    operation.perform auth services turn scope =
        seenAs Scope.erase (operation.performRecorded auth services turn scope.blank) ∧
      Yields (operation.performRecorded auth services turn) scope.blank fun outcome after =>
        operation.Surfaces scope.world.queue outcome after.log after.queue :=
  ⟨mirrors_perform auth services turn operation scope.blank,
    yields_performRecorded auth services turn operation scope⟩

end Operation
end SignInFlow
