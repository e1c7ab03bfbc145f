import SignInFlow.Proofs.Outcome
import SignInFlow.Proofs.Working
import SignInFlow.Replay.Station

/-!
# The accounts of a queue

Whatever is done at a station and whatever the turns of a worker queue, activities leave the queue
in the order in which they were accepted, and its tally tells what has become of them.
-/

namespace SignInFlow

variable {σ : Type}

/-! ## Movements -/

/-- What has become of an activity that has left the queue. -/
inductive Fate where
  /-- Its turn was run. -/
  | replayed (succeeded : Bool)
  /-- It was received by hand. -/
  | taken
  /-- It was given up with the receiving end. -/
  | discarded
deriving DecidableEq

/-- What changes a queue. -/
inductive Movement where
  | accepted (activity : Activity)
  | left (activity : Activity) (fate : Fate)
  | handleMade
  | handleGone

namespace Movement

/-- The activity that was accepted. -/
def accepted? : Movement → Option Activity
  | accepted activity => some activity
  | _ => none

/-- The activity that has left. -/
def left? : Movement → Option Activity
  | left activity _ => some activity
  | _ => none

/-- Whether an activity has met a fate. -/
def meets (fate : Fate) : Movement → Bool
  | left _ met => decide (met = fate)
  | _ => false

/-- Whether a handle was made. -/
def makes : Movement → Bool
  | handleMade => true
  | _ => false

/-- Whether a handle was given up. -/
def drops : Movement → Bool
  | handleGone => true
  | _ => false

/-- All that has left has met one of the fates. -/
theorem length_left (movements : List Movement) :
    (movements.filterMap left?).length =
      movements.countP (meets (.replayed true)) + movements.countP (meets (.replayed false)) +
        movements.countP (meets .taken) + movements.countP (meets .discarded) := by
  induction movements with
  | nil => rfl
  | cons movement rest ih =>
      cases movement with
      | left activity fate =>
          have longer : ((left activity fate :: rest).filterMap left?).length =
              (rest.filterMap left?).length + 1 := rfl
          rw [longer, ih]
          rcases fate with (_ | _) | _ | _ <;>
          · simp only [List.countP_cons, meets, reduceCtorEq, decide_false, decide_true,
              Fate.replayed.injEq, Bool.false_eq_true, if_false, if_true]
            omega
      | accepted | handleMade | handleGone => exact ih

end Movement

namespace ReplayQueue

variable (queue : ReplayQueue)

/-- The queue after something was done with a handle; what is refused changes nothing. -/
def handled (handling : Handling) : ReplayQueue :=
  match queue.handle handling with
  | .ok after => after
  | .error _ => queue

theorem handled_submit (activity : Activity) : queue.handled (.submit activity) =
    if queue.receiving then
      { queue with
        waiting := queue.waiting ++ [activity]
        tally := { queue.tally with submitted := queue.tally.submitted + 1 } }
    else queue := by
  unfold handled handle submit
  cases queue.receiving <;> rfl

theorem handled_addHandle : queue.handled .addHandle =
    if queue.handles = 0 then queue else queue.addHandle := rfl

theorem handled_dropHandle : queue.handled .dropHandle = queue.dropHandle := rfl

/-- The queue after several things were done with handles. -/
def handledAll (handlings : List Handling) : ReplayQueue := handlings.foldl handled queue

/-- What it changes to do something with a handle. -/
def movements : Handling → List Movement
  | .submit activity =>
      match queue.submit activity with
      | .ok _ => [.accepted activity]
      | .error _ => []
  | .addHandle => if queue.handles = 0 then [] else [.handleMade]
  | .dropHandle => if queue.handles = 0 then [] else [.handleGone]

/-- What it changes to do several things with handles. -/
def allMovements (queue : ReplayQueue) : List Handling → List Movement
  | [] => []
  | handling :: rest => queue.movements handling ++ (queue.handled handling).allMovements rest

/-- A queue has become another one through movements: in what order activities have come and gone,
and what its tally and its handles tell of it. -/
structure Moves (movements : List Movement) (before after : ReplayQueue) : Prop where
  order : before.waiting ++ movements.filterMap Movement.accepted? =
    movements.filterMap Movement.left? ++ after.waiting
  submitted : after.tally.submitted =
    before.tally.submitted + (movements.filterMap Movement.accepted?).length
  processed : after.tally.processed =
    before.tally.processed + movements.countP (Movement.meets (.replayed true))
  failed : after.tally.failed =
    before.tally.failed + movements.countP (Movement.meets (.replayed false))
  handles : after.handles + movements.countP Movement.drops =
    before.handles + movements.countP Movement.makes

namespace Moves

variable {queue before middle after : ReplayQueue} {movements more : List Movement}

theorem refl (queue : ReplayQueue) : Moves [] queue queue :=
  ⟨List.append_nil _, rfl, rfl, rfl, rfl⟩

theorem trans (moves : Moves movements before middle) (next : Moves more middle after) :
    Moves (movements ++ more) before after where
  order := by
    simp only [List.filterMap_append]
    rw [← List.append_assoc, moves.order, List.append_assoc, next.order, List.append_assoc]
  submitted := by
    rw [next.submitted, moves.submitted, List.filterMap_append, List.length_append, Nat.add_assoc]
  processed := by rw [next.processed, moves.processed, List.countP_append, Nat.add_assoc]
  failed := by rw [next.failed, moves.failed, List.countP_append, Nat.add_assoc]
  handles := by
    have first := moves.handles
    have second := next.handles
    simp only [List.countP_append]
    omega

theorem handled (queue : ReplayQueue) (handling : Handling) :
    Moves (queue.movements handling) queue (queue.handled handling) := by
  cases handling with
  | submit activity =>
      cases accepted : queue.submit activity with
      | error error =>
          simp only [ReplayQueue.handled, handle, ReplayQueue.movements, accepted]
          exact refl queue
      | ok after =>
          simp only [ReplayQueue.handled, handle, ReplayQueue.movements, accepted]
          unfold ReplayQueue.submit at accepted
          split at accepted
          · cases accepted
            exact ⟨rfl, rfl, rfl, rfl, rfl⟩
          · cases accepted
  | addHandle =>
      simp only [ReplayQueue.handled, handle, ReplayQueue.movements]
      split
      · exact refl queue
      · exact ⟨List.append_nil _, rfl, rfl, rfl, rfl⟩
  | dropHandle =>
      simp only [ReplayQueue.handled, handle, ReplayQueue.movements]
      split
      · rename_i none
        exact ⟨List.append_nil _, rfl, rfl, rfl, by simp [dropHandle, none]⟩
      · rename_i some
        exact ⟨List.append_nil _, rfl, rfl, rfl, Nat.sub_add_cancel (Nat.pos_of_ne_zero some)⟩

theorem handledAll (queue : ReplayQueue) (handlings : List Handling) :
    Moves (queue.allMovements handlings) queue (queue.handledAll handlings) := by
  induction handlings generalizing queue with
  | nil => exact refl queue
  | cons handling rest ih => exact (handled queue handling).trans (ih _)

/-- Taking the oldest activity by hand. -/
theorem taken {activity : Activity} {rest : List Activity}
    (waiting : queue.waiting = activity :: rest) :
    Moves [.left activity .taken] queue { queue with waiting := rest } :=
  ⟨(List.append_nil _).trans waiting, rfl, rfl, rfl, rfl⟩

/-- Giving up all that waits. -/
theorem discarded (queue : ReplayQueue) :
    Moves (queue.waiting.map (.left · .discarded)) queue queue.dropReceiver := by
  constructor <;>
    simp [dropReceiver, List.filterMap_map, Function.comp_def, Movement.accepted?, Movement.left?,
      Movement.meets, Movement.drops, Movement.makes]

/-- The turn of the oldest activity, with all that it does with handles, and the count of it. -/
theorem replayed {activity : Activity} {rest : List Activity} (succeeded : Bool)
    (waiting : queue.waiting = activity :: rest)
    (moves : Moves movements { queue with waiting := rest } after) :
    Moves (.left activity (.replayed succeeded) :: movements) queue (after.settle succeeded) := by
  obtain ⟨order, submitted, processed, failed, handles⟩ := moves
  cases succeeded with
  | true =>
      refine ⟨?_, submitted, ?_, failed, handles⟩
      · rw [waiting]
        exact congrArg (activity :: ·) order
      · rw [List.countP_cons_of_pos rfl]
        exact congrArg (· + 1) processed
  | false =>
      refine ⟨?_, submitted, processed, ?_, handles⟩
      · rw [waiting]
        exact congrArg (activity :: ·) order
      · rw [List.countP_cons_of_pos rfl]
        exact congrArg (· + 1) failed

end Moves

variable {queue}

/-- Once no handle is left, none comes back. -/
theorem handles_handledAll (closed : queue.handles = 0) (handlings : List Handling) :
    (queue.handledAll handlings).handles = 0 := by
  induction handlings generalizing queue with
  | nil => exact closed
  | cons handling rest ih =>
      apply ih
      cases handling with
      | submit activity =>
          rw [handled_submit]
          split <;> exact closed
      | addHandle => rwa [handled_addHandle, if_pos closed]
      | dropHandle => rw [handled_dropHandle, dropHandle, closed]

/-- Nothing leaves the queue through a handle. -/
theorem countP_meets_allMovements (fate : Fate) (handlings : List Handling) :
    (queue.allMovements handlings).countP (Movement.meets fate) = 0 := by
  induction handlings generalizing queue with
  | nil => rfl
  | cons handling rest ih =>
      rw [allMovements, List.countP_append, ih, Nat.add_zero]
      cases handling with
      | submit activity | addHandle | dropHandle =>
          simp only [movements]
          split <;> rfl

theorem receiving_of_handle {handling : Handling} {after : ReplayQueue}
    (handled : queue.handle handling = .ok after) : after.receiving = queue.receiving := by
  cases handling with
  | submit activity => exact (eq_of_submit handled).2
  | addHandle =>
      cases handled
      split <;> rfl
  | dropHandle =>
      cases handled
      rfl

end ReplayQueue

/-- A look at the receiving end shows that it is closed only if nothing waits and no handle is
left. -/
theorem ReplayQueue.receive_eq_closed {queue : ReplayQueue} :
    queue.receive.1 = .closed ↔ queue.waiting = [] ∧ queue.handles = 0 := by
  unfold receive take?
  cases queue.waiting with
  | nil => by_cases closed : queue.handles = 0 <;> simp [closed]
  | cons activity rest => simp

/-! ## Replays -/

/-- Whether an action has succeeded. -/
def succeeds {τ α : Type} : EStateM.Result Error τ α → Bool
  | .ok _ _ => true
  | .error _ _ => false

namespace Replay

variable (services : Services σ) (process : TurnProcessor σ)
  (asks : Turn → World σ → List ReplayQueue.Handling)

/-- Turns touch the queue only as whoever has handles can: this is what they ask of it. -/
def Asks : Prop :=
  ∀ turn world, (remains (process turn world)).queue = world.queue.handledAll (asks turn world)

/-- What the replay of an activity changes, once that has left the queue. -/
def turnMovements (activity : Activity) (world : World σ) : List Movement :=
  let prepared := { world with host := services.openSender activity world.host }
  .left activity (.replayed (succeeds (process ⟨activity, true⟩ prepared))) ::
    world.queue.allMovements (asks ⟨activity, true⟩ prepared)

/-- What it changes to replay some activities at most. -/
def movements : Nat → World σ → List Movement
  | 0, _ => []
  | limit + 1, world =>
      match world.queue.waiting with
      | [] => []
      | activity :: rest =>
          let taken := { world with queue := { world.queue with waiting := rest } }
          turnMovements services process asks activity taken ++
            movements limit (dispatch services process activity taken)

variable {services process asks}

/-- The queue after a replay. -/
theorem queue_dispatch (follows : Asks process asks) (activity : Activity) (world : World σ) :
    (dispatch services process activity world).queue =
      (world.queue.handledAll (asks ⟨activity, true⟩
        { world with host := services.openSender activity world.host })).settle
        (succeeds (process ⟨activity, true⟩
          { world with host := services.openSender activity world.host })) := by
  have asked := follows ⟨activity, true⟩
    { world with host := services.openSender activity world.host }
  unfold dispatch
  dsimp only
  cases ended : process ⟨activity, true⟩
    { world with host := services.openSender activity world.host } <;>
  · rw [ended] at asked
    rw [← asked]
    rfl

theorem moves_dispatch (follows : Asks process asks) {activity : Activity} {rest : List Activity}
    {world : World σ} (waiting : world.queue.waiting = activity :: rest) :
    ReplayQueue.Moves (turnMovements services process asks activity
        { world with queue := { world.queue with waiting := rest } }) world.queue
      (dispatch services process activity
        { world with queue := { world.queue with waiting := rest } }).queue := by
  rw [queue_dispatch follows]
  exact .replayed _ waiting (.handledAll _ _)

/-- Draining moves what its replays move. -/
theorem moves_drain (follows : Asks process asks) (limit : Nat) (world : World σ) :
    ReplayQueue.Moves (movements services process asks limit world) world.queue
      (drain services process limit world).2.queue := by
  induction limit generalizing world with
  | zero => exact .refl _
  | succ limit ih =>
      cases waiting : world.queue.waiting with
      | nil =>
          rw [drain_of_step_eq_none (step_eq_none.mpr waiting)]
          simp only [movements, waiting]
          exact .refl _
      | cons activity rest =>
          rw [drain_of_step_eq_some (step_eq_some.mpr ⟨activity, rest, waiting, rfl⟩)]
          simp only [movements, waiting]
          exact (moves_dispatch follows waiting).trans (ih _)

variable (asks) in
/-- Draining tells how many turns were run. -/
theorem count_drain (limit : Nat) (world : World σ) :
    (drain services process limit world).1 =
      (movements services process asks limit world).countP (Movement.meets (.replayed true)) +
        (movements services process asks limit world).countP
          (Movement.meets (.replayed false)) := by
  induction limit generalizing world with
  | zero => rfl
  | succ limit ih =>
      cases waiting : world.queue.waiting with
      | nil =>
          rw [drain_of_step_eq_none (step_eq_none.mpr waiting)]
          simp only [movements, waiting]
          rfl
      | cons activity rest =>
          rw [drain_of_step_eq_some (step_eq_some.mpr ⟨activity, rest, waiting, rfl⟩)]
          simp only [movements, waiting, turnMovements, List.cons_append, List.countP_cons,
            List.countP_append, ReplayQueue.countP_meets_allMovements, ih]
          cases succeeds _ <;> simp [Movement.meets] <;> omega

/-- Draining stops for nothing but its limit and an empty queue. -/
theorem drain_stops (limit : Nat) (world : World σ) :
    (drain services process limit world).1 = limit ∨
      (drain services process limit world).2.queue.waiting = [] := by
  induction limit generalizing world with
  | zero => exact .inl rfl
  | succ limit ih =>
      cases next : step services process world with
      | none =>
          rw [drain_of_step_eq_none next]
          exact .inr (step_eq_none.mp next)
      | some after =>
          rw [drain_of_step_eq_some next]
          exact (ih after).imp_left (congrArg (· + 1))

theorem handles_dispatch (follows : Asks process asks) (activity : Activity) {world : World σ}
    (closed : world.queue.handles = 0) :
    (dispatch services process activity world).queue.handles = 0 := by
  rw [queue_dispatch follows]
  cases succeeds _ <;> exact ReplayQueue.handles_handledAll closed _

/-- Draining brings no handle back. -/
theorem handles_drain (follows : Asks process asks) (limit : Nat) {world : World σ}
    (closed : world.queue.handles = 0) :
    (drain services process limit world).2.queue.handles = 0 := by
  induction limit generalizing world with
  | zero => exact closed
  | succ limit ih =>
      cases next : step services process world with
      | none => rwa [drain_of_step_eq_none next]
      | some after =>
          rw [drain_of_step_eq_some next]
          obtain ⟨activity, rest, waiting, rfl⟩ := step_eq_some.mp next
          exact ih (handles_dispatch follows activity closed)

end Replay

/-! ## Stations -/

namespace Station

variable (services : Services σ) (process : TurnProcessor σ)
  (asks : Turn → World σ → List ReplayQueue.Handling)

/-- What a use moves, as its answer tells. -/
def movements (station : Station σ) (use : Use) : List Movement :=
  match use, (station.perform services process use).1 with
  | .handle (.submit activity), .done => [.accepted activity]
  | .handle .addHandle, .done => [.handleMade]
  | .handle .dropHandle, .done => [.handleGone]
  | .tryReceive, .found (some activity) => [.left activity .taken]
  | .receive, .shown (.received activity) => [.left activity .taken]
  | .dropReceiver, .done => station.world.queue.waiting.map (.left · .discarded)
  | .drain limit, .drained _ => Replay.movements services process asks limit station.world
  | .poll limit, .polled _ =>
      if station.receiver = .running true ∧ station.shutdown = true then
        station.world.queue.waiting.map (.left · .discarded)
      else Replay.movements services process asks limit station.world
  | _, _ => []

/-- What several uses move, one after the other. -/
def history (station : Station σ) : List Use → List Movement
  | [] => []
  | use :: rest =>
      station.movements services process asks use ++
        (station.perform services process use).2.history rest

variable {services process asks} {station : Station σ}

/-- A worker that runs, and minds no shutdown, does what draining does, and has come to its end if
nothing waits then and no handle is left. -/
theorem poll_of_awake {untilShutdown : Bool}
    (running : station.held (.running untilShutdown) = true)
    (awake : (untilShutdown && station.shutdown) = false) (limit : Nat) :
    station.perform services process (.poll limit) =
      let left := (station.replay services process limit).2
      if left.world.queue.waiting = [] ∧ left.world.queue.handles = 0 then
        (.polled true, left.withQueue { left.world.queue with receiving := false })
      else (.polled false, left) := by
  obtain ⟨receiving, receiver⟩ := Bool.and_eq_true_iff.mp running
  simp only [perform, of_decide_eq_true receiver, receiving, if_true, goOn, awake,
    Bool.false_eq_true, if_false]
  split
  · rename_i closed
    have nothing := ReplayQueue.receive_eq_closed.mp closed
    rw [if_pos nothing, finish, ReplayQueue.dropReceiver, nothing.1]
  · rename_i opened
    exact (if_neg (mt ReplayQueue.receive_eq_closed.mpr opened)).symm

theorem moves_handle (handling : ReplayQueue.Handling) :
    ReplayQueue.Moves (station.movements services process asks (.handle handling))
      station.world.queue
      (station.perform services process (.handle handling)).2.world.queue := by
  by_cases closed : station.world.queue.handles = 0
  · simp only [movements, perform, if_pos closed]
    exact .refl _
  · have moves := ReplayQueue.Moves.handled station.world.queue handling
    simp only [movements, perform, if_neg closed]
    cases handling with
    | submit activity =>
        simp only [ReplayQueue.movements, ReplayQueue.handled, ReplayQueue.handle] at moves ⊢
        cases accepted : station.world.queue.submit activity with
        | ok queue =>
            simp only [accepted] at moves
            exact moves
        | error error => exact .refl _
    | addHandle =>
        rw [ReplayQueue.movements, if_neg closed] at moves
        exact moves
    | dropHandle =>
        rw [ReplayQueue.movements, if_neg closed] at moves
        exact moves

theorem moves_poll (follows : Replay.Asks process asks) (limit : Nat) {untilShutdown : Bool}
    (running : station.held (.running untilShutdown) = true) :
    ReplayQueue.Moves (station.movements services process asks (.poll limit)) station.world.queue
      (station.perform services process (.poll limit)).2.world.queue := by
  obtain ⟨receiving, receiver⟩ := Bool.and_eq_true_iff.mp running
  have receiver := of_decide_eq_true receiver
  cases awake : untilShutdown && station.shutdown with
  | true =>
      obtain ⟨rfl, asked⟩ := Bool.and_eq_true_iff.mp awake
      simp only [movements, perform, receiver, receiving, goOn, asked, Bool.and_self, if_true,
        and_self]
      exact .discarded _
  | false =>
      have minds : ¬(station.receiver = .running true ∧ station.shutdown = true) := by
        rintro ⟨same, asked⟩
        cases receiver.symm.trans same
        cases awake.symm.trans asked
      have moves : ReplayQueue.Moves
          (Replay.movements services process asks limit station.world) station.world.queue
          (station.replay services process limit).2.world.queue :=
        Replay.moves_drain follows limit station.world
      have polled := @poll_of_awake _ services process _ _ running awake limit
      by_cases closed : (station.replay services process limit).2.world.queue.waiting = [] ∧
          (station.replay services process limit).2.world.queue.handles = 0
      · simp only [if_pos closed] at polled
        simp only [movements, polled, if_neg minds]
        exact ⟨moves.order, moves.submitted, moves.processed, moves.failed, moves.handles⟩
      · simp only [if_neg closed] at polled
        simp only [movements, polled, if_neg minds]
        exact moves

/-- A use moves what its answer tells. -/
theorem moves_perform (follows : Replay.Asks process asks) (use : Use) :
    ReplayQueue.Moves (station.movements services process asks use) station.world.queue
      (station.perform services process use).2.world.queue := by
  cases use with
  | handle handling => exact moves_handle handling
  | tryReceive =>
      by_cases free : station.held .free = true
      · simp only [movements, perform, if_pos free, ReplayQueue.take?]
        cases waiting : station.world.queue.waiting with
        | nil => exact .refl _
        | cons activity rest => exact .taken waiting
      · simp only [movements, perform, if_neg free]
        exact .refl _
  | receive =>
      by_cases free : station.held .free = true
      · simp only [movements, perform, if_pos free, ReplayQueue.receive, ReplayQueue.take?]
        cases waiting : station.world.queue.waiting with
        | nil =>
            by_cases closed : station.world.queue.handles = 0
            · simp only [if_pos closed]
              exact .refl _
            · simp only [if_neg closed]
              exact .refl _
        | cons activity rest => exact .taken waiting
      · simp only [movements, perform, if_neg free]
        exact .refl _
  | dropReceiver => exact .discarded _
  | makeWorker =>
      simp only [movements, perform]
      split <;> exact .refl _
  | drain limit =>
      by_cases worker : station.held .worker = true
      · simp only [movements, perform, if_pos worker]
        exact Replay.moves_drain follows limit station.world
      · simp only [movements, perform, if_neg worker]
        exact .refl _
  | run untilShutdown =>
      simp only [movements, perform]
      split <;> exact .refl _
  | poll limit =>
      cases receiver : station.receiver with
      | free | worker =>
          simp only [movements, perform, receiver]
          exact .refl _
      | running untilShutdown =>
          cases receiving : station.world.queue.receiving with
          | true =>
              have running : station.held (.running untilShutdown) = true := by
                simp [held, receiver, receiving]
              exact moves_poll follows limit running
          | false =>
              simp only [movements, perform, receiver, receiving, Bool.false_eq_true, if_false]
              exact .refl _
  | shutdown => exact .refl _

/-- Uses move what their history tells. -/
theorem moves_run (follows : Replay.Asks process asks) (uses : List Use) :
    ReplayQueue.Moves (station.history services process asks uses) station.world.queue
      (station.run services process uses).world.queue := by
  induction uses generalizing station with
  | nil => exact .refl _
  | cons use rest ih => exact (moves_perform follows use).trans ih

/-- A receiving end that is gone does not come back. -/
theorem gone_perform (gone : station.world.queue.receiving = false) (use : Use) :
    (station.perform services process use).2.world.queue.receiving = false := by
  have unheld (receiver : Receiver) : station.held receiver = false := by simp [held, gone]
  cases use with
  | handle handling =>
      simp only [perform]
      split
      · exact gone
      · split
        · rename_i queue handled
          exact (ReplayQueue.receiving_of_handle handled).trans gone
        · exact gone
  | tryReceive | receive | makeWorker | drain | run => simpa [perform, unheld] using gone
  | dropReceiver => rfl
  | poll limit =>
      simp only [perform]
      split
      · simp [gone]
      · exact gone
  | shutdown => exact gone

/-- Nothing more is accepted once the receiving end is gone. -/
theorem refused_of_gone (gone : station.world.queue.receiving = false)
    (left : station.world.queue.handles ≠ 0) (activity : Activity) :
    station.perform services process (.handle (.submit activity)) =
      (.refused (.deliveryFailed "continuation receiver dropped"), station) := by
  simp [perform, left, ReplayQueue.handle, ReplayQueue.submit, gone]

/-- A look at the receiving end shows that it is closed only if nothing waits and no handle is
left. -/
theorem shows_closed : (station.perform services process .receive).1 = .shown .closed ↔
    station.held .free = true ∧ station.world.queue.waiting = [] ∧
      station.world.queue.handles = 0 := by
  rw [← ReplayQueue.receive_eq_closed]
  by_cases free : station.held .free = true
  · simp [perform, free]
  · simp [perform, free]

/-- Draining tells how many turns were run, and stops for nothing but its limit and an empty
queue. -/
theorem drained (follows : Replay.Asks process asks) {limit count : Nat} {after : Station σ}
    (drained : station.perform services process (.drain limit) = (.drained count, after)) :
    after.world.queue.tally.processed + after.world.queue.tally.failed =
        station.world.queue.tally.processed + station.world.queue.tally.failed + count ∧
      (count = limit ∨ after.world.queue.waiting = []) := by
  by_cases worker : station.held .worker = true
  · simp only [perform, if_pos worker, replay] at drained
    cases drained
    refine ⟨?_, Replay.drain_stops limit station.world⟩
    have moves : ReplayQueue.Moves
        (Replay.movements services process asks limit station.world) station.world.queue
        (Replay.drain services process limit station.world).2.queue :=
      Replay.moves_drain follows limit station.world
    rw [Replay.count_drain asks, moves.processed, moves.failed]
    omega
  · simp [perform, if_neg worker] at drained

/-- On a closed queue, running a worker comes to what draining comes to. -/
theorem run_eq_drain (follows : Replay.Asks process asks) (worker : station.held .worker = true)
    (closed : station.world.queue.handles = 0) {untilShutdown : Bool}
    (awake : (untilShutdown && station.shutdown) = false) {limit : Nat}
    (ends : (station.perform services process (.drain limit)).2.world.queue.waiting = []) :
    let drained := (station.perform services process (.drain limit)).2
    let running := (station.perform services process (.run untilShutdown)).2
    running.perform services process (.poll limit) =
        (.polled true, { running with
          world := { drained.world with
            queue := { drained.world.queue with receiving := false } } }) ∧
      running.movements services process asks (.poll limit) =
        station.movements services process asks (.drain limit) := by
  let running : Station σ := { station with receiver := .running untilShutdown }
  have started : (station.perform services process (.run untilShutdown)).2 = running := by
    simp only [perform, if_pos worker, running]
  have receiving : station.world.queue.receiving = true := (Bool.and_eq_true_iff.mp worker).1
  have held : running.held (.running untilShutdown) = true := by
    simp [Station.held, running, receiving]
  have handleless : (Replay.drain services process limit station.world).2.queue.handles = 0 :=
    Replay.handles_drain follows limit closed
  have polled := @poll_of_awake _ services process running _ held awake limit
  simp only [perform, if_pos worker, replay] at ends
  dsimp only
  rw [started]
  have stopped : (running.replay services process limit).2.world.queue.waiting = [] ∧
      (running.replay services process limit).2.world.queue.handles = 0 := ⟨ends, handleless⟩
  simp only [if_pos stopped] at polled
  have minds : ¬(running.receiver = .running true ∧ running.shutdown = true) := by
    rintro ⟨⟨⟩, asked⟩
    cases awake.symm.trans asked
  refine ⟨?_, ?_⟩
  · rw [polled]
    simp only [perform, if_pos worker]
    rfl
  · simp only [movements, polled, if_neg minds]
    simp only [perform, if_pos worker]
    rfl

/-! ### The accounts -/

variable (services process asks) in
/-- What is true of a station once movements have come to pass at it. -/
structure Accounts (movements : List Movement) (station : Station σ) : Prop where
  order : movements.filterMap Movement.accepted? =
    movements.filterMap Movement.left? ++ station.world.queue.waiting
  submitted : station.world.queue.tally.submitted =
    (movements.filterMap Movement.accepted?).length
  processed : station.world.queue.tally.processed =
    movements.countP (Movement.meets (.replayed true))
  failed : station.world.queue.tally.failed = movements.countP (Movement.meets (.replayed false))
  balance : station.world.queue.tally.submitted =
    station.world.queue.tally.processed + station.world.queue.tally.failed +
      station.world.queue.waiting.length + movements.countP (Movement.meets .taken) +
        movements.countP (Movement.meets .discarded)
  /-- Once the receiving end is gone, the queue accepts nothing. -/
  refused : station.world.queue.receiving = false → station.world.queue.handles ≠ 0 →
    ∀ activity, station.perform services process (.handle (.submit activity)) =
      (.refused (.deliveryFailed "continuation receiver dropped"), station)
  /-- A receiving end that is gone does not come back. -/
  gone : station.world.queue.receiving = false → ∀ use,
    (station.perform services process use).2.world.queue.receiving = false
  /-- A look shows that the queue is closed if every handle is given up and nothing waits. -/
  closed : (station.perform services process .receive).1 = .shown .closed ↔
    station.held .free = true ∧ station.world.queue.waiting = [] ∧
      movements.countP Movement.drops = movements.countP Movement.makes + 1
  /-- Draining tells how many turns were run, and no failure stops it. -/
  drained : ∀ limit count after,
    station.perform services process (.drain limit) = (.drained count, after) →
      after.world.queue.tally.processed + after.world.queue.tally.failed =
          station.world.queue.tally.processed + station.world.queue.tally.failed + count ∧
        (count = limit ∨ after.world.queue.waiting = [])
  /-- A worker that runs does what draining does, no failure stops it either, and it ends once the
  queue is closed. -/
  polled : ∀ untilShutdown limit, station.held (.running untilShutdown) = true →
    (untilShutdown && station.shutdown) = false →
      let count := (station.replay services process limit).1
      let left := (station.replay services process limit).2
      (count = limit ∨ left.world.queue.waiting = []) ∧
        station.perform services process (.poll limit) =
          if left.world.queue.waiting = [] ∧ left.world.queue.handles = 0 then
            (.polled true, left.withQueue { left.world.queue with receiving := false })
          else (.polled false, left)
  /-- On a closed queue, running a worker comes to what draining comes to. -/
  ran : ∀ untilShutdown limit, station.held .worker = true → station.world.queue.handles = 0 →
    (untilShutdown && station.shutdown) = false →
      (station.perform services process (.drain limit)).2.world.queue.waiting = [] →
        let drained := (station.perform services process (.drain limit)).2
        let running := (station.perform services process (.run untilShutdown)).2
        running.perform services process (.poll limit) =
            (.polled true, { running with
              world := { drained.world with
                queue := { drained.world.queue with receiving := false } } }) ∧
          running.movements services process asks (.poll limit) =
            station.movements services process asks (.drain limit)

/-- Whatever is done at a new station, and whatever its turns ask of the queue, the accounts of the
station add up. -/
theorem accounts_add_up (follows : Replay.Asks process asks) (host : σ) (uses : List Use) :
    Accounts services process asks ((start host).history services process asks uses)
      ((start host).run services process uses) := by
  let movements := (start host).history services process asks uses
  let station := (start host).run services process uses
  have moves : ReplayQueue.Moves movements .new station.world.queue :=
    @moves_run _ services process asks (start host) follows uses
  have submitted := moves.submitted.trans (Nat.zero_add _)
  have processed := moves.processed.trans (Nat.zero_add _)
  have failed := moves.failed.trans (Nat.zero_add _)
  have handles : station.world.queue.handles + movements.countP Movement.drops =
      1 + movements.countP Movement.makes := moves.handles
  have balance : station.world.queue.tally.submitted =
      station.world.queue.tally.processed + station.world.queue.tally.failed +
        station.world.queue.waiting.length + movements.countP (Movement.meets .taken) +
          movements.countP (Movement.meets .discarded) := by
    have lengths : (movements.filterMap Movement.accepted?).length =
        (movements.filterMap Movement.left?).length + station.world.queue.waiting.length := by
      rw [← List.length_append]
      exact congrArg List.length moves.order
    rw [submitted, processed, failed, lengths, Movement.length_left]
    omega
  refine ⟨moves.order, submitted, processed, failed, balance, refused_of_gone, gone_perform,
    shows_closed.trans ?_, fun _ _ _ => drained follows,
    fun _ limit running awake =>
      ⟨Replay.drain_stops limit station.world, poll_of_awake running awake limit⟩,
    fun _ _ worker closed awake => run_eq_drain follows worker closed awake⟩
  have closed : station.world.queue.handles = 0 ↔
      movements.countP Movement.drops = movements.countP Movement.makes + 1 := by omega
  rw [closed]

/-- A processor whose turns queue one more activity if they are told so, and fail if they are told
so. -/
def echo : TurnProcessor Unit := fun turn =>
  if turn.activity.text = some "again" then
    Action.submit .lenient (.message "chat" "ada" "room" "stop")
  else if turn.activity.text = some "stop" then throw (.handlerFailed "stopped")
  else pure ()

/-- What those turns ask of the queue. -/
def echoAsks (turn : Turn) (_ : World Unit) : List ReplayQueue.Handling :=
  if turn.activity.text = some "again" then [.submit (.message "chat" "ada" "room" "stop")] else []

/-- Before a host that refuses nothing, an action submits as whoever has a handle does. -/
theorem queue_submit (activity : Activity) (world : World σ) :
    (remains (Action.submit .lenient activity world)).queue =
      world.queue.handled (.submit activity) := by
  have ends : Ends (Action.submit .lenient activity) world
      (fun _ after => after.queue = world.queue.handled (.submit activity))
      (fun _ after => after.queue = world.queue.handled (.submit activity)) := by
    simp only [Action.submit, ends_bind, Action.ends_ofHost, Services.lenient, ends_pure, ends_get,
      ends_ofExcept, ends_modify, Action.ends_changeHost]
    refine ⟨fun queue accepted => ?_, fun error refused => ?_⟩
    · simp only [ReplayQueue.handled, ReplayQueue.handle, accepted]
    · simp only [ReplayQueue.handled, ReplayQueue.handle, refused]
  exact ends.left

theorem asks_echo : Replay.Asks echo echoAsks := by
  intro turn world
  unfold echo echoAsks
  split
  · exact queue_submit _ world
  · split <;> rfl

/-- Uses of a station: turns of its worker succeed, fail and queue one more, somebody receives by
hand, and in the end the worker runs until the queue is closed. -/
def echoUses : List Use :=
  [.handle (.submit (.message "chat" "ada" "room" "hello")), .receive, .handle .addHandle,
    .handle (.submit (.message "chat" "ada" "room" "again")),
    .handle (.submit (.message "chat" "bob" "room" "stop")), .makeWorker, .drain 2,
    .handle .dropHandle, .handle .dropHandle, .run false, .poll 1, .dropReceiver]

/-- One activity was taken, two turns have failed and one has succeeded. -/
theorem echo_accounts_add_up :
    Replay.Asks echo echoAsks ∧
      ((start ()).run .lenient echo echoUses).world.queue.tally = ⟨4, 1, 2⟩ ∧
      Accounts .lenient echo echoAsks ((start ()).history .lenient echo echoAsks echoUses)
        ((start ()).run .lenient echo echoUses) :=
  ⟨asks_echo, by decide +kernel, accounts_add_up asks_echo () echoUses⟩

end Station
end SignInFlow
