import SignInFlow.Replay.Worker

/-!
# The worker at its queue

One replay takes the oldest activity off the queue and runs its turn.  Draining comes to an end if
every replay makes something smaller, whatever turns queue.
-/

namespace SignInFlow

/-- What the queue is once it has accepted an activity. -/
theorem ReplayQueue.eq_of_submit {queue after : ReplayQueue} {activity : Activity}
    (accepted : queue.submit activity = .ok after) :
    after.waiting = queue.waiting ++ [activity] ∧ after.receiving = queue.receiving := by
  unfold submit at accepted
  split at accepted
  · cases accepted
    exact ⟨rfl, rfl⟩
  · cases accepted

namespace Replay

variable {σ : Type} {services : Services σ} {process : TurnProcessor σ} {world after : World σ}

/-- What a replay takes, and what it runs. -/
theorem step_eq_some : step services process world = some after ↔
    ∃ activity rest, world.queue.waiting = activity :: rest ∧
      dispatch services process activity
        { world with queue := { world.queue with waiting := rest } } = after := by
  unfold step ReplayQueue.take?
  cases waiting : world.queue.waiting with
  | nil => simp
  | cons activity rest =>
      constructor
      · intro found
        exact ⟨activity, rest, rfl, Option.some.inj found⟩
      · rintro ⟨_, _, same, rfl⟩
        cases same
        rfl

theorem step_eq_none : step services process world = none ↔ world.queue.waiting = [] := by
  unfold step ReplayQueue.take?
  cases waiting : world.queue.waiting with
  | nil => simp
  | cons activity rest => simp

theorem drain_of_step_eq_none (stop : step services process world = none) (limit : Nat) :
    drain services process limit world = (0, world) := by
  cases limit with
  | zero => rfl
  | succ limit => simp only [drain, stop]

theorem drain_of_step_eq_some (next : step services process world = some after) (limit : Nat) :
    drain services process (limit + 1) world =
      ((drain services process limit after).1 + 1, (drain services process limit after).2) := by
  simp only [drain, next]

/-- If every replay makes a weight smaller, draining empties the queue with no more replays than the
weight at first, and no limit above their number makes a difference. -/
theorem drain_of_descends {weight : World σ → Nat}
    (descends : ∀ world after, step services process world = some after →
      weight after < weight world) (world : World σ) :
    ∃ count left, count ≤ weight world ∧ left.queue.waiting = [] ∧
      ∀ limit, count ≤ limit → drain services process limit world = (count, left) := by
  induction bound : weight world using Nat.strongRecOn generalizing world with
  | ind bound ih =>
      subst bound
      cases next : step services process world with
      | none =>
          exact ⟨0, world, Nat.zero_le _, step_eq_none.mp next, fun limit _ =>
            drain_of_step_eq_none next limit⟩
      | some after =>
          have lighter := descends world after next
          obtain ⟨count, left, within, emptied, drains⟩ := ih (weight after) lighter after rfl
          have fewer : count + 1 ≤ weight world := Nat.lt_of_le_of_lt within lighter
          refine ⟨count + 1, left, fewer, emptied, fun limit enough => ?_⟩
          obtain ⟨limit, rfl⟩ := Nat.exists_eq_add_of_le' (Nat.one_le_of_lt enough)
          rw [drain_of_step_eq_some next, drains limit (Nat.le_of_succ_le_succ enough)]

end Replay
end SignInFlow
