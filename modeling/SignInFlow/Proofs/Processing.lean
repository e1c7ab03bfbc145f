import SignInFlow.Proofs.Accounting
import SignInFlow.Proofs.Sessions

/-!
# The gateway behind a worker

A gateway touches the replay queue only by submitting to it, so that the accounts of a queue add up
while a worker has the gateway process what is replayed.
-/

namespace SignInFlow

variable {σ : Type}

namespace ReplayQueue

/-- A queue has come from another one through its handles. -/
def Fed (queue after : ReplayQueue) : Prop := ∃ handlings, after = queue.handledAll handlings

variable {queue middle after : ReplayQueue}

theorem Fed.refl (queue : ReplayQueue) : Fed queue queue := ⟨[], rfl⟩

theorem Fed.trans (fed : Fed queue middle) (more : Fed middle after) : Fed queue after := by
  obtain ⟨handlings, rfl⟩ := fed
  obtain ⟨others, rfl⟩ := more
  exact ⟨handlings ++ others, (List.foldl_append ..).symm⟩

theorem Fed.of_eq (same : after = queue) : Fed queue after := same ▸ .refl queue

theorem fed_of_submit {activity : Activity} (accepted : queue.submit activity = .ok after) :
    Fed queue after := by
  refine ⟨[.submit activity], ?_⟩
  simp only [handledAll, List.foldl_cons, List.foldl_nil, handled, handle, accepted]

end ReplayQueue

section

variable {auth : Authenticator σ} {turn : Turn} {view after : View}

theorem Persists.queue {flow : Flow} {report : List Event}
    (persists : Persists turn flow report view after) : after.queue = view.queue := by
  refine persists.keeps (motive := fun left => left.queue = view.queue) ?_ (fun _ _ => rfl) ?_
  · rw [View.saved_queue, View.hold_queue]
  · exact fun _ _ _ same => same

theorem fed_of_step (step : auth.Step turn view after) : view.queue.Fed after.queue := by
  cases step with
  | heard asker request answer => exact .of_eq (View.hear_queue _ _ _ _ _)
  | balked request answer activity => exact .of_eq (View.hear_queue _ _ _ _ _)
  | refused access storage => exact .refl _
  | disappointed request response => exact .of_eq (View.hear_queue _ _ _ _ _)
  | admitted => exact .refl _
  | told report => exact .refl _
  | began asker request response idle known forced pending persists =>
      exact .of_eq (persists.queue.trans (View.hear_queue _ _ _ _ _))
  | handedOn handler banked exchange response activity queue active continues accepted persists =>
      exact (ReplayQueue.fed_of_submit accepted).trans (.of_eq persists.queue)
  | proceeded handler trigger exchange response active complete own persists =>
      exact .of_eq (persists.queue.trans (View.hear_queue _ _ _ _ _))
  | gaveUp handler trigger exchange response now active failed persists =>
      exact .of_eq (persists.queue.trans (View.hear_queue _ _ _ _ _))
  | settled flow request response report loaded empty reports persists =>
      exact .of_eq (persists.queue.trans (View.hear_queue _ _ _ _ _))
  | parted way handler outcome => exact .of_eq (View.part_queue _ _ _ _ _)
  | withdrawn way handler banked active persists =>
      exact .of_eq (persists.queue.trans (View.part_queue _ _ _ _ _))
  | set => exact .refl _
  | remove => exact .refl _
  | saved => exact .of_eq (View.saved_queue _ _)

theorem fed_of_reaches (reaches : auth.Reaches turn view after) : view.queue.Fed after.queue := by
  induction reaches with
  | refl => exact .refl _
  | tail _ step ih => exact ih.trans (fed_of_step step)

theorem fed_of_completes (completes : auth.Completes turn view after) :
    view.queue.Fed after.queue := by
  cases completes with
  | nothing => exact .refl _
  | reported => exact .refl _

end

/-- Loading the state of a user leaves the queue as it is. -/
theorem ends_load_queue (services : Services σ) (turn : Turn) {world : World (Recorded σ)} :
    Ends (UserState.load (services.recorded turn) turn.activity) world
      (fun _ after => after.queue = world.queue) (fun _ after => after.queue = world.queue) := by
  simp only [UserState.load, Storage.read, ends_bind, ends_ofExcept, ends_get, ends_pure,
    Action.ends_changeHost]
  refine ⟨fun key _ => ?_, fun _ _ => trivial⟩
  refine (TurnAction.ends_permit services turn (.read [key])).mono ?_ ?_
  · rintro _ _ ⟨host, rfl⟩
    exact ⟨fun _ _ => rfl, fun _ _ => rfl⟩
  · rintro _ _ ⟨-, host, rfl⟩
    rfl

namespace Site

variable (site : Site σ)

theorem fed_process (turn : Turn) (cancelled : Bool) (world : World (Recorded σ)) :
    world.queue.Fed (remains (site.recorded.process turn cancelled world)).queue := by
  have ends : Ends (site.recorded.process turn cancelled) world
      (fun _ after => world.queue.Fed after.queue)
      (fun _ after => world.queue.Fed after.queue) := by
    simp only [Deployment.process, Gateway.process, ends_bind]
    refine ((ends_load site.services turn).and (ends_load_queue site.services turn)).mono ?_ ?_
    · rintro state loaded ⟨loads, same⟩
      rw [ends_run]
      have begun : world.queue.Fed loaded.queue := .of_eq same
      cases completion : site.auth.isCompletionEvent turn.activity with
      | true =>
          exact (ends_route_of_completion site completion loads.clean).mono
            (fun _ _ completes => begun.trans (fed_of_completes completes))
            (fun _ _ completes => begun.trans (fed_of_completes completes))
      | false =>
          exact (ends_route_of_ordinary site completion).mono
            (fun _ _ reaches => begun.trans (fed_of_reaches reaches))
            (fun _ _ reaches => begun.trans (fed_of_reaches reaches))
    · exact fun _ _ unread => .of_eq unread.2
  exact ends.left

/-- A site touches the queue in its turns only as whoever has a handle can. -/
theorem asks_process :
    ∃ asks, Replay.Asks (fun turn => site.deployment.process turn false) asks := by
  have fed (turn : Turn) (world : World σ) : ∃ handlings,
      (remains (site.deployment.process turn false world)).queue =
        world.queue.handledAll handlings := by
    obtain ⟨handlings, same⟩ := fed_process site turn false world.blank
    refine ⟨handlings, ?_⟩
    have mirrors : site.deployment.process turn false world =
        seenAs World.erase (site.recorded.process turn false world.blank) :=
      mirrors_process site turn false world.blank
    rw [mirrors]
    cases ended : site.recorded.process turn false world.blank <;>
    · rw [ended] at same
      exact same
  exact ⟨fun turn world => (fed turn world).choose, fun turn world => (fed turn world).choose_spec⟩

end Site
end SignInFlow
