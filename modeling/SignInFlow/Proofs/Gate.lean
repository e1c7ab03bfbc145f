import SignInFlow.Proofs.Passage

/-!
# The gate comes down to steps

A turn passes the gate in a step or two, whichever way it comes out: the handler answers, and what
follows from the answer is stored, queued and reported in one go.
-/

namespace SignInFlow

variable {σ : Type} {auth : Authenticator σ} {services : Services σ} {turn : Turn}
  {view after : View}

/-- A flow that is written back and reported with nothing but that the turn goes on. -/
theorem Services.Writes.persists {flow : Flow} {passes : Bool} {outcome : Except Error Bool}
    (writes : services.Writes turn flow passes view outcome after) :
    Persists turn flow (if passes then [.admitted turn] else []) view
      (after.goesOn (outcome.toOption.getD false) turn) := by
  cases writes with
  | kept => cases passes <;> exact .kept
  | refused access error storage refuses => exact .refused access storage

namespace Authenticator

variable {flow : Flow} {handler : String} {requested : Option String}
  {answer : Response} {outcome : Except Error Bool}

/-- The gate asks as the flow that it has loaded calls for. -/
theorem asks_of_chosen (chosen : auth.handlerFor flow requested = .ok handler) :
    Asker.gate.Asks flow ⟨handler, !flow.isActive, flow.exchange⟩ := by
  cases flow with
  | idle => rfl
  | active owner banked =>
      cases chosen
      exact ⟨rfl, rfl⟩

/-- A flow starts with a handler that exists. -/
theorem known_of_chosen (chosen : auth.handlerFor .idle requested = .ok handler) :
    auth.dispatcher.contains handler = true := by
  simp only [handlerFor, requestedHandler] at chosen
  split at chosen
  · rename_i contained
    cases chosen
    exact contained
  · cases chosen

/-- Queueing a continuation and clearing the flow after it is one step, wherever it stops. -/
theorem step_of_handsOn {banked : Banked} {activity : Activity}
    (loaded : Flow.load view.state = .ok (.active handler (some banked)))
    (continues : auth.continuation turn handler answer.effective banked = some activity)
    (hands : services.HandsOn turn activity false (view.hear .gate turn
      ⟨handler, false, (Flow.active handler (some banked)).exchange⟩ (.ok answer)) outcome after) :
    auth.Step turn view (after.goesOn (outcome.toOption.getD false) turn) := by
  have asks : ∃ flow, Flow.load view.state = .ok flow ∧ Asker.gate.Asks flow
      ⟨handler, false, (Flow.active handler (some banked)).exchange⟩ := ⟨_, loaded, rfl, rfl⟩
  cases hands with
  | balked error refuses => exact .balked _ _ activity asks rfl
  | closed error rejected =>
      have deaf : view.queue.receiving = false := by
        unfold ReplayQueue.submit at rejected
        split at rejected
        · cases rejected
        · rename_i deaf
          simpa using deaf
      exact .heard .gate _ (.ok answer) rfl (fun _ _ _ => .inr deaf) asks
  | queued queue accepted writes =>
      rw [View.hear_queue] at accepted
      exact .handedOn handler banked _ answer activity queue loaded continues accepted
        writes.persists rfl

/-- A flow with nothing to queue that has failed is cleared and reported in one step. -/
theorem step_of_failure (loaded : Flow.load view.state = .ok flow)
    (chosen : auth.handlerFor flow requested = .ok handler)
    (failed : answer.effective.status = .error)
    (ends : flow.banked.bind (auth.continuation turn handler answer.effective) = none)
    (now : Instant) (persists : Persists turn .idle
      [auth.failureEvent turn (failureOf turn flow handler answer.effective) now]
      (view.hear .gate turn ⟨handler, !flow.isActive, flow.exchange⟩ (.ok answer)) after) :
    auth.Step turn view after := by
  have settles (empty : flow.banked = none) : auth.Step turn view after := by
    rw [failureOf, empty] at persists
    exact .settled flow ⟨handler, !flow.isActive, flow.exchange⟩ answer
      [auth.failureEvent turn ⟨handler, answer.effective, turn.activity⟩ now] loaded empty
      (.failure failed now) persists (asks_of_chosen chosen)
  rcases flow with _ | ⟨owner, _ | (trigger | event)⟩
  · exact settles rfl
  · exact settles rfl
  · obtain rfl : owner = handler := Except.ok.inj chosen
    exact .gaveUp owner trigger none answer now loaded failed persists rfl
  · simp [Flow.banked, continuation, failed] at ends

/-- A flow with nothing to queue that has given a token is cleared, and the turn goes on. -/
theorem reaches_of_success (loaded : Flow.load view.state = .ok flow)
    (chosen : auth.handlerFor flow requested = .ok handler)
    (complete : answer.effective.status = .complete)
    (ends : flow.banked.bind (auth.continuation turn handler answer.effective) = none)
    (persists : Persists turn .idle [.admitted turn]
      (view.hear .gate turn ⟨handler, !flow.isActive, flow.exchange⟩ (.ok answer)) after) :
    auth.Reaches turn view after := by
  -- Where nothing is banked, clearing the flow is a step of its own.
  have settles (empty : flow.banked = none) : auth.Reaches turn view after := by
    have asks := asks_of_chosen chosen
    cases persists with
    | kept =>
        exact .tail
          (.single (.settled flow _ answer _ loaded empty (.success complete) .kept asks)) .admitted
    | refused access storage =>
        exact .single (.settled flow _ answer _ loaded empty (.success complete)
          (.refused access storage) asks)
  rcases flow with _ | ⟨owner, _ | (trigger | event)⟩
  · exact settles rfl
  · exact settles rfl
  · obtain rfl : owner = handler := Except.ok.inj chosen
    have own : (trigger == turn.activity) = true := by
      simpa [Flow.banked, continuation, complete] using ends
    exact .single (.proceeded owner trigger none answer loaded complete own persists rfl)
  · simp [Flow.banked, continuation, complete] at ends

theorem reaches_of_settles (loaded : Flow.load view.state = .ok flow)
    (chosen : auth.handlerFor flow requested = .ok handler)
    (settles : auth.Settles services turn flow handler answer.effective
      (view.hear .gate turn ⟨handler, !flow.isActive, flow.exchange⟩ (.ok answer)) outcome after) :
    auth.Reaches turn view (after.goesOn (outcome.toOption.getD false) turn) := by
  have asks := asks_of_chosen chosen
  cases settles with
  | stays active pending =>
      refine .single (.heard .gate _ (.ok answer) (by simp [Event.begins, active]) ?_
        ⟨flow, loaded, asks⟩)
      rintro _ _ ⟨⟩
      exact .inl pending
  | begins idle pending writes =>
      subst idle
      exact .single (.began .gate ⟨handler, true, none⟩ answer loaded (known_of_chosen chosen) rfl
        pending writes.persists)
  | handsOn banked holds activity continues hands =>
      cases flow with
      | idle => cases holds
      | active owner held =>
          cases holds
          cases chosen
          exact .single (step_of_handsOn loaded continues hands)
  | sticks failed ends error writes =>
      cases writes with
      | refused access error storage refuses =>
          exact .single (step_of_failure loaded chosen failed ends .epoch
            (.refused access storage))
  | reports failed ends writes now outcome told =>
      have silent : outcome.toOption.getD false = false := by
        rcases told with rfl | ⟨error, rfl, -⟩ <;> rfl
      rw [silent]
      cases writes with
      | kept => exact .single (step_of_failure loaded chosen failed ends now .kept)
  | goesOn complete ends writes =>
      exact reaches_of_success loaded chosen complete ends writes.persists

theorem Passage.reaches {cancelled : Bool}
    (passage : auth.Passage services turn requested cancelled view outcome after) :
    auth.Reaches turn view (after.goesOn (outcome.toOption.getD false) turn) := by
  cases passage with
  | halted late => exact .refl
  | garbled timely error unread => exact .refl
  | waved timely idle => exact .single .admitted
  | unknown timely error idle missing => exact .refl
  | faulted timely flow handler loaded chosen error faults =>
      exact .single (.heard .gate _ (.error error) rfl (fun _ _ answered => by cases answered)
        ⟨flow, loaded, asks_of_chosen chosen⟩)
  | answered timely flow handler loaded chosen answer settles =>
      exact reaches_of_settles loaded chosen settles

variable (auth services turn) {scope : Scope (Recorded σ)}

/-- The gate comes down to steps, the last of which is that the turn goes on if it passes. -/
theorem ends_startOrContinue (requested : Option String) :
    Ends ((auth.recorded .gate).startOrContinue (services.recorded turn) turn requested) scope
      (fun passes after => auth.Reaches turn scope.view (after.view.goesOn passes turn))
      (fun _ after => auth.Reaches turn scope.view after.view) :=
  (yields_startOrContinue auth services turn requested).mono (fun _ _ => Passage.reaches)
    (fun _ _ => Passage.reaches)

end Authenticator
end SignInFlow
