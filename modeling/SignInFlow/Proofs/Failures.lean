import SignInFlow.Proofs.Overlap

/-!
# What a failed call leaves

Passing the gate or signing in explicitly may fail at many points.  Wherever that is, no document
has changed, unless a flow was cleared and its failure could not be reported, and nothing is queued,
unless the write after it was refused.  A call that fails before it has an answer changes nothing.
-/

namespace SignInFlow

variable {σ α : Type}

namespace Attempt

variable (auth : Authenticator σ) (services : Services σ) (turn : Turn)

/-- What a failed call makes of the stored documents. -/
inductive Conserves (error : Error) (before after : View) : Attempt → Prop where
  /-- They are as they were; at the gate, nothing was reported. -/
  | untouched {attempt : Attempt} (documents : after.documents = before.documents)
      (untold : ∀ requested, attempt = .gate requested →
        after.log.countP Event.isReport = before.log.countP Event.isReport) :
      Conserves error before after attempt
  /-- A flow without a completion event has failed at the gate, and whoever was to hear of it fails.
  The flow is cleared by then, if there was one. -/
  | muted (requested : Option String) (flow : Flow) (request : Request) (response : Response)
      (now : Instant) (loaded : Flow.load before.state = .ok flow)
      (failed : response.effective.status = .error)
      (unbanked : ∀ event, flow.banked ≠ some (.completion event))
      (answered : .answered .gate turn request (.ok response) :: before.log <:+ after.log)
      (told : after.log.head? = some (auth.failureEvent turn
        (Authenticator.failureOf turn flow request.handler response.effective) now))
      (mutes : auth.Mutes services turn
        (Authenticator.failureOf turn flow request.handler response.effective) error)
      (cleared : Flow.stored after.documents before.state.key = .ok .idle ∨
        flow = .idle ∧ before.state.dirty = false ∧ after.documents = before.documents) :
      Conserves error before after (.gate requested)

/-- The queue has accepted what a flow had banked, and the write after it was refused. -/
def Unsaved (error : Error) (before after : View) : Prop :=
  ∃ request response activity access,
    before.queue.submit activity = .ok after.queue ∧
      Access.isStorage access = true ∧ services.Refuses access error ∧
      after.log = .refused turn access :: .accessed turn (.submit activity) ::
        .answered .gate turn request (.ok response) :: before.log

/-- A call fails before it has an answer: its turn was cancelled, the flow cannot be read, there is
no such handler, a flow is active already, or the dispatcher fails. -/
inductive Stops (cancelled : Bool) (error : Error) (before after : View) : Attempt → Prop where
  | late {attempt : Attempt} (late : cancelled = true) :
      Stops cancelled error before after attempt
  | garbled {attempt : Attempt} (unread : Flow.load before.state = .error error) :
      Stops cancelled error before after attempt
  | unknownAtGate (requested : Option String) (idle : Flow.load before.state = .ok .idle)
      (missing : auth.requestedHandler requested = .error error) :
      Stops cancelled error before after (.gate requested)
  | unknown (handler : String) (exchange : Option Exchange)
      (missing : auth.dispatcher.contains handler = false) :
      Stops cancelled error before after (.explicit handler exchange)
  | occupied (handler owner : String) (exchange : Option Exchange) (banked : Option Banked)
      (active : Flow.load before.state = .ok (.active owner banked)) :
      Stops cancelled error before after (.explicit handler exchange)
  | faulted {attempt : Attempt} (asker : Asker) (request : Request)
      (faulted : .answered asker turn request (.error error) :: before.log <:+ after.log) :
      Stops cancelled error before after attempt

/-- What a failed call leaves. -/
structure Fails (cancelled : Bool) (error : Error) (attempt : Attempt) (before after : View) :
    Prop where
  documents : attempt.Conserves auth services turn error before after
  queue : after.queue = before.queue ∨ Unsaved services turn error before after
  stopped : attempt.Stops auth turn cancelled error before after →
    after.documents = before.documents ∧ after.tokens = before.tokens ∧
      after.queue = before.queue ∧ after.state = before.state ∧
      after.log.countP Event.isReport = before.log.countP Event.isReport

end Attempt

/-- Nothing is stored and nothing reported. -/
def View.Idles (before after : View) : Prop :=
  after.documents = before.documents ∧
    after.log.countP Event.isReport = before.log.countP Event.isReport

section

variable {auth : Authenticator σ} {services : Services σ} {turn : Turn} {value : α} {error : Error}
  {view after : View}

theorem Services.Writes.idles {flow : Flow}
    (writes : services.Writes turn flow value view (.error error) after) : view.Idles after := by
  cases writes with
  | refused => exact ⟨rfl, rfl⟩

theorem Services.HandsOn.idles {activity : Activity}
    (hands : services.HandsOn turn activity value view (.error error) after) :
    view.Idles after := by
  cases hands with
  | balked => exact ⟨rfl, rfl⟩
  | closed => exact ⟨rfl, rfl⟩
  | queued queue accepted writes => exact ⟨writes.idles.1, writes.idles.2⟩

/-- Nothing is stored or reported when a handler answers. -/
theorem View.Idles.of_hear {asker : Asker} {request : Request} {answer : Except Error Response}
    (idles : (view.hear asker turn request answer).Idles after) : view.Idles after := by
  obtain ⟨documents, untold⟩ := idles
  rw [View.hear_documents] at documents
  rw [View.hear_log] at untold
  exact ⟨documents, untold⟩

/-- Handing on fails before the queue accepts, or after it because the write is refused. -/
theorem Services.HandsOn.queue_of_error {activity : Activity}
    (hands : services.HandsOn turn activity value view (.error error) after) :
    after.queue = view.queue ∨ ∃ access, view.queue.submit activity = .ok after.queue ∧
      Access.isStorage access = true ∧ services.Refuses access error ∧
      after.log = .refused turn access :: .accessed turn (.submit activity) :: view.log := by
  cases hands with
  | balked => exact .inl rfl
  | closed => exact .inl rfl
  | queued queue accepted writes =>
      cases writes with
      | refused access error storage refuses =>
          exact .inr ⟨access, accepted, storage, refuses, rfl⟩

namespace Authenticator

variable {flow : Flow} {handler : String} {requested : Option String} {answer : Response}

/-- Once a flow is cleared, none is stored, unless there was none and nothing to write. -/
theorem cleared_of_kept {before : View} (turn : Turn) (loaded : Flow.load before.state = .ok flow)
    (state : view.state = before.state) (documents : view.documents = before.documents) :
    Flow.stored ((view.hold .idle).saved turn).documents before.state.key = .ok .idle ∨
      flow = .idle ∧ before.state.dirty = false ∧
        ((view.hold .idle).saved turn).documents = before.documents := by
  cases dirty : (view.hold .idle).state.dirty with
  | true =>
      have stored := View.stored_saved_of_dirty (view.hold .idle) turn dirty
      rw [View.hold_state, Flow.store_key, Flow.load_store, state] at stored
      exact .inl stored
  | false =>
      rw [View.saved_of_clean _ turn dirty, View.hold_documents, documents]
      rw [View.hold_state, state] at dirty
      cases flow with
      | active owner banked =>
          rw [Flow.store_idle_dirty loaded] at dirty
          cases dirty
      | idle =>
          refine .inr ⟨rfl, ?_, rfl⟩
          by_contra changed
          rw [Flow.store, UserState.remove_dirty (UserState.remove_dirty
            (eq_true_of_ne_false changed))] at dirty
          cases dirty

theorem Settles.conserves (loaded : Flow.load view.state = .ok flow)
    (settles : auth.Settles services turn flow handler answer.effective
      (view.hear .gate turn ⟨handler, !flow.isActive, flow.exchange⟩ (.ok answer)) (.error error)
      after) :
    (Attempt.gate requested).Conserves auth services turn error view after := by
  have untouched (idles : (view.hear .gate turn ⟨handler, !flow.isActive, flow.exchange⟩
      (.ok answer)).Idles after) :
      (Attempt.gate requested).Conserves auth services turn error view after :=
    .untouched idles.of_hear.1 fun _ _ => idles.of_hear.2
  have answered := settles.answered
  cases settles with
  | begins idle pending writes => exact untouched writes.idles
  | handsOn banked holds activity continues hands => exact untouched hands.idles
  | sticks failed ends error writes => exact untouched writes.idles
  | goesOn complete ends writes => exact untouched writes.idles
  | reports failed ends writes now outcome told =>
      obtain impossible | ⟨_, ⟨⟩, mutes⟩ := told
      · cases impossible
      cases writes with
      | kept =>
          have unbanked : ∀ event, flow.banked ≠ some (.completion event) := by
            intro event held
            simp [held, continuation, failed] at ends
          have cleared := cleared_of_kept turn loaded
            (View.hear_state view turn .gate ⟨handler, !flow.isActive, flow.exchange⟩ (.ok answer))
            (View.hear_documents _ _ _ _ _)
          exact .muted requested flow ⟨handler, !flow.isActive, flow.exchange⟩ answer now loaded
            failed unbanked answered rfl mutes cleared

theorem Settles.queue_of_error
    (settles : auth.Settles services turn flow handler answer.effective
      (view.hear .gate turn ⟨handler, !flow.isActive, flow.exchange⟩ (.ok answer)) (.error error)
      after) :
    after.queue = view.queue ∨ Attempt.Unsaved services turn error view after := by
  have queue_eq := View.hear_queue view turn .gate ⟨handler, !flow.isActive, flow.exchange⟩
    (.ok answer)
  cases settles with
  | begins idle pending writes => exact .inl (writes.queue.trans queue_eq)
  | sticks failed ends error writes => exact .inl (writes.queue.trans queue_eq)
  | goesOn complete ends writes => exact .inl (writes.queue.trans queue_eq)
  | reports failed ends writes now outcome told => exact .inl (writes.queue.trans queue_eq)
  | handsOn banked holds activity continues hands =>
      rcases hands.queue_of_error with same | ⟨access, accepted, storage, refuses, log⟩
      · exact .inl (same.trans queue_eq)
      · rw [queue_eq] at accepted
        rw [View.hear_log] at log
        exact .inr ⟨_, answer, activity, access, accepted, storage, refuses, log⟩

/-- One answer follows another only by being it. -/
theorem eq_of_suffixes {event other : Event} {older log : List Event}
    (suffix : event :: older <:+ log) (otherSuffix : other :: older <:+ log) : event = other := by
  have same : event :: older = other :: older :=
    (List.suffix_of_suffix_length_le suffix otherSuffix (by simp)).eq_of_length (by simp)
  exact List.head_eq_of_cons_eq same

/-- A call that stops early leaves everything as it was. -/
theorem Passage.stopped {cancelled : Bool}
    (passage : auth.Passage services turn requested cancelled view (.error error) after)
    (stops : (Attempt.gate requested).Stops auth turn cancelled error view after) :
    after.documents = view.documents ∧ after.tokens = view.tokens ∧ after.queue = view.queue ∧
      after.state = view.state ∧
      after.log.countP Event.isReport = view.log.countP Event.isReport := by
  cases passage with
  | halted late => exact ⟨rfl, rfl, rfl, rfl, rfl⟩
  | garbled timely error unread => exact ⟨rfl, rfl, rfl, rfl, rfl⟩
  | unknown timely error idle missing => exact ⟨rfl, rfl, rfl, rfl, rfl⟩
  | faulted timely flow handler loaded chosen error faults => exact ⟨rfl, rfl, rfl, rfl, rfl⟩
  | answered timely flow handler loaded chosen answer settles =>
      exfalso
      cases stops with
      | late late => cases timely.symm.trans late
      | garbled unread => cases loaded.symm.trans unread
      | unknownAtGate requested idle missing =>
          cases loaded.symm.trans idle
          cases chosen.symm.trans missing
      | faulted asker request faulted => cases eq_of_suffixes faulted settles.answered

theorem Passage.fails {cancelled : Bool}
    (passage : auth.Passage services turn requested cancelled view (.error error) after) :
    (Attempt.gate requested).Fails auth services turn cancelled error view after := by
  have stopped := passage.stopped
  cases passage with
  | halted late => exact ⟨.untouched rfl fun _ _ => rfl, .inl rfl, stopped⟩
  | garbled timely error unread => exact ⟨.untouched rfl fun _ _ => rfl, .inl rfl, stopped⟩
  | unknown timely error idle missing => exact ⟨.untouched rfl fun _ _ => rfl, .inl rfl, stopped⟩
  | faulted timely flow handler loaded chosen error faults =>
      exact ⟨.untouched rfl fun _ _ => rfl, .inl rfl, stopped⟩
  | answered timely flow handler loaded chosen answer settles =>
      exact ⟨settles.conserves loaded, settles.queue_of_error, stopped⟩

variable {exchange : Option Exchange}

theorem Announces.keeps {report : Success} (announces : Announces turn report view after) :
    after.documents = view.documents ∧ after.queue = view.queue := by
  cases announces <;> exact ⟨rfl, rfl⟩

theorem Decides.keeps_of_error
    (decides : auth.Decides services turn handler exchange answer.effective
      (view.hear .application turn ⟨handler, true, exchange⟩ (.ok answer)) (.error error) after) :
    after.documents = view.documents ∧ after.queue = view.queue := by
  have heard : (view.hear .application turn ⟨handler, true, exchange⟩ (.ok answer)).documents =
        view.documents ∧
      (view.hear .application turn ⟨handler, true, exchange⟩ (.ok answer)).queue = view.queue :=
    ⟨View.hear_documents _ _ _ _ _, View.hear_queue _ _ _ _ _⟩
  cases decides with
  | begins pending writes =>
      exact ⟨writes.idles.1.trans heard.1, writes.queue.trans heard.2⟩
  | returns failed silent => exact heard
  | reports failed outcome => exact heard
  | accepts complete outcome announces =>
      exact ⟨announces.keeps.1.trans heard.1, announces.keeps.2.trans heard.2⟩

/-- A sign-in that may ask a handler stops early only if the dispatcher fails. -/
theorem faulted_of_stops {cancelled : Bool} (timely : cancelled = false)
    (idle : Flow.load view.state = .ok .idle) (known : auth.dispatcher.contains handler = true)
    (stops : (Attempt.explicit handler exchange).Stops auth turn cancelled error view after) :
    ∃ asker request, .answered asker turn request (.error error) :: view.log <:+ after.log := by
  cases stops with
  | late late => cases timely.symm.trans late
  | garbled unread => cases idle.symm.trans unread
  | unknown handler exchange missing => cases known.symm.trans missing
  | occupied handler owner exchange banked active => cases idle.symm.trans active
  | faulted asker request faulted => exact ⟨asker, request, faulted⟩

/-- A sign-in that stops early leaves everything as it was. -/
theorem Entry.stopped {cancelled : Bool}
    (entry : auth.Entry services turn handler exchange cancelled view (.error error) after)
    (stops : (Attempt.explicit handler exchange).Stops auth turn cancelled error view after) :
    after.documents = view.documents ∧ after.tokens = view.tokens ∧ after.queue = view.queue ∧
      after.state = view.state ∧
      after.log.countP Event.isReport = view.log.countP Event.isReport := by
  cases entry with
  | halted late => exact ⟨rfl, rfl, rfl, rfl, rfl⟩
  | garbled timely error unread => exact ⟨rfl, rfl, rfl, rfl, rfl⟩
  | occupied timely owner banked active => exact ⟨rfl, rfl, rfl, rfl, rfl⟩
  | unknown timely idle missing => exact ⟨rfl, rfl, rfl, rfl, rfl⟩
  | faulted timely idle known error faults => exact ⟨rfl, rfl, rfl, rfl, rfl⟩
  | remembered timely idle known token kept outcome announces =>
      obtain ⟨asker, request, faulted⟩ := faulted_of_stops timely idle known stops
      cases announces with
      | silently => exact absurd faulted.length_le (by simp)
      | aloud => cases eq_of_suffixes faulted List.suffix_rfl
  | answered timely idle known answer decides =>
      obtain ⟨asker, request, faulted⟩ := faulted_of_stops timely idle known stops
      cases eq_of_suffixes faulted decides.answered

theorem Entry.fails {cancelled : Bool}
    (entry : auth.Entry services turn handler exchange cancelled view (.error error) after) :
    (Attempt.explicit handler exchange).Fails auth services turn cancelled error view after := by
  have kept : after.documents = view.documents ∧ after.queue = view.queue := by
    cases entry with
    | remembered timely idle known token kept outcome announces => exact announces.keeps
    | answered timely idle known answer decides => exact decides.keeps_of_error
    | _ => exact ⟨rfl, rfl⟩
  exact ⟨.untouched kept.1 fun _ impossible => (by cases impossible), .inl kept.2, entry.stopped⟩

end Authenticator

end

namespace Attempt

variable (auth : Authenticator σ) (services : Services σ) {turn : Turn}
  {scope : Scope (Recorded σ)}

theorem ends_performRecorded_fails (attempt : Attempt) :
    Ends (attempt.call.performRecorded auth services turn) scope (fun _ _ => True)
      (fun error after =>
        attempt.Fails auth services turn scope.cancelled error scope.view after.view) := by
  cases attempt with
  | gate requested =>
      rw [call, Call.performRecorded, ends_bind]
      refine (auth.yields_startOrContinue services turn requested).mono ?_
        fun _ _ => Authenticator.Passage.fails
      intro passes _ _
      cases passes <;> trivial
  | explicit handler exchange =>
      simp only [call, Call.performRecorded, Conduct.recorded, Conduct.perform, ends_bind,
        TurnAction.ends_attempt]
      exact (auth.yields_signIn services turn handler exchange).mono (fun _ _ _ => trivial)
        fun _ _ => Authenticator.Entry.fails

/-- A call that may start a flow, and fails, leaves the documents and the queue as they were, but
for a failure that could not be reported and for a write that was refused after the queue had
accepted; if it stops before it has an answer, it leaves everything as it was. -/
theorem failure_leaves (attempt : Attempt) {scope after : Scope σ} {error : Error}
    (fails : attempt.call.perform auth services turn scope = .error error after) :
    ∃ left, attempt.call.performRecorded auth services turn scope.blank = .error error left ∧
      left.erase = after ∧
      attempt.Fails auth services turn scope.cancelled error scope.blank.view left.view := by
  obtain ⟨left, ends, erased⟩ :=
    (Call.mirrors_perform auth services turn attempt.call).of_error fails
  exact ⟨left, ends, erased, (ends_performRecorded_fails auth services attempt).of_error ends⟩

/-- An authenticator whose handler says that the flow has failed, and whose callback fails too. -/
def mute : Authenticator Nat :=
  { Site.sample.auth with
    dispatcher :=
      { Site.sample.auth.dispatcher with signIn := fun _ _ => pure (.failed .other "denied") }
    onFailure := some fun _ _ => throw (.handlerFailed "busy") }

/-- A turn of the user for whom a flow is stored. -/
def muteTurn : Turn := ⟨.message "chat" "ada" "room" "42", false⟩

/-- The turn has loaded the flow. -/
def muteScope : Scope Nat :=
  let stored := Flow.store (.active "code" none) ⟨"chat/users/ada", [], false⟩
  ⟨{ World.initial 0 with documents := [(stored.key, .obj stored.properties)] },
    { stored with dirty := false }, false⟩

/-- What passing the gate leaves. -/
def muteLeft : Scope Nat :=
  remains ((Attempt.gate none).call.perform mute .lenient muteTurn muteScope)

/-- Where the callback fails, the gate fails with the flow cleared. -/
theorem mute_failure_leaves :
    Flow.stored muteScope.world.documents muteScope.state.key = .ok (.active "code" none) ∧
      Flow.stored muteLeft.world.documents muteScope.state.key = .ok .idle ∧
      (Attempt.gate none).call.perform mute .lenient muteTurn muteScope =
        .error (.handlerFailed "busy") muteLeft ∧
      ∃ left : Scope (Recorded Nat), left.erase = muteLeft ∧
        (Attempt.gate none).Fails mute .lenient muteTurn false
          (.handlerFailed "busy") muteScope.blank.view left.view := by
  have fails : (Attempt.gate none).call.perform mute .lenient muteTurn muteScope =
      .error (.handlerFailed "busy") muteLeft := rfl
  obtain ⟨left, -, erased, left_fails⟩ := failure_leaves mute .lenient (.gate none) fails
  exact ⟨rfl, rfl, fails, left, erased, left_fails⟩

end Attempt
end SignInFlow
