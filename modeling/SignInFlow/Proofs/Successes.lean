import SignInFlow.Proofs.Outlets
import SignInFlow.Proofs.Records
import SignInFlow.Proofs.Tokens

/-!
# Where the tokens of successes come from

A success is reported with a token that a completion gave: the answer of a handler to the user, or
the event that the queue has brought back.  A handler that completes without a token has failed like
any other.  The completion route alone takes such a response for a success, with an empty token.
-/

namespace SignInFlow

variable {σ : Type}

/-! ## Completions without a token -/

namespace Response

/-- A completion that gives no token. -/
def Tokenless (response : Response) : Prop := response.status = .complete ∧ response.token = none

instance (response : Response) : Decidable response.Tokenless :=
  inferInstanceAs (Decidable (response.status = .complete ∧ response.token = none))

variable {response : Response}

theorem effective_of_tokenless (tokenless : response.Tokenless) :
    response.effective = .failed .other "handler completed without a token" := if_pos tokenless

theorem incomplete_of_tokenless (tokenless : response.Tokenless) :
    response.effective.status ≠ .complete := by
  rw [effective_of_tokenless tokenless]
  rintro ⟨⟩

theorem effective_of_tokenful (tokenful : ¬ response.Tokenless) : response.effective = response :=
  if_neg tokenful

theorem not_tokenless_effective (response : Response) : ¬ response.effective.Tokenless := by
  by_cases tokenless : response.Tokenless
  · rw [effective_of_tokenless tokenless]
    rintro ⟨⟨⟩, -⟩
  · rwa [effective_of_tokenful tokenless]

end Response

/-- The dispatcher whose handlers fail where they would complete without a token. -/
def Dispatcher.strict (dispatcher : Dispatcher σ) : Dispatcher σ :=
  { dispatcher with
    signIn := fun turn request => Response.effective <$> dispatcher.signIn turn request }

namespace Authenticator

/-- The authenticator whose handlers fail where they would complete without a token. -/
def strict (auth : Authenticator σ) : Authenticator σ :=
  { auth with dispatcher := auth.dispatcher.strict }

variable (auth : Authenticator σ) (services : Services σ) (turn : Turn)

/-- A completion without a token cannot be told from a failure. -/
theorem invoke_strict (request : Request) :
    auth.strict.invoke turn request = auth.invoke turn request := by
  funext scope
  simp only [invoke, strict, Dispatcher.strict, bind, EStateM.bind, TurnAction.ofHost, Functor.map,
    EStateM.map]
  cases auth.dispatcher.signIn turn request ⟨scope.world.host, scope.cancelled⟩ with
  | error error left => rfl
  | ok response left =>
      change (if response.effective.Tokenless then _ else _ : TurnAction σ Response) _ =
        (if response.Tokenless then _ else _ : TurnAction σ Response) _
      rw [if_neg (Response.not_tokenless_effective response)]
      by_cases tokenless : response.Tokenless
      · rw [if_pos tokenless, Response.effective_of_tokenless tokenless]
      · rw [if_neg tokenless, Response.effective_of_tokenful tokenless]

theorem startOrContinue_strict (requested : Option String) :
    auth.strict.startOrContinue services turn requested =
      auth.startOrContinue services turn requested := by
  simp only [startOrContinue, invoke_strict]
  rfl

theorem signIn_strict (handler : String) (exchange : Option Exchange) :
    auth.strict.signIn services turn handler exchange =
      auth.signIn services turn handler exchange := by
  simp only [signIn, invoke_strict]
  rfl

end Authenticator

theorem Conduct.perform_strict (auth : Authenticator σ) (services : Services σ) (turn : Turn)
    (conduct : Conduct σ) :
    conduct.perform auth.strict services turn = conduct.perform auth services turn := by
  induction conduct with
  | finish outcome => rfl
  | signIn handler exchange next ih =>
      simp only [perform, Authenticator.signIn_strict, ih]
  | signOut handler next ih =>
      simp only [perform, ih]
      rfl
  | reset handler next ih =>
      simp only [perform, ih]
      rfl
  | token handler next ih => simp only [perform, ih]
  | look next ih => simp only [perform, ih]
  | set name value foreign next ih => simp only [perform, ih]
  | remove name foreign next ih => simp only [perform, ih]
  | save next ih => simp only [perform, ih]
  | call action next ih => simp only [perform, ih]

theorem Call.perform_strict (auth : Authenticator σ) (services : Services σ) (turn : Turn)
    (call : Call σ) : call.perform auth.strict services turn = call.perform auth services turn := by
  cases call with
  | gate requested => simp only [perform, Authenticator.startOrContinue_strict]
  | conduct asked => exact asked.perform_strict auth services turn
  | completion => rfl

/-- Whatever is done, completions without a token come to the same as failures. -/
theorem Use.run_strict (auth : Authenticator σ) (services : Services σ) (world : World σ)
    (uses : List (Use σ)) : run auth.strict services world uses = run auth services world uses := by
  have same : perform auth.strict services = perform auth services := by
    funext world use
    cases use with
    | call turn state cancelled made => simp only [perform, Call.perform_strict]
    | elsewhere documents queue host => rfl
  rw [run, same, run]

/-! ## What vouches for a success -/

/-- The token of a success was given by a completion: the handler has given it to the user before,
or the event gives it that the queue has brought back. -/
inductive Vouched (older : List Event) (turn : Turn) (report : Success) : Prop where
  | obtained (source : Turn)
      (obtained : Use.Obtained older source report.handler report.token)
      (own : source.user = turn.user)
  | carried (event : Completion) (response : Response) (redelivered : turn.redelivered = true)
      (decoded : Authenticator.completionOf turn.activity = .ok event)
      (carried : event.response = some response) (complete : response.status = .complete)
      (has : response.token = some report.token)

/-- The queue has brought back an event with a completion that gives no token, and it is reported
with an empty one. -/
def Hollow (turn : Turn) (report : Success) : Prop :=
  turn.redelivered = true ∧ ∃ event response,
    Authenticator.completionOf turn.activity = .ok event ∧ event.response = some response ∧
      response.Tokenless ∧ report = ⟨event.handler, "", event.initiating⟩

/-- Something seen before vouches for every success in a record that is not hollow. -/
def Warranted (log : List Event) : Prop :=
  ∀ turn report older, .succeeded turn report :: older <:+ log →
    Vouched older turn report ∨ Hollow turn report

namespace Warranted

variable {log : List Event}

theorem cons (warranted : Warranted log) {event : Event}
    (fresh : ∀ turn report, event = .succeeded turn report →
      Vouched log turn report ∨ Hollow turn report) : Warranted (event :: log) := by
  intro turn report older suffix
  rcases List.suffix_cons_iff.mp suffix with same | earlier
  · cases same
    exact fresh turn report rfl
  · exact warranted turn report older earlier

theorem cons_silent (warranted : Warranted log) {event : Event}
    (silent : event.isSuccess = false) : Warranted (event :: log) := by
  apply warranted.cons
  rintro turn report rfl
  cases silent

theorem append (warranted : Warranted log) {seen : List Event}
    (silent : seen.countP Event.isSuccess = 0) : Warranted (seen ++ log) := by
  rw [List.countP_eq_zero] at silent
  induction seen with
  | nil => exact warranted
  | cons event rest ih =>
      obtain ⟨first, rest⟩ := List.forall_mem_cons.mp silent
      exact (ih rest).cons_silent (eq_false_of_ne_true first)

end Warranted

/-- The cache says what the record says, and no success in the record lacks a warrant. -/
structure View.Backs (view : View) : Prop where
  remembers : view.Remembers
  warranted : Warranted view.log

section

variable {auth : Authenticator σ} {services : Services σ} {turn : Turn} {view after : View}

namespace View.Backs

theorem see (backs : view.Backs) {event : Event} (aside : event.isAside = true)
    (silent : event.isSuccess = false) : (view.see event).Backs :=
  ⟨backs.remembers.see aside, backs.warranted.cons_silent silent⟩

theorem saved (backs : view.Backs) (turn : Turn) : (view.saved turn).Backs := by
  refine ⟨backs.remembers.saved turn, ?_⟩
  obtain ⟨written, routine, log⟩ := view.routine_saved turn
  rw [log]
  exact backs.warranted.append routine.silent

theorem part (view : View) (way : Withdrawal) (handler : String) (outcome : Except Error Unit)
    (backs : view.Backs) : (view.part turn way handler outcome).Backs := by
  refine ⟨backs.remembers.part way handler outcome, ?_⟩
  rw [View.part_log]
  exact backs.warranted.cons_silent rfl

end View.Backs

theorem Services.Writes.warranted {α : Type} {flow : Flow} {value : α} {outcome : Except Error α}
    (writes : services.Writes turn flow value view outcome after)
    (warranted : Warranted view.log) : Warranted after.log := by
  obtain ⟨written, routine, log⟩ := writes.routine
  rw [log]
  exact warranted.append routine.silent

theorem preserves_backs_save :
    Preserves View.Backs (TurnAction.save (services.recorded turn)) := by
  intro scope backs
  refine (TurnAction.ends_save services turn).mono ?_ ?_
  · intro _ after saved
    rw [saved]
    exact backs.saved turn
  · rintro error after ⟨-, access, -, -, refused⟩
    rw [refused]
    exact backs.see rfl rfl

theorem preserves_backs_clear :
    Preserves View.Backs (TurnAction.persist (services.recorded turn) .idle) := by
  unfold TurnAction.persist
  exact Preserves.bind (fun _ backs => ⟨backs.remembers.hold .idle, backs.warranted⟩)
    fun _ => preserves_backs_save

namespace Authenticator

variable {handler : String} {exchange : Option Exchange} {requested : Option String}
  {cancelled : Bool}

theorem Announces.warranted {report : Success} (announces : Announces turn report view after)
    (warranted : Warranted view.log) (vouched : Vouched view.log turn report) :
    Warranted after.log := by
  cases announces with
  | silently => exact warranted
  | aloud =>
      apply warranted.cons
      rintro _ _ ⟨⟩
      exact .inl vouched

theorem Passage.warranted {outcome : Except Error Bool}
    (passage : auth.Passage services turn requested cancelled view outcome after)
    (warranted : Warranted view.log) : Warranted after.log := by
  cases passage with
  | faulted timely flow handler loaded chosen error faults => exact warranted.cons_silent rfl
  | answered timely flow handler loaded chosen answer settles =>
      obtain ⟨seen, log, conveys⟩ := settles.conveys
      rw [log, View.hear_log]
      exact (warranted.cons_silent rfl).append conveys.silent
  | _ => exact warranted

theorem Decides.warranted {answer : Response} {outcome : Except Error Unit}
    (decides : auth.Decides services turn handler exchange answer.effective
      (view.hear .application turn ⟨handler, true, exchange⟩ (.ok answer)) outcome after)
    (warranted : Warranted view.log) : Warranted after.log := by
  have heard : Warranted
      (view.hear .application turn ⟨handler, true, exchange⟩ (.ok answer)).log := by
    rw [View.hear_log]
    exact warranted.cons_silent rfl
  cases decides with
  | begins pending writes => exact writes.warranted heard
  | returns failed silent => exact heard
  | reports failed outcome => exact heard.cons_silent rfl
  | accepts complete outcome announces =>
      obtain ⟨same, token, has⟩ := Response.effective_of_complete complete
      rw [same] at complete announces
      refine announces.warranted heard (.obtained turn ?_ rfl)
      rw [View.hear_log, has]
      exact ⟨.application, _, answer, List.mem_cons_self, rfl, complete, has⟩

theorem Entry.warranted {outcome : Except Error Unit}
    (entry : auth.Entry services turn handler exchange cancelled view outcome after)
    (backs : view.Backs) : Warranted after.log := by
  cases entry with
  | remembered timely idle known token kept outcome announces =>
      obtain ⟨source, obtained, own⟩ :=
        Use.obtained_of_leaves ((backs.remembers turn.user handler token).mp kept)
      exact announces.warranted backs.warranted (.obtained source obtained own)
  | faulted timely idle known error faults => exact backs.warranted.cons_silent rfl
  | answered timely idle known answer decides => exact decides.warranted backs.warranted
  | _ => exact backs.warranted

theorem Completes.warranted (completes : auth.Completes turn view after)
    (warranted : Warranted view.log) : Warranted after.log := by
  cases completes with
  | nothing => exact warranted
  | reported event response report redelivered decoded carried tells =>
      cases tells with
      | failure failed now =>
          rcases auth.failureEvent_cases turn ⟨event.handler, response, event.initiating⟩ now with
            same | ⟨message, same⟩ <;>
          · rw [same]
            exact warranted.cons_silent rfl
      | success complete =>
          apply warranted.cons
          rintro _ _ ⟨⟩
          cases has : response.token with
          | none =>
              exact .inr ⟨redelivered, event, response, decoded, carried, ⟨complete, has⟩, rfl⟩
          | some token =>
              exact .inl (.carried event response redelivered decoded carried complete has)

theorem preserves_backs_signIn (handler : String) (exchange : Option Exchange) :
    Preserves View.Backs
      ((auth.recorded .application).signIn (services.recorded turn) turn handler exchange) := by
  intro scope backs
  refine ((auth.yields_signIn services turn handler exchange).and
    (auth.moves_signIn services turn handler exchange scope)).mono ?_ ?_ <;>
  · rintro _ after ⟨entry, reached⟩
    exact ⟨backs.remembers.comes (.inl reached), entry.warranted backs⟩

end Authenticator

theorem Call.preserves_backs (call : Call σ) :
    Preserves View.Backs (call.performRecorded auth services turn) := by
  intro scope backs
  cases call with
  | gate requested =>
      rw [performRecorded, ends_bind]
      refine ((auth.yields_startOrContinue services turn requested).and
        (auth.ends_startOrContinue services turn requested)).mono ?_ ?_
      · rintro passes after ⟨passage, reached⟩
        have warranted : Warranted after.view.log := passage.warranted backs.warranted
        cases passes with
        | true => exact ⟨backs.remembers.comes (.inl reached), warranted.cons_silent rfl⟩
        | false => exact ⟨backs.remembers.comes (.inl reached), warranted⟩
      · rintro error after ⟨passage, reached⟩
        exact ⟨backs.remembers.comes (.inl reached), passage.warranted backs.warranted⟩
  | conduct asked =>
      exact preserves_perform View.Backs.part preserves_backs_clear
        Authenticator.preserves_backs_signIn preserves_backs_save
        (fun _ _ _ held => ⟨held.remembers, held.warranted⟩)
        (fun _ _ held => ⟨held.remembers, held.warranted⟩) asked scope backs
  | completion =>
      refine (auth.ends_handleCompletion services turn).mono ?_ ?_ <;>
      · intro _ after completes
        exact ⟨backs.remembers.comes (.inr completes), completes.warranted backs.warranted⟩

end

/-! ## What becomes of a completion without a token -/

namespace Authenticator

/-- How the failure of a handler is voiced: the callback, the user or the caller hears of it, or the
queue is to bring it back as the outcome of an explicit sign-in; unless storage or the queue refuses
what is to be done before. -/
inductive Voices (auth : Authenticator σ) (services : Services σ) (turn : Turn) (handler : String)
    (failure : Response) (queue : ReplayQueue) (seen : List Event) : Except Error Bool → Prop where
  | called {outcome : Except Error Bool} (initiating : Activity)
      (heard : .failed turn ⟨handler, failure, initiating⟩ ∈ seen) :
      Voices auth services turn handler failure queue seen outcome
  | messaged {outcome : Except Error Bool} (now : Instant)
      (sent : .sent turn (turn.activity.reply
        (auth.settings.failureMessage handler failure.causeOrOther.name) now) ∈ seen) :
      Voices auth services turn handler failure queue seen outcome
  | thrown : Voices auth services turn handler failure queue seen
      (.error (.signInFailed handler failure.causeOrOther (failure.error.getD "")))
  | queued {outcome : Except Error Bool} (event : Completion)
      (accepted : .accessed turn (.submit ((event.withResult handler failure).toActivity
        auth.settings.completionEventName)) ∈ seen) :
      Voices auth services turn handler failure queue seen outcome
  | refused (access : Access) (error : Error) (refuses : services.Refuses access error) :
      Voices auth services turn handler failure queue seen (.error error)
  | closed (activity : Activity) (error : Error)
      (rejected : queue.submit activity = .error error) :
      Voices auth services turn handler failure queue seen (.error error)

/-- A handler has completed without a token: none is kept, no success is reported, and the failure
is voiced. -/
structure Forgoes (auth : Authenticator σ) (services : Services σ) (turn : Turn) (handler : String)
    (before : View) (outcome : Except Error Bool) (after : View) : Prop where
  tokens : after.tokens = before.tokens
  silent : after.log.countP Event.isSuccess = 0
  voiced : auth.Voices services turn handler (.failed .other "handler completed without a token")
    before.queue after.log outcome

end Authenticator

section

variable {auth : Authenticator σ} {services : Services σ} {turn : Turn} {view after : View}

/-- The one answer in a record is the one that was heard. -/
theorem Quietly.eq_of_answer {event other : Event} {log : List Event}
    (quietly : Quietly [event] log) (member : other ∈ log) (asked : other.isAnswer = true) :
    other = event := by
  obtain ⟨seen, rfl, unasked⟩ := quietly
  rcases List.mem_append.mp member with later | first
  · cases asked.symm.trans (unasked other later)
  · exact List.mem_singleton.mp first

namespace Authenticator

variable {handler : String} {response : Response}

/-- What a flow that fails is concluded with voices the failure. -/
theorem Settles.voices {flow : Flow} {outcome : Except Error Bool}
    (settles : auth.Settles services turn flow handler response view outcome after)
    (failed : response.status = .error) : after.tokens = view.tokens ∧
      auth.Voices services turn handler response view.queue after.log outcome := by
  cases settles with
  | stays active pending => cases failed.symm.trans pending
  | begins idle pending writes => cases failed.symm.trans pending
  | goesOn complete ends writes => cases failed.symm.trans complete
  | handsOn banked holds activity continues hands =>
      cases banked with
      | activity trigger => simp [continuation, failed] at continues
      | completion event =>
          simp only [continuation, failed, reduceCtorEq, if_false, Option.some.injEq] at continues
          subst continues
          cases hands with
          | balked error refuses => exact ⟨rfl, .refused _ error refuses⟩
          | closed error rejected => exact ⟨rfl, .closed _ error rejected⟩
          | queued queue accepted writes =>
              exact ⟨writes.tokens, .queued event
                ((writes.quietly (.refl _)).suffix.subset List.mem_cons_self)⟩
  | sticks failed ends error writes =>
      obtain ⟨access, -, refuses⟩ := writes.refuses
      exact ⟨writes.tokens, .refused access error refuses⟩
  | reports failed ends writes now outcome told =>
      refine ⟨writes.tokens, ?_⟩
      rw [View.see_log]
      cases heard : auth.onFailure.isSome with
      | true =>
          exact .called _ (by simp only [failureEvent, heard, if_true]; exact List.mem_cons_self)
      | false =>
          exact .messaged now (by
            simp only [failureEvent, heard, Bool.false_eq_true, if_false]
            exact List.mem_cons_self)

theorem Decides.voices {exchange : Option Exchange} {outcome : Except Error Unit}
    (decides : auth.Decides services turn handler exchange response view outcome after)
    (failed : response.status = .error) (silent : view.log.countP Event.isSuccess = 0) :
    after.tokens = view.tokens ∧ after.log.countP Event.isSuccess = 0 ∧
      auth.Voices services turn handler response view.queue after.log
        (outcome.map fun _ => false) := by
  cases decides with
  | begins pending writes => cases failed.symm.trans pending
  | accepts complete outcome announces => cases failed.symm.trans complete
  | returns failed unheard => exact ⟨rfl, silent, .thrown⟩
  | reports failed outcome => exact ⟨rfl, silent, .called turn.activity List.mem_cons_self⟩

theorem Passage.forgoes {requested : Option String} {cancelled : Bool}
    {outcome : Except Error Bool}
    (passage : auth.Passage services turn requested cancelled view outcome after)
    (fresh : view.log = []) {asker : Asker} {source : Turn} {request : Request} {answer : Response}
    (answered : .answered asker source request (.ok answer) ∈ after.log)
    (tokenless : answer.Tokenless) :
    auth.Forgoes services turn request.handler view outcome after := by
  cases passage with
  | faulted timely flow handler loaded chosen error faults =>
      rw [View.see_log, fresh] at answered
      cases List.mem_singleton.mp answered
  | answered timely flow handler loaded chosen response settles =>
      have quietly := settles.quietly (.refl _)
      rw [View.hear_log, fresh] at quietly
      cases quietly.eq_of_answer answered rfl
      rw [View.hear_of_incomplete _ _ _ _ (Response.incomplete_of_tokenless tokenless),
        Response.effective_of_tokenless tokenless] at settles
      obtain ⟨tokens, voiced⟩ := settles.voices rfl
      obtain ⟨seen, log, conveys⟩ := settles.conveys
      refine ⟨tokens, ?_, voiced⟩
      rw [log, View.see_log, fresh, List.countP_append, conveys.silent]
      rfl
  | _ =>
      rw [fresh] at answered
      cases answered

theorem Entry.forgoes {exchange : Option Exchange} {cancelled : Bool} {outcome : Except Error Unit}
    (entry : auth.Entry services turn handler exchange cancelled view outcome after)
    (fresh : view.log = []) {asker : Asker} {source : Turn} {request : Request} {answer : Response}
    (answered : .answered asker source request (.ok answer) ∈ after.log)
    (tokenless : answer.Tokenless) :
    auth.Forgoes services turn request.handler view (outcome.map fun _ => false) after := by
  cases entry with
  | remembered timely idle known token kept outcome announces =>
      cases announces with
      | silently =>
          rw [fresh] at answered
          cases answered
      | aloud =>
          rw [View.see_log, fresh] at answered
          cases List.mem_singleton.mp answered
  | faulted timely idle known error faults =>
      rw [View.see_log, fresh] at answered
      cases List.mem_singleton.mp answered
  | answered timely idle known response decides =>
      have quietly := decides.quietly (.refl _)
      rw [View.hear_log, fresh] at quietly
      cases quietly.eq_of_answer answered rfl
      rw [View.hear_of_incomplete _ _ _ _ (Response.incomplete_of_tokenless tokenless),
        Response.effective_of_tokenless tokenless] at decides
      obtain ⟨tokens, silent, voiced⟩ := decides.voices rfl (by rw [View.see_log, fresh]; rfl)
      exact ⟨tokens, silent, voiced⟩
  | _ =>
      rw [fresh] at answered
      cases answered

/-- The completion route asks no handler. -/
theorem Completes.unanswered (completes : auth.Completes turn view after)
    (fresh : view.log = []) : after.log.countP Event.isAnswer = 0 := by
  cases completes with
  | nothing =>
      rw [fresh]
      rfl
  | reported event response report redelivered decoded carried tells =>
      rw [View.see_log, fresh, List.countP_singleton, Event.isAnswer_of_notice tells.notice.2]
      rfl

end Authenticator

/-- Whatever is asked of an authenticator, a completion without a token is forgone. -/
theorem Operation.yields_forgoes (operation : Operation) (scope : Scope σ) :
    Yields (operation.performRecorded auth services turn) scope.blank fun outcome after =>
      ∀ asker source request answer, .answered asker source request (.ok answer) ∈ after.log →
        answer.Tokenless →
          auth.Forgoes services turn request.handler scope.blank.view outcome after := by
  have unasked {outcome : Except Error Bool} {left : View}
      (quiet : left.log.countP Event.isAnswer = 0) :
      ∀ asker source request answer, .answered asker source request (.ok answer) ∈ left.log →
        answer.Tokenless →
          auth.Forgoes services turn request.handler scope.blank.view outcome left := by
    intro asker source request answer answered
    cases List.countP_eq_zero.mp quiet _ answered rfl
  cases operation with
  | gate requested =>
      exact (auth.yields_startOrContinue services turn requested).mono
        (fun _ _ passage _ _ _ _ => passage.forgoes rfl)
        (fun _ _ passage _ _ _ _ => passage.forgoes rfl)
  | signIn handler exchange =>
      simp only [performRecorded, perform, Yields, ends_bind, ends_pure]
      exact (auth.yields_signIn services turn handler exchange).mono
        (fun _ _ entry _ _ _ _ => entry.forgoes rfl)
        (fun _ _ entry _ _ _ _ => entry.forgoes rfl)
  | signOut handler =>
      simp only [performRecorded, perform, Yields, ends_bind, ends_pure]
      exact (Authenticator.minds_signOut services auth handler scope.blank ⟨.nil, rfl⟩).mono
        (fun _ _ minded => unasked minded.1.unasked)
        (fun _ _ minded => unasked minded.1.unasked)
  | reset handler =>
      simp only [performRecorded, perform, Yields, ends_bind, ends_pure]
      exact (Authenticator.minds_reset services auth handler scope.blank ⟨.nil, rfl⟩).mono
        (fun _ _ minded => unasked minded.1.unasked)
        (fun _ _ minded => unasked minded.1.unasked)
  | completion =>
      simp only [performRecorded, perform, Yields, ends_bind, ends_pure]
      exact (auth.ends_handleCompletion services turn).mono
        (fun _ _ completes => unasked (completes.unanswered rfl))
        (fun _ _ completes => unasked (completes.unanswered rfl))

end

/-! ## Run after run -/

theorem warranted_history (auth : Authenticator σ) (services : Services σ) (host : σ)
    (uses : List (Use σ)) : Warranted (Use.history auth services host uses).host.log := by
  have start : ((World.initial (⟨host, []⟩ : Recorded σ)).view ⟨"", [], false⟩).Backs := by
    refine ⟨Use.remembers_initial host _, fun turn report older suffix => ?_⟩
    cases List.suffix_nil.mp suffix
  refine (Use.keeps_runRecorded ?_ ?_ start uses).warranted
  · rintro view after tokens log ⟨remembers, warranted⟩
    refine ⟨fun user handler token => ?_, log ▸ warranted⟩
    rw [tokens, log]
    exact remembers user handler token
  · exact fun turn made scope backs => (made.preserves_backs scope backs).left

/-- No success lacks a token, but for the events of the completion route.  Whatever is done, a
completion of a handler without a token comes to the same as a failure for no special cause: none is
kept, no success is reported, and the failure is voiced.  A success is reported with a token that a
handler has given to the user before, or that the event gives that the queue has brought back;
unless that event carries a completion without a token, when an empty one is reported.  The
completion route keeps no token. -/
theorem success_has_token (auth : Authenticator σ) (services : Services σ) (host : σ)
    (uses : List (Use σ)) :
    (Use.history auth services host uses).erase =
        Use.run auth services (World.initial host) uses ∧
      Use.run auth.strict services (World.initial host) uses =
        Use.run auth services (World.initial host) uses ∧
      (∀ turn report older,
        .succeeded turn report :: older <:+ (Use.history auth services host uses).host.log →
          Vouched older turn report ∨ Hollow turn report) ∧
      (∀ turn state cancelled, (Use.performRecorded auth services
        (Use.history auth services host uses) (.call turn state cancelled .completion)).tokens =
          (Use.history auth services host uses).tokens) ∧
      ∀ (operation : Operation) (turn : Turn) (scope : Scope σ),
        Yields (operation.performRecorded auth services turn) scope.blank fun outcome after =>
          ∀ asker source request answer,
            .answered asker source request (.ok answer) ∈ after.log → answer.Tokenless →
              auth.Forgoes services turn request.handler scope.blank.view outcome after :=
  ⟨Use.erase_runRecorded auth services _ uses, Use.run_strict auth services _ uses,
    warranted_history auth services host uses,
    fun turn state cancelled => Use.tokens_completion _ turn state cancelled,
    fun operation _ scope => operation.yields_forgoes scope⟩

/-- The success of the sample sign-in is vouched for by the answer of the handler. -/
theorem sample_success_vouched :
    Vouched [.answered .application Use.sampleTurn ⟨"code", true, none⟩ (.ok (.complete "token"))]
      Use.sampleTurn ⟨"code", "token", Use.sampleTurn.activity⟩ := by
  have told : (Use.history Site.sample.auth Site.sample.services 1 [Use.sampleSignIn]).host.log =
      [.succeeded Use.sampleTurn ⟨"code", "token", Use.sampleTurn.activity⟩,
        .answered .application Use.sampleTurn ⟨"code", true, none⟩
          (.ok (.complete "token"))] := rfl
  obtain ⟨-, -, warranted, -⟩ :=
    success_has_token Site.sample.auth Site.sample.services 1 [Use.sampleSignIn]
  rw [told] at warranted
  rcases warranted _ _ _ List.suffix_rfl with vouched | ⟨redelivered, -⟩
  · exact vouched
  · cases redelivered

/-! ## Events without a token -/

/-- Whatever event of that kind the queue brings back, the callback hears of a success. -/
theorem Hollow.told {turn : Turn} {report : Success} (hollow : Hollow turn report)
    {auth : Authenticator σ} {callback : Turn → Success → HostCall σ Unit}
    (heard : auth.onSuccess = some callback) (services : Services σ) (scope : Scope (Recorded σ)) :
    (remains (Call.completion.performRecorded auth services turn scope)).view =
      scope.view.see (.succeeded turn report) := by
  obtain ⟨redelivered, event, response, decoded, carried, ⟨complete, missing⟩, rfl⟩ := hollow
  have tells : Ends ((auth.recorded .gate).handleCompletion (services.recorded turn) turn) scope
      (fun _ after => after.view = scope.view.see
        (.succeeded turn ⟨event.handler, "", event.initiating⟩))
      (fun _ after => after.view = scope.view.see
        (.succeeded turn ⟨event.handler, "", event.initiating⟩)) := by
    simp only [Authenticator.handleCompletion, redelivered, Bool.not_true, Bool.false_eq_true,
      if_false, ends_bind, ends_ofExcept, decoded, Except.ok.injEq, forall_eq', reduceCtorEq,
      false_implies, implies_true, and_true, carried, complete, missing, Option.getD_none,
      Authenticator.reportSuccess, Authenticator.recorded, heard, Option.map_some]
    exact TurnAction.ends_noticed (callback turn _) fun _ => .succeeded turn _
  exact tells.left

/-- Nothing that an event without a token carries vouches for what is reported of it. -/
theorem Hollow.not_vouched {turn : Turn} {report : Success} (hollow : Hollow turn report) :
    ¬ Vouched [] turn report := by
  obtain ⟨-, event, response, decoded, carried, ⟨-, missing⟩, -⟩ := hollow
  intro vouched
  cases vouched with
  | obtained source obtained own =>
      obtain ⟨asker, request, answer, answered, -⟩ := obtained
      cases answered
  | carried other given redelivered decoded' carried' complete has =>
      cases decoded.symm.trans decoded'
      cases carried.symm.trans carried'
      cases missing.symm.trans has

/-- The queue brings back an event with a completion that gives no token. -/
def hollowTurn : Turn :=
  ⟨((Completion.start "code" none Use.sampleTurn.activity).withResult "code"
    ⟨.complete, none, none, none⟩).toActivity Site.sample.auth.settings.completionEventName, true⟩

/-- The completion route takes that event. -/
def hollowUse : Use Nat := .call hollowTurn ⟨"chat/users/ada", [], false⟩ false .completion

/-- The sample site reports it as a success with an empty token, which no completion has given. -/
theorem hollow_success_reported :
    (Use.history Site.sample.auth Site.sample.services 1 [hollowUse]).host.log =
        [.succeeded hollowTurn ⟨"code", "", Use.sampleTurn.activity⟩] ∧
      Hollow hollowTurn ⟨"code", "", Use.sampleTurn.activity⟩ ∧
      ¬ Vouched [] hollowTurn ⟨"code", "", Use.sampleTurn.activity⟩ := by
  have hollow : Hollow hollowTurn ⟨"code", "", Use.sampleTurn.activity⟩ :=
    ⟨rfl, _, _, Authenticator.completionOf_toActivity _ _, rfl, ⟨rfl, rfl⟩, rfl⟩
  refine ⟨?_, hollow, hollow.not_vouched⟩
  have heard : Site.sample.auth.onSuccess = some fun _ _ => pure () := rfl
  exact congrArg View.log (hollow.told heard Site.sample.services
    ⟨World.initial ⟨1, []⟩, ⟨"chat/users/ada", [], false⟩, false⟩)

end SignInFlow
