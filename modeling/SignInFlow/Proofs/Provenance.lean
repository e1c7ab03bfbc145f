import SignInFlow.Proofs.Erasure
import SignInFlow.Proofs.History
import SignInFlow.Proofs.Records
import SignInFlow.Proofs.Turns

/-!
# Where reported outcomes come from

The completion route takes what it reports from the activity of its turn, and only the queue can
bring such an activity. Kept along every run: what is banked for an explicit sign-in was banked by
one that went pending, no plain activity that is banked or waits has the name of the completion
event, and every completion event that waits carries what a handler has answered since.
-/

namespace SignInFlow

variable {σ : Type}

/-- An explicit sign-in of a user with a handler, on an activity, went pending. -/
def Asked (key handler : String) (initiating : Activity) (event : Event) : Prop :=
  ∃ turn exchange response,
    event = .answered .application turn ⟨handler, true, exchange⟩ (.ok response) ∧
    response.effective.status = .pending ∧ turn.activity.userKey = .ok key ∧
    turn.activity.settled = initiating

/-- A handler has answered for a user with a response, in effect. -/
def Answered (key handler : String) (response : Response) (event : Event) : Prop :=
  ∃ asker turn force exchange answer,
    event = .answered asker turn ⟨handler, force, exchange⟩ (.ok answer) ∧
      answer.effective = response ∧ turn.activity.userKey = .ok key

/-- An explicit sign-in with a handler, on an activity, went pending, and later the handler has
answered for the same user. -/
def Earned (handler : String) (response : Response) (initiating : Activity)
    (log : List Event) : Prop :=
  ∃ key asked answered, [answered, asked].Sublist log ∧ Asked key handler initiating asked ∧
    Answered key handler response answered

namespace Site

open Authenticator

variable (site : Site σ)

/-- Whether an event is a report of the completion route. -/
def routeReport (event : Event) : Bool :=
  event.isReport && site.auth.isCompletionEvent event.turn.activity

/-- A banked activity is not named like the completion event, and a banked completion event was
banked by an explicit sign-in that went pending. -/
def Sound (key handler : String) (log : List Event) : Banked → Prop
  | .activity trigger => site.auth.isCompletionEvent trigger = false
  | .completion event =>
      event.handler = handler ∧ ∃ asked ∈ log, Asked key handler event.initiating asked

/-- A completion event that waits carries what a handler has answered. -/
def Carries (log : List Event) (activity : Activity) : Prop :=
  site.auth.isCompletionEvent activity = true →
    ∃ event response, completionOf activity = .ok event ∧ event.response = some response ∧
      Earned event.handler response event.initiating log

/-- A report of the completion route tells what the queue has brought back, and that was earned. -/
def Honest (report : Event) (older : List Event) : Prop :=
  report.turn.redelivered = true ∧ ∃ event response, completionOf report.turn.activity = .ok event ∧
    site.auth.Tells report.turn event response report ∧
      Earned event.handler response event.initiating older

/-- What every turn keeps. -/
structure Genuine (standing : Standing) : Prop where
  stored : ∀ key handler banked,
    Flow.stored standing.documents key = .ok (.active handler (some banked)) →
      Sound site key handler standing.log banked
  waiting : ∀ activity ∈ standing.waiting, Carries site standing.log activity
  reports : ∀ report older, report :: older <:+ standing.log → site.routeReport report = true →
    Honest site report older

/-! ## More is seen -/

variable {site}

theorem Sound.cons {key handler : String} {log : List Event} {banked : Banked}
    (sound : Sound site key handler log banked) (event : Event) :
    Sound site key handler (event :: log) banked := by
  cases banked with
  | activity trigger => exact sound
  | completion carried =>
      obtain ⟨same, asked, seen, held⟩ := sound
      exact ⟨same, asked, List.mem_cons_of_mem _ seen, held⟩

theorem Carries.cons {log : List Event} {activity : Activity} (carries : Carries site log activity)
    (event : Event) : Carries site (event :: log) activity := by
  intro completion
  obtain ⟨carried, response, decoded, has, key, asked, answered, order, held⟩ := carries completion
  exact ⟨carried, response, decoded, has, key, asked, answered, order.cons _, held⟩

theorem Genuine.see {standing : Standing} (genuine : Genuine site standing) {event : Event}
    (honest : site.routeReport event = true → Honest site event standing.log) :
    Genuine site (standing.see event) where
  stored := fun key handler banked held => (genuine.stored key handler banked held).cons event
  waiting := fun activity waits => (genuine.waiting activity waits).cons event
  reports := by
    intro report older suffix route
    rcases List.suffix_cons_iff.mp suffix with same | earlier
    · cases same
      exact honest route
    · exact genuine.reports report older earlier route

/-! ## Within a turn -/

variable (site)

/-- What every step keeps: what lasts is genuine, and so is the flow that the turn sees. -/
structure Upholds (key : String) (view : View) : Prop where
  own : view.state.key = key
  genuine : Genuine site view.standing
  held : ∀ handler banked, Flow.load view.state = .ok (.active handler (some banked)) →
    Sound site key handler view.log banked

variable {site} {key : String} {view : View}

theorem Upholds.see (upholds : Upholds site key view) {event : Event}
    (silent : site.routeReport event = false) : Upholds site key (view.see event) where
  own := upholds.own
  genuine := upholds.genuine.see fun route => absurd route (by simp [silent])
  held := fun handler banked active => (upholds.held handler banked active).cons event

/-- The token cache has no part in it. -/
theorem Upholds.of_tokens (upholds : Upholds site key view) (tokens : TokenCache) :
    Upholds site key { view with tokens := tokens } :=
  ⟨upholds.own, upholds.genuine, upholds.held⟩

theorem Upholds.hear (upholds : Upholds site key view) (asker : Asker) (turn : Turn)
    (request : Request) (answer : Except Error Response) :
    Upholds site key (view.hear asker turn request answer) := by
  obtain ⟨tokens, heard⟩ := View.hear_eq view turn asker request answer
  rw [heard]
  exact (upholds.of_tokens tokens).see rfl

theorem Upholds.part (upholds : Upholds site key view) (turn : Turn) (way : Withdrawal)
    (handler : String) (outcome : Except Error Unit) :
    Upholds site key (view.part turn way handler outcome) := by
  have parted : Upholds site key (view.see (.withdrew turn way handler outcome)) := upholds.see rfl
  cases outcome with
  | error error => exact parted
  | ok _ => exact parted.of_tokens _

theorem Upholds.hold (upholds : Upholds site key view) {flow : Flow}
    (sound : ∀ handler banked, flow.settled = .active handler (some banked) →
      Sound site key handler view.log banked) : Upholds site key (view.hold flow) where
  own := by simpa using upholds.own
  genuine := upholds.genuine
  held := by
    intro handler banked active
    rw [View.hold_state, Flow.load_store] at active
    exact sound handler banked (Except.ok.inj active)

theorem Upholds.saved (upholds : Upholds site key view) (turn : Turn) :
    Upholds site key (view.saved turn) := by
  rcases View.saved_cases view turn with same | ⟨documents, access, written⟩
  · rwa [same]
  · -- What is stored afterwards was stored before, or is what the turn sees.
    have stored : ∀ user handler banked,
        Flow.stored documents user = .ok (.active handler (some banked)) →
        Sound site user handler view.log banked := by
      intro user handler banked active
      have documents_eq : (view.saved turn).documents = documents := by rw [written]; rfl
      rcases View.stored_saved view turn user with before | ⟨mine, now⟩
      · rw [documents_eq, active] at before
        exact upholds.genuine.stored user handler banked before.symm
      · rw [documents_eq, active] at now
        rw [mine, upholds.own]
        exact upholds.held handler banked now.symm
    have changed : Upholds site key
        { view with documents := documents, state := { view.state with dirty := false } } :=
      ⟨upholds.own, ⟨stored, upholds.genuine.waiting, upholds.genuine.reports⟩, upholds.held⟩
    rw [written]
    exact changed.see rfl

theorem Upholds.enqueue (upholds : Upholds site key view) (turn : Turn) {activity : Activity}
    {queue : ReplayQueue} (accepted : view.queue.submit activity = .ok queue)
    (carries : Carries site view.log activity) :
    Upholds site key (view.enqueue turn activity queue) := by
  have waiting : queue.waiting = view.queue.waiting ++ [activity] := by
    unfold ReplayQueue.submit at accepted
    split at accepted
    · cases accepted
      rfl
    · cases accepted
  have carried : ∀ other ∈ queue.waiting, Carries site view.log other := by
    intro other waits
    rw [waiting, List.mem_append, List.mem_singleton] at waits
    rcases waits with before | rfl
    · exact upholds.genuine.waiting other before
    · exact carries
  have changed : Upholds site key { view with queue := queue } :=
    ⟨upholds.own, ⟨upholds.genuine.stored, carried, upholds.genuine.reports⟩, upholds.held⟩
  exact changed.see rfl

theorem Upholds.persists {turn : Turn} {flow : Flow} {report : List Event}
    {after : View} (upholds : Upholds site key view)
    (sound : ∀ handler banked, flow.settled = .active handler (some banked) →
      Sound site key handler view.log banked)
    (silent : ∀ event ∈ report, site.routeReport event = false)
    (persists : Persists turn flow report view after) : Upholds site key after := by
  have held : Upholds site key (view.hold flow) := upholds.hold sound
  exact persists.keeps (held.saved turn) (fun _ _ => held.see rfl)
    fun event member _ before => before.see (silent event member)

/-- What an ordinary turn sees is no report of the completion route. -/
theorem routeReport_of_ordinary {event : Event}
    (ordinary : site.auth.isCompletionEvent event.turn.activity = false) :
    site.routeReport event = false := by
  simp [routeReport, ordinary]

theorem sound_idle (handler : String) (banked : Banked)
    (active : Flow.idle.settled = .active handler (some banked)) (log : List Event) :
    Sound site key handler log banked := by
  cases active

/-- The settled form of an activity has its kind and name. -/
theorem isCompletionEvent_settled (auth : Authenticator σ) (activity : Activity) :
    auth.isCompletionEvent activity.settled = auth.isCompletionEvent activity := by
  unfold Activity.settled
  split <;> rfl

/-- What a sound flow hands on is earned by the answer that concludes it. -/
theorem Sound.carries {handler : String} {banked : Banked} {log : List Event} {turn : Turn}
    {exchange : Option Exchange} {answer : Response} {activity : Activity}
    (sound : Sound site key handler log banked) (keyed : turn.activity.userKey = .ok key)
    (continues : site.auth.continuation turn handler answer.effective banked = some activity) :
    Carries site (.answered .gate turn ⟨handler, false, exchange⟩ (.ok answer) :: log)
      activity := by
  intro completion
  cases banked with
  | activity trigger =>
      simp only [continuation] at continues
      split at continues
      · cases continues
        rw [show site.auth.isCompletionEvent activity = false from sound] at completion
        cases completion
      · cases continues
  | completion event =>
      simp only [continuation] at continues
      split at continues
      · cases continues
      · cases continues
        obtain ⟨same, asked, seen, pending⟩ := sound
        refine ⟨_, answer.effective, completionOf_toActivity _ _, rfl, key, asked, _,
          (List.singleton_sublist.mpr seen).cons_cons _, ?_, ?_⟩
        · obtain ⟨asking, parameters, first, event_eq, status, user, initiating⟩ := pending
          refine ⟨asking, parameters, first, same ▸ event_eq, status, user, ?_⟩
          change asking.activity.settled = event.initiating.settled
          rw [← initiating, Activity.settled_settled]
        · exact ⟨.gate, turn, false, exchange, answer, rfl, rfl, keyed⟩

/-- What a flow that starts in an ordinary turn banks is sound. -/
theorem sound_banked {asker : Asker} {turn : Turn} {request : Request} {response : Response}
    (ordinary : site.auth.isCompletionEvent turn.activity = false)
    (keyed : turn.activity.userKey = .ok key) (forced : request.force = true)
    (pending : response.effective.status = .pending) (log : List Event) :
    Sound site key request.handler (.answered asker turn request (.ok response) :: log)
      (asker.banked turn request).settled := by
  cases asker with
  | gate => exact (isCompletionEvent_settled _ _).trans ordinary
  | application =>
      obtain ⟨handler, force, exchange⟩ := request
      cases forced
      exact ⟨rfl, _, List.mem_cons_self, turn, exchange, response, rfl, pending, keyed, rfl⟩

theorem Upholds.step {turn : Turn} {after : View} (upholds : Upholds site key view)
    (ordinary : site.auth.isCompletionEvent turn.activity = false)
    (keyed : turn.activity.userKey = .ok key)
    (step : site.auth.Step turn view after) : Upholds site key after := by
  have silent {report : List Event} (notices : Notices turn report) :
      ∀ event ∈ report, site.routeReport event = false := by
    intro event member
    apply routeReport_of_ordinary
    rwa [(notices event member).1]
  cases step with
  | heard asker request answer => exact upholds.hear asker turn request answer
  | balked request answer activity => exact (upholds.hear .gate turn request answer).see rfl
  | refused access => exact upholds.see rfl
  | disappointed request response idle failed =>
      exact (upholds.hear .application turn request _).see (routeReport_of_ordinary ordinary)
  | admitted => exact upholds.see rfl
  | told report => exact upholds.see (routeReport_of_ordinary ordinary)
  | began asker request response idle known forced pending persists =>
      refine (upholds.hear asker turn request _).persists ?_ (silent (notices_nil turn)) persists
      intro handler banked active
      cases active
      rw [View.hear_log]
      exact sound_banked ordinary keyed forced pending _
  | handedOn handler banked exchange response activity queue active continues accepted persists =>
      have carries : Carries site
          (.answered .gate turn ⟨handler, false, exchange⟩ (.ok response) :: view.log) activity :=
        (upholds.held handler banked active).carries keyed continues
      refine Upholds.persists ?_ (fun _ _ idle => sound_idle _ _ idle _)
        (silent (notices_nil turn)) persists
      apply (upholds.hear .gate turn _ _).enqueue turn
      · rwa [View.hear_queue]
      · rwa [View.hear_log]
  | proceeded handler trigger exchange response active complete own persists =>
      exact (upholds.hear .gate turn _ _).persists
        (fun _ _ idle => sound_idle _ _ idle _) (silent (notices_admitted turn)) persists
  | gaveUp handler trigger exchange response now active failed persists =>
      exact (upholds.hear .gate turn _ _).persists (fun _ _ idle => sound_idle _ _ idle _)
        (silent (site.auth.notices_failureEvent turn _ now)) persists
  | settled flow request response report loaded empty reports persists =>
      exact (upholds.hear .gate turn _ _).persists
        (fun _ _ idle => sound_idle _ _ idle _) (silent reports.notices) persists
  | parted way handler outcome other => exact upholds.part turn way handler outcome
  | withdrawn way handler banked active persists =>
      exact (upholds.part turn way handler _).persists (fun _ _ idle => sound_idle _ _ idle _)
        (silent (notices_nil turn)) persists
  | set name value foreign =>
      refine ⟨upholds.own, upholds.genuine, fun handler banked active => ?_⟩
      rw [Flow.load_set view.state value foreign] at active
      exact upholds.held handler banked active
  | remove name foreign =>
      refine ⟨(UserState.remove_key _).trans upholds.own, upholds.genuine,
        fun handler banked active => ?_⟩
      rw [Flow.load_remove view.state foreign] at active
      exact upholds.held handler banked active
  | saved => exact upholds.saved turn

theorem Upholds.reaches {turn : Turn} {after : View} (upholds : Upholds site key view)
    (ordinary : site.auth.isCompletionEvent turn.activity = false)
    (keyed : turn.activity.userKey = .ok key)
    (reaches : site.auth.Reaches turn view after) : Upholds site key after := by
  induction reaches with
  | refl => exact upholds
  | tail _ step ih => exact ih.step ordinary keyed step

/-! ## Turn after turn -/

theorem genuine_initial (host : σ) :
    Genuine site (World.initial (⟨host, []⟩ : Recorded σ)).standing where
  stored := by
    intro key handler banked active
    cases active
  waiting := by
    intro activity waits
    cases waits
  reports := by
    intro report older suffix
    cases List.suffix_nil.mp suffix

theorem genuine_found {turn : Turn} {left found : Standing} (genuine : Genuine site left)
    (finds : Finds turn left found) :
    Genuine site found ∧ (turn.redelivered = true → Carries site found.log turn.activity) := by
  obtain ⟨documents, receiving, log, waiting⟩ := finds
  have subset : ∀ activity ∈ found.waiting, activity ∈ left.waiting := by
    intro activity waits
    split at waiting
    · rw [waiting]
      exact List.mem_cons_of_mem _ waits
    · rwa [← waiting]
  refine ⟨⟨?_, ?_, ?_⟩, ?_⟩
  · rw [documents, log]
    exact genuine.stored
  · rw [log]
    exact fun activity waits => genuine.waiting activity (subset activity waits)
  · rw [log]
    exact genuine.reports
  · intro redelivered
    rw [if_pos redelivered] at waiting
    rw [log]
    exact genuine.waiting turn.activity (by simp [waiting])

/-- The completion route tells what the activity of its turn carries. -/
theorem genuine_completes {turn : Turn} {found : Standing} {view after : View}
    (genuine : Genuine site found)
    (carries : turn.redelivered = true → Carries site found.log turn.activity)
    (loads : view.Loads turn found) (completion : site.auth.isCompletionEvent turn.activity = true)
    (completes : site.auth.Completes turn view after) : Genuine site after.standing := by
  have read : Genuine site view.standing := by
    rw [loads.standing]
    exact genuine.see nofun
  cases completes with
  | nothing => exact read
  | reported event response report redelivered decoded carried tells =>
      have turn_eq : report.turn = turn := tells.notice.1
      apply read.see
      intro route
      obtain ⟨other, answer, same, has, earned⟩ := carries redelivered completion
      rw [decoded] at same
      cases same
      rw [carried] at has
      cases has
      have log_eq : view.standing.log = .accessed turn (.read [view.state.key]) :: found.log := by
        rw [loads.standing]
        rfl
      obtain ⟨key, asked, answered, order, held⟩ := earned
      rw [Honest, turn_eq, log_eq]
      exact ⟨redelivered, event, response, decoded, tells, key, asked, answered, order.cons _, held⟩

theorem genuine_turned {turn : Turn} {left found after : Standing} (genuine : Genuine site left)
    (finds : Finds turn left found) (turned : site.Turned turn found after) :
    Genuine site after := by
  obtain ⟨genuine, carries⟩ := genuine_found genuine finds
  cases turned with
  | unread => exact genuine
  | refused access => exact genuine.see nofun
  | dropped key keyed => exact genuine.see nofun
  | reported loads completion completes =>
      exact genuine_completes genuine carries loads completion completes
  | @conducted view last loads ordinary reaches =>
      have start : Upholds site view.state.key view := by
        have read : Genuine site view.standing := by
          rw [loads.standing]
          exact genuine.see nofun
        refine ⟨rfl, read, fun handler banked active => ?_⟩
        have log_eq : view.log = .accessed turn (.read [view.state.key]) :: found.log :=
          congrArg Standing.log loads.standing
        rw [Flow.load_eq_stored loads.stored] at active
        rw [log_eq]
        exact (genuine.stored _ _ _ active).cons _
      exact (start.reaches ordinary loads.keyed reaches).genuine

/-- Nobody can forge the outcome of an explicit sign-in: whatever activities arrive, and in whatever
order turns and replays follow, the completion route reports only from the queue, and only what was
earned. -/
theorem reported_outcome_earned (site : Site σ) (host : σ) (inputs : List Input) :
    (site.recorded.run (World.initial ⟨host, []⟩) inputs).erase =
        site.deployment.run (World.initial host) inputs ∧
      ∀ report older, report :: older <:+
          (site.recorded.run (World.initial ⟨host, []⟩) inputs).host.log →
        site.routeReport report = true → Honest site report older := by
  have genuine : Genuine site (site.recorded.run (World.initial ⟨host, []⟩) inputs).standing :=
    site.run_induction (fun _ _ _ _ genuine finds turned => genuine_turned genuine finds turned)
      (genuine_initial host) inputs
  exact ⟨site.erase_run _ inputs, genuine.reports⟩

/-- The token that the sample site reports in the end was earned. -/
theorem sample_outcome_earned : ∃ report older,
    report :: older <:+ (sample.recorded.run (World.initial ⟨0, []⟩) sampleInputs).host.log ∧
      sample.routeReport report = true ∧ Honest sample report older := by
  have told : ((sample.recorded.run (World.initial ⟨0, []⟩) sampleInputs).host.log.head?.any
      sample.routeReport) = true := by
    decide +kernel
  cases log_eq : (sample.recorded.run (World.initial ⟨0, []⟩) sampleInputs).host.log with
  | nil =>
      rw [log_eq] at told
      cases told
  | cons report older =>
      rw [log_eq] at told
      have reported : report :: older <:+
          (sample.recorded.run (World.initial ⟨0, []⟩) sampleInputs).host.log :=
        ⟨[], log_eq.symm⟩
      exact ⟨report, older, List.suffix_rfl, told,
        (reported_outcome_earned sample 0 sampleInputs).2 report older reported told⟩

end Site
end SignInFlow
