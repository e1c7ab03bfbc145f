import SignInFlow.Proofs.Erasure
import SignInFlow.Proofs.Ledger
import SignInFlow.Proofs.Turns

/-!
# No flow is lost or ends twice

As long as no access is refused, every turn keeps the ledger of flows: what a step has begun is
stored before the next one, and what it has let go of is cleared.
-/

namespace SignInFlow

variable {σ : Type}

/-! ## Within a turn -/

/-- What every step of a turn keeps: the documents are those of the record, the turn sees the flow
that is stored, and the books of the turn are in order. -/
structure Balanced (auth : Authenticator σ) (turn : Turn) (final : List Event) (due : Nat)
    (outs : List Event) (view : View) : Prop where
  keyed : turn.activity.userKey = .ok view.state.key
  recalls : view.Recalls []
  receiving : view.queue.receiving = true
  sees : Flow.load view.state = Flow.after view.log view.state.key
  books : Books auth final view.state.key due outs view.log

namespace Balanced

variable {auth : Authenticator σ} {turn : Turn} {final outs : List Event} {due : Nat} {view : View}

theorem isOf_own (balanced : Balanced auth turn final due outs view) :
    turn.isOf view.state.key = true := by
  simp [Turn.isOf, balanced.keyed]

theorem see (balanced : Balanced auth turn final due outs view) (event : Event) {after : List Event}
    (own : event.turn = turn) (silent : ∀ documents, event.apply documents = documents)
    (outs_eq : ∀ handler banked, Flow.load view.state = .ok (.active handler (some banked)) →
      (if event.concludes view.state.key handler banked then event :: outs else outs) = after)
    (submitted : ∀ turn activity, event = .accessed turn (.submit activity) →
      outs = [] ∧ ∃ handler banked, Flow.load view.state = .ok (.active handler (some banked)))
    (prompt : event.isFailure = true → Prompts event.turn view.log) :
    Balanced auth turn final (due + event.begins.toNat) after (view.see event) where
  keyed := balanced.keyed
  recalls := balanced.recalls.see (silent _)
  receiving := balanced.receiving
  sees := by
    rw [View.see_state, View.see_log, balanced.sees, Flow.after_cons_of_silent silent]
  books := by
    rw [balanced.sees] at outs_eq submitted
    exact balanced.books.pass event (own ▸ balanced.keyed)
      (Flow.after_cons_of_silent silent view.log) outs_eq submitted prompt

/-- A notice has no part in it, if a failure is told for a reason. -/
theorem notice (balanced : Balanced auth turn final due outs view) (event : Event)
    (own : event.turn = turn) (notice : event.isNotice = true)
    (prompt : event.isFailure = true → Prompts event.turn view.log) :
    Balanced auth turn final due outs (view.see event) := by
  have seen (silent : ∀ documents, event.apply documents = documents)
      (unbegun : event.begins = false)
      (inert : ∀ handler banked, event.concludes view.state.key handler banked = false)
      (other : ∀ turn activity, event ≠ .accessed turn (.submit activity)) :
      Balanced auth turn final due outs (view.see event) := by
    have seen : Balanced auth turn final (due + event.begins.toNat) outs (view.see event) :=
      balanced.see event own silent (fun handler banked _ => if_neg (by simp [inert]))
        (fun turn activity same => absurd same (other turn activity)) prompt
    rwa [unbegun] at seen
  cases event with
  | accessed | refused | answered | withdrew => cases notice
  | admitted | succeeded | failed | sent =>
      exact seen (fun _ => rfl) rfl (fun _ _ => rfl) fun _ _ same => nomatch same

/-- The token cache has no part in it. -/
theorem of_tokens (balanced : Balanced auth turn final due outs view) (tokens : TokenCache) :
    Balanced auth turn final due outs { view with tokens := tokens } :=
  ⟨balanced.keyed, balanced.recalls, balanced.receiving, balanced.sees, balanced.books⟩

theorem mono (balanced : Balanced auth turn final due outs view) {later : List Event}
    (more : final <:+ later) :
    Balanced auth turn later due outs view :=
  ⟨balanced.keyed, balanced.recalls, balanced.receiving, balanced.sees, balanced.books.mono more⟩

theorem hear (balanced : Balanced auth turn final due outs view) (asker : Asker) (request : Request)
    (answer : Except Error Response) {after : List Event}
    (outs_eq : ∀ handler banked, Flow.load view.state = .ok (.active handler (some banked)) →
      (if (Event.answered asker turn request answer).concludes view.state.key handler banked then
        .answered asker turn request answer :: outs else outs) = after) :
    Balanced auth turn final (due + (Event.answered asker turn request answer).begins.toNat) after
      (view.hear asker turn request answer) := by
  obtain ⟨tokens, heard⟩ := View.hear_eq view turn asker request answer
  rw [heard]
  exact (balanced.of_tokens tokens).see (.answered asker turn request answer) rfl (fun _ => rfl)
    outs_eq (fun _ _ same => nomatch same) nofun

theorem part (balanced : Balanced auth turn final due outs view) (way : Withdrawal)
    (handler : String) (outcome : Except Error Unit) {after : List Event}
    (outs_eq : ∀ owner banked, Flow.load view.state = .ok (.active owner (some banked)) →
      (if (Event.withdrew turn way handler outcome).concludes view.state.key owner banked then
        .withdrew turn way handler outcome :: outs else outs) = after) :
    Balanced auth turn final due after (view.part turn way handler outcome) := by
  have parted :
      Balanced auth turn final due after (view.see (.withdrew turn way handler outcome)) :=
    balanced.see (.withdrew turn way handler outcome) rfl (fun _ => rfl) outs_eq
      (fun _ _ same => nomatch same) nofun
  cases outcome with
  | error error => exact parted
  | ok _ => exact parted.of_tokens _

/-- The queue accepts the continuation of a flow that nothing has let go of. -/
theorem enqueue (balanced : Balanced auth turn final 0 [] view) {activity : Activity}
    {queue : ReplayQueue} (accepted : view.queue.submit activity = .ok queue) {handler : String}
    {banked : Banked} (active : Flow.load view.state = .ok (.active handler (some banked))) :
    Balanced auth turn final 0 [.accessed turn (.submit activity)]
      (view.enqueue turn activity queue) := by
  have receiving : queue.receiving = true := by
    unfold ReplayQueue.submit at accepted
    split at accepted
    · cases accepted
      exact balanced.receiving
    · cases accepted
  have queued : Balanced auth turn final 0 [] { view with queue := queue } :=
    ⟨balanced.keyed, balanced.recalls, receiving, balanced.sees, balanced.books⟩
  refine queued.see (.accessed turn (.submit activity)) rfl (fun _ => rfl) ?_ ?_ nofun
  · exact fun _ _ _ => if_pos balanced.isOf_own
  · exact fun _ _ _ => ⟨rfl, handler, banked, active⟩

/-- Writing back what the turn sees changes no flow. -/
theorem saved (balanced : Balanced auth turn final due outs view) :
    Balanced auth turn final due outs (view.saved turn) := by
  cases dirty : view.state.dirty with
  | false => rwa [View.saved_of_clean view turn dirty]
  | true =>
      obtain ⟨access, change, log, stored, others⟩ :=
        View.written_of_dirty turn balanced.recalls dirty
      have rewrites : Rewrites view.state.key turn access view.log := ⟨change, others⟩
      have same : ∀ user, Flow.after (.accessed turn access :: view.log) user =
          Flow.after view.log user := by
        intro user
        by_cases own : user = view.state.key
        · rw [own, ← balanced.sees]
          exact stored
        · exact others user own
      refine ⟨?_, balanced.recalls.saved turn, ?_, ?_, ?_⟩
      · rw [View.saved_key, balanced.keyed]
      · rw [View.saved_queue, balanced.receiving]
      · rw [View.load_saved, View.saved_key, log, same, balanced.sees]
      · rw [View.saved_key, log]
        refine balanced.books.pass (.accessed turn access) balanced.keyed same ?_ ?_ nofun
        · intro handler banked _
          rw [rewrites.concludes]
          rfl
        · rintro _ activity written
          cases written
          exact absurd rfl (change activity)

/-- A flow that changes the state of the user is stored by one more access in the record. -/
theorem written (balanced : Balanced auth turn final due outs view) {flow : Flow}
    (dirty : (flow.store view.state).dirty = true) :
    ∃ access : Access, Rewrites view.state.key turn access view.log ∧
      ((view.hold flow).saved turn).log = .accessed turn access :: view.log ∧
      Flow.after (.accessed turn access :: view.log) view.state.key = .ok flow.settled := by
  have recalls : (view.hold flow).Recalls [] := balanced.recalls
  obtain ⟨access, change, log, stored, others⟩ := View.written_of_dirty turn recalls dirty
  rw [View.hold_state, Flow.load_store, Flow.store_key] at stored
  rw [View.hold_state, Flow.store_key] at others
  exact ⟨access, ⟨change, others⟩, log, stored⟩

/-- The books decide whether a flow that is stored and written back leaves all in balance. -/
theorem kept (balanced : Balanced auth turn final due outs view) {flow : Flow} {access : Access}
    (log : ((view.hold flow).saved turn).log = .accessed turn access :: view.log)
    (stored : Flow.after (.accessed turn access :: view.log) view.state.key = .ok flow.settled)
    (books : Books auth final view.state.key 0 [] (.accessed turn access :: view.log)) :
    Balanced auth turn final 0 [] ((view.hold flow).saved turn) where
  keyed := by simpa using balanced.keyed
  recalls := View.Recalls.saved turn balanced.recalls
  receiving := by simpa using balanced.receiving
  sees := by simp [log, stored]
  books := by simpa [log] using books

theorem opens (balanced : Balanced auth turn final 1 outs view)
    (idle : Flow.load view.state = .ok .idle) (handler : String) (banked : Banked) :
    Balanced auth turn final 0 [] ((view.hold (.active handler (some banked))).saved turn) := by
  obtain ⟨access, rewrites, log, stored⟩ :=
    balanced.written (Flow.store_active_dirty handler banked view.state)
  refine balanced.kept log stored (balanced.books.opened rewrites ?_ stored)
  rw [← balanced.sees, idle]

theorem closes {outlet : Event} (balanced : Balanced auth turn final 0 [outlet] view)
    {handler : String} {banked : Banked}
    (active : Flow.load view.state = .ok (.active handler (some banked)))
    (concludes : ∀ access, ((view.hold .idle).saved turn).log = .accessed turn access :: view.log →
      Concludes auth final (.accessed turn access) view.log handler banked outlet) :
    Balanced auth turn final 0 [] ((view.hold .idle).saved turn) := by
  obtain ⟨access, rewrites, log, stored⟩ := balanced.written (Flow.store_idle_dirty active)
  refine balanced.kept log stored (balanced.books.closed rewrites ?_ stored (concludes access log))
  rw [← balanced.sees, active]

/-- Where no flow is stored, clearing it changes nothing. -/
theorem stays (balanced : Balanced auth turn final due outs view)
    (idle : Flow.load view.state = .ok .idle) :
    Balanced auth turn final due outs ((view.hold .idle).saved turn) := by
  have held : Balanced auth turn final due outs (view.hold .idle) := by
    refine ⟨?_, balanced.recalls, balanced.receiving, ?_, ?_⟩
    · simpa using balanced.keyed
    · rw [View.hold_state, Flow.load_store, Flow.store_key, View.hold_log, ← balanced.sees, idle]
      rfl
    · simpa using balanced.books
  exact held.saved

/-- A flow that the turn sees has something banked. -/
theorem idle_of_empty (balanced : Balanced auth turn final due outs view) {flow : Flow}
    (loaded : Flow.load view.state = .ok flow) (empty : flow.banked = none) : flow = .idle := by
  rw [balanced.sees] at loaded
  rcases balanced.books.decoded view.state.key with idle | ⟨handler, banked, active⟩
  · rw [idle] at loaded
    cases loaded
    rfl
  · rw [active] at loaded
    cases loaded
    cases empty

theorem failure (balanced : Balanced auth turn final due outs view) (failure : Failure)
    (now : Instant) (prompts : Prompts turn view.log) :
    Balanced auth turn final due outs (view.see (auth.failureEvent turn failure now)) := by
  rcases auth.failureEvent_cases turn failure now with same | ⟨message, same⟩
  · rw [same]
    exact balanced.notice (.failed turn failure) rfl rfl fun _ => prompts
  · rw [same]
    exact balanced.notice (.sent turn message) rfl rfl fun _ => prompts

/-- The other properties of the user have no part in it. -/
theorem of_state (balanced : Balanced auth turn final due outs view) {state : UserState}
    (key : state.key = view.state.key) (load : Flow.load state = Flow.load view.state) :
    Balanced auth turn final due outs { view with state := state } where
  keyed := by
    rw [balanced.keyed, key]
  recalls := balanced.recalls
  receiving := balanced.receiving
  sees := by
    change Flow.load state = Flow.after view.log state.key
    rw [load, key, balanced.sees]
  books := by
    change Books auth final state.key due outs view.log
    rw [key]
    exact balanced.books

theorem endsWith_of_pending {response : Response} (pending : response.status = .pending)
    (banked : Banked) :
    banked.endsWith turn response = false := by
  cases banked <;> simp [Banked.endsWith, pending]

/-- What is handed on is not let go of before it is queued. -/
theorem endsWith_of_continuation {handler : String} {response : Response} {banked : Banked}
    {activity : Activity}
    (continues : auth.continuation turn handler response banked = some activity) :
    banked.endsWith turn response = false := by
  cases banked with
  | completion event => rfl
  | activity trigger =>
      simp only [Authenticator.continuation] at continues
      split at continues
      · rename_i concluded
        simp [Banked.endsWith, concluded.1, concluded.2]
      · cases continues

section

variable {after : View}

theorem handedOn {handler : String} {banked : Banked} {exchange : Option Exchange}
    {response : Response} {activity : Activity} {queue : ReplayQueue}
    (balanced : Balanced auth turn final 0 [] view)
    (active : Flow.load view.state = .ok (.active handler (some banked)))
    (continues : auth.continuation turn handler response.effective banked = some activity)
    (accepted : view.queue.submit activity = .ok queue) :
    Balanced auth turn final 0 []
      ((((view.hear .gate turn ⟨handler, false, exchange⟩ (.ok response)).enqueue turn activity
        queue).hold .idle).saved turn) := by
  have heard : Balanced auth turn final 0 []
      (view.hear .gate turn ⟨handler, false, exchange⟩ (.ok response)) := by
    refine balanced.hear .gate ⟨handler, false, exchange⟩ (.ok response)
      fun owner payload loaded => ?_
    rw [active] at loaded
    cases loaded
    simp [Event.concludes, endsWith_of_continuation continues]
  rw [← View.hear_state view turn .gate ⟨handler, false, exchange⟩ (.ok response)] at active
  have queued := heard.enqueue (by rwa [View.hear_queue]) active
  refine queued.closes active fun access _ => ?_
  exact .handedOn turn exchange response activity continues
      (by rw [View.enqueue_log, View.hear_log])

/-- The gate is told that an automatic flow is over, and clears it; the rest is up to the reason. -/
theorem gateOver {handler : String} {trigger : Activity} {exchange : Option Exchange}
    {response : Response} (balanced : Balanced auth turn final 0 [] view)
    (active : Flow.load view.state = .ok (.active handler (some (.activity trigger))))
    (ends : (Banked.activity trigger).endsWith turn response.effective = true)
    (concludes : ∀ access,
      (((view.hear .gate turn ⟨handler, false, exchange⟩ (.ok response)).hold
          .idle).saved turn).log =
        .accessed turn access ::
          .answered .gate turn ⟨handler, false, exchange⟩ (.ok response) :: view.log →
      Concludes auth final (.accessed turn access)
        (.answered .gate turn ⟨handler, false, exchange⟩ (.ok response) :: view.log) handler
        (.activity trigger) (.answered .gate turn ⟨handler, false, exchange⟩ (.ok response))) :
    Balanced auth turn final 0 [] (((view.hear .gate turn ⟨handler, false, exchange⟩
      (.ok response)).hold .idle).saved turn) := by
  have heard : Balanced auth turn final 0
      [.answered .gate turn ⟨handler, false, exchange⟩ (.ok response)]
      (view.hear .gate turn ⟨handler, false, exchange⟩ (.ok response)) := by
    refine balanced.hear .gate ⟨handler, false, exchange⟩ (.ok response)
      fun owner payload loaded => ?_
    rw [active] at loaded
    cases loaded
    simp [Event.concludes, ends, balanced.isOf_own]
  rw [← View.hear_state view turn .gate ⟨handler, false, exchange⟩ (.ok response)] at active
  refine heard.closes active fun access log => ?_
  rw [View.hear_log] at log ⊢
  exact concludes access log

theorem heard (balanced : Balanced auth turn final 0 [] view) {asker : Asker} {request : Request}
    {answer : Except Error Response}
    (unbegun : (Event.answered asker turn request answer).begins = false)
    (quiet : asker = .gate → ∀ response, answer = .ok response →
      response.effective.status = .pending ∨ view.queue.receiving = false) :
    Balanced auth turn final 0 [] (view.hear asker turn request answer) := by
  have inert (handler : String) (banked : Banked) :
      (Event.answered asker turn request answer).concludes view.state.key handler banked =
        false := by
    cases asker with
    | application => rfl
    | gate =>
        cases answer with
        | error error => rfl
        | ok response =>
            have pending : response.effective.status = .pending := by
              rcases quiet rfl response rfl with pending | closed
              · exact pending
              · rw [balanced.receiving] at closed
                cases closed
            simp [Event.concludes, endsWith_of_pending pending]
  have heard := balanced.hear asker request answer fun handler banked _ => if_neg (by simp [inert])
  rwa [unbegun] at heard

/-- A flow begins, and is stored. -/
theorem began (balanced : Balanced auth turn final 0 [] view) {asker : Asker} {request : Request}
    {response : Response} (idle : Flow.load view.state = .ok .idle) (forced : request.force = true)
    (pending : response.effective.status = .pending) (banked : Banked) :
    Balanced auth turn final 0 []
      (((view.hear asker turn request (.ok response)).hold
        (.active request.handler (some banked))).saved turn) := by
  have heard : Balanced auth turn final
      (0 + (Event.answered asker turn request (.ok response)).begins.toNat) []
      (view.hear asker turn request (.ok response)) := by
    refine balanced.hear asker request (.ok response) fun owner payload loaded => ?_
    rw [idle] at loaded
    cases loaded
  have begins : (Event.answered asker turn request (.ok response)).begins = true := by
    simp [Event.begins, forced, pending]
  rw [begins] at heard
  exact heard.opens (by rw [View.hear_state, idle]) request.handler banked

/-- A failure is told once the flow is cleared. -/
theorem prompts_cleared {asker : Asker} {request : Request} {response : Response}
    (failed : response.effective.status = .error) :
    Prompts turn (((view.hear asker turn request (.ok response)).hold .idle).saved turn).log := by
  rcases View.saved_cases ((view.hear asker turn request (.ok response)).hold .idle) turn with
    same | ⟨documents, access, written⟩
  · rw [same, View.hold_log, View.hear_log]
    exact .answered asker request response failed
  · rw [written, View.see_log, View.hold_log, View.hear_log]
    exact .cleared access asker request response failed

/-- Where no flow is stored, a handler may conclude at once, and a failure is told. -/
theorem settled (balanced : Balanced auth turn final 0 [] view) {request : Request}
    {response : Response} {report : List Event} (idle : Flow.load view.state = .ok .idle)
    (reports : auth.Reports turn request.handler response.effective report) :
    Balanced auth turn final 0 []
      (report.foldr View.see
        (((view.hear .gate turn request (.ok response)).hold .idle).saved turn)) := by
  have concluded : response.effective.status ≠ .pending := by
    cases reports with
    | success complete => simp [complete]
    | failure failed now => simp [failed]
  have heard : Balanced auth turn final 0 [] (view.hear .gate turn request (.ok response)) := by
    have heard : Balanced auth turn final
        (0 + (Event.answered .gate turn request (.ok response)).begins.toNat) []
        (view.hear .gate turn request (.ok response)) := by
      refine balanced.hear .gate request (.ok response) fun owner payload loaded => ?_
      rw [idle] at loaded
      cases loaded
    rwa [show (Event.answered .gate turn request (.ok response)).begins = false by
      simp [Event.begins, concluded]] at heard
  have stays := heard.stays (by rw [View.hear_state, idle])
  cases reports with
  | success complete => exact stays
  | failure failed now =>
      exact stays.failure _ now (prompts_cleared failed)

theorem parted (balanced : Balanced auth turn final 0 [] view) {way : Withdrawal} {handler : String}
    {outcome : Except Error Unit}
    (other : outcome = .ok () → ∀ banked, Flow.load view.state ≠ .ok (.active handler banked)) :
    Balanced auth turn final 0 [] (view.part turn way handler outcome) := by
  refine balanced.part way handler outcome fun owner banked active => if_neg ?_
  cases outcome with
  | error error => exact Bool.false_ne_true
  | ok _ =>
      have differs : handler ≠ owner := by
        rintro rfl
        exact other rfl (some banked) active
      simp [Event.concludes, differs]

/-- A handler forgets the user, and its flow is cleared. -/
theorem withdrawn (balanced : Balanced auth turn final 0 [] view) {way : Withdrawal}
    {handler : String} {banked : Option Banked}
    (active : Flow.load view.state = .ok (.active handler banked)) :
    Balanced auth turn final 0 []
      (((view.part turn way handler (.ok ())).hold .idle).saved turn) := by
  cases banked with
  | none => cases balanced.idle_of_empty active rfl
  | some banked =>
      have parted : Balanced auth turn final 0 [.withdrew turn way handler (.ok ())]
          (view.part turn way handler (.ok ())) := by
        refine balanced.part way handler (.ok ()) fun owner payload loaded => ?_
        rw [active] at loaded
        cases loaded
        simp [Event.concludes, balanced.isOf_own]
      rw [← View.part_state view turn way handler (.ok ())] at active
      exact parted.closes active fun access _ => .withdrawn turn way

/-- Where nothing is refused, every flow is written back. -/
theorem kept_of_granted {flow : Flow} {report : List Event}
    (persists : Persists turn flow report view after) (granted : Granted after.log) :
    after = report.foldr View.see ((view.hold flow).saved turn) := by
  cases persists with
  | kept => rfl
  | refused access => cases granted _ List.mem_cons_self

theorem step (balanced : Balanced auth turn final 0 [] view) (step : auth.Step turn view after)
    (more : after.log <:+ final) (granted : Granted after.log) :
    Balanced auth turn final 0 [] after := by
  cases step with
  | heard asker request answer unbegun quiet => exact balanced.heard unbegun quiet
  | balked request answer activity => cases granted _ List.mem_cons_self
  | refused access => cases granted _ List.mem_cons_self
  | disappointed request response idle failed =>
      have heard :
          Balanced auth turn final 0 [] (view.hear .application turn request (.ok response)) :=
        balanced.heard (by simp [Event.begins, failed]) fun gate => by cases gate
      refine heard.notice (.failed turn _) rfl rfl fun _ => ?_
      rw [View.hear_log]
      exact .answered .application request response failed
  | admitted => exact balanced.notice (.admitted turn) rfl rfl fun failure => by cases failure
  | told report =>
      exact balanced.notice (.succeeded turn report) rfl rfl fun failure => by cases failure
  | began asker request response idle known forced pending persists =>
      rw [kept_of_granted persists granted]
      exact balanced.began idle forced pending _
  | handedOn handler banked exchange response activity queue active continues accepted persists =>
      rw [kept_of_granted persists granted]
      exact balanced.handedOn active continues accepted
  | proceeded handler trigger exchange response active complete own persists =>
      rw [kept_of_granted persists granted] at more ⊢
      have cleared : Balanced auth turn final 0 [] (((view.hear .gate turn
          ⟨handler, false, exchange⟩ (.ok response)).hold .idle).saved turn) :=
        balanced.gateOver active (by simp [Banked.endsWith, complete, own]) fun access log =>
          .proceeded turn exchange response complete own (log ▸ more)
      exact cleared.notice (.admitted turn) rfl rfl fun failure => by cases failure
  | gaveUp handler trigger exchange response now active failed persists =>
      rw [kept_of_granted persists granted] at more ⊢
      have cleared : Balanced auth turn final 0 [] (((view.hear .gate turn
          ⟨handler, false, exchange⟩ (.ok response)).hold .idle).saved turn) :=
        balanced.gateOver active (by simp [Banked.endsWith, failed]) fun access log =>
          .gaveUp turn exchange response now failed (log ▸ more)
      exact cleared.failure _ now (prompts_cleared failed)
  | settled flow request response report loaded empty reports persists =>
      rw [kept_of_granted persists granted]
      obtain rfl := balanced.idle_of_empty loaded empty
      exact balanced.settled loaded reports
  | parted way handler outcome other => exact balanced.parted other
  | withdrawn way handler banked active persists =>
      rw [kept_of_granted persists granted]
      exact balanced.withdrawn active
  | set name value foreign => exact balanced.of_state rfl (Flow.load_set view.state value foreign)
  | remove name foreign =>
      exact balanced.of_state (UserState.remove_key view.state)
          (Flow.load_remove view.state foreign)
  | saved => exact balanced.saved

theorem reaches (balanced : Balanced auth turn view.log 0 [] view)
    (reaches : auth.Reaches turn view after) (granted : Granted after.log) :
    Balanced auth turn after.log 0 [] after := by
  induction reaches with
  | refl => exact balanced
  | tail _ step ih =>
      have grown := (View.adds_of_step turn step).suffix
      exact ((ih (granted.mono grown)).mono grown).step step List.suffix_rfl granted

end

end Balanced

/-! ## Turn after turn -/

/-- What every turn leaves: the documents are those of the record, the queue accepts activities, and
the books are in order for every user. -/
structure Standing.Balanced (auth : Authenticator σ) (standing : Standing) : Prop where
  recalls : standing.documents = replay [] standing.log
  receiving : standing.receiving = true
  books : ∀ key, Books auth standing.log key 0 [] standing.log

namespace Site

open Authenticator

variable {site : Site σ}

theorem balanced_initial (host : σ) :
    (World.initial (⟨host, []⟩ : Recorded σ)).standing.Balanced site.auth where
  recalls := rfl
  receiving := rfl
  books := by
    intro key
    refine ⟨chronicle_nil, fun _ => .inl rfl, rfl, fun user member => ?_⟩
    cases Flow.mem_users.mp member

/-- Reading a document leaves the balance. -/
theorem balanced_read {turn : Turn} {found : Standing} {key : String}
    (balanced : found.Balanced site.auth) (keyed : turn.activity.userKey = .ok key) :
    (found.see (.accessed turn (.read [key]))).Balanced site.auth where
  recalls := balanced.recalls
  receiving := balanced.receiving
  books := ((balanced.books key).mono (List.suffix_cons _ _)).read keyed [key] |>.rekey

/-- A turn that has loaded the state of its user begins in balance. -/
theorem balanced_loads {turn : Turn} {found : Standing} {view : View}
    (balanced : found.Balanced site.auth) (loads : view.Loads turn found) :
    Balanced site.auth turn view.log 0 [] view := by
  have read : view.standing.Balanced site.auth := by
    rw [loads.standing]
    exact balanced_read balanced loads.keyed
  refine ⟨loads.keyed, read.recalls, read.receiving, ?_, read.books view.state.key⟩
  have documents : view.documents = found.documents := congrArg Standing.documents loads.standing
  have recalls : view.documents = replay [] view.log := read.recalls
  rw [Flow.load_eq_stored loads.stored, Flow.after, ← recalls, documents]

/-- A turn that is in balance leaves all in balance. -/
theorem balanced_leaves {turn : Turn} {view : View}
    (balanced : Balanced site.auth turn view.log 0 [] view) : view.standing.Balanced site.auth :=
  ⟨balanced.recalls, balanced.receiving, balanced.books.rekey⟩

/-- A turn only adds to the record. -/
theorem log_suffix_of_turned {turn : Turn} {found after : Standing}
    (turned : site.Turned turn found after) : found.log <:+ after.log := by
  have read {view : View} (loads : view.Loads turn found) : found.log <:+ view.log := by
    rw [show view.log = .accessed turn (.read [view.state.key]) :: found.log from
      congrArg Standing.log loads.standing]
    exact List.suffix_cons _ _
  cases turned with
  | unread => exact List.suffix_rfl
  | refused access => exact List.suffix_cons _ _
  | dropped key keyed => exact List.suffix_cons _ _
  | reported loads completion completes =>
      cases completes with
      | nothing => exact read loads
      | reported => exact (read loads).trans (List.suffix_cons _ _)
  | conducted loads ordinary reaches =>
      exact (read loads).trans ((View.adds_of_reaches turn reaches).suffix)

theorem balanced_turned {turn : Turn} {left found after : Standing}
    (balanced : Granted left.log → left.Balanced site.auth) (finds : Finds turn left found)
    (turned : site.Turned turn found after) (granted : Granted after.log) :
    after.Balanced site.auth := by
  obtain ⟨documents, receiving, log, -⟩ := finds
  have found_balanced : found.Balanced site.auth := by
    replace balanced := balanced (log ▸ granted.mono (log_suffix_of_turned turned))
    refine ⟨?_, receiving.trans balanced.receiving, ?_⟩
    · rw [documents, log]
      exact balanced.recalls
    · rw [log]
      exact balanced.books
  cases turned with
  | unread => exact found_balanced
  | refused access => cases granted _ List.mem_cons_self
  | dropped key keyed => exact balanced_read found_balanced keyed
  | @reported view last loads completion completes =>
      have begins := balanced_loads found_balanced loads
      have log_eq : view.log = .accessed turn (.read [view.state.key]) :: found.log :=
        congrArg Standing.log loads.standing
      cases completes with
      | nothing => exact balanced_leaves begins
      | reported event response report redelivered decoded carried tells =>
          apply balanced_leaves
          replace begins := begins.mono (List.suffix_cons report view.log)
          cases tells with
          | success complete => exact begins.notice (.succeeded turn _) rfl rfl nofun
          | failure failed now =>
              refine begins.failure _ now ?_
              rw [log_eq]
              exact .returned _
  | conducted loads ordinary reaches =>
      exact balanced_leaves ((balanced_loads found_balanced loads).reaches reaches granted)

/-- Every flow concludes exactly once: in a run in which no access is refused, whatever handlers
answer and however turns and replays follow, the flows that have begun are those that are stored and
those that have ended, and what has ended has ended for one reason. -/
theorem flows_conclude_once (site : Site σ) (host : σ) (inputs : List Input)
    (granted : Granted (site.recorded.run (World.initial ⟨host, []⟩) inputs).host.log) :
    let final := site.recorded.run (World.initial ⟨host, []⟩) inputs
    final.erase = site.deployment.run (World.initial host) inputs ∧
      final.documents = replay [] final.host.log ∧ Ledger site.auth final.host.log := by
  intro final
  have balanced : Granted final.standing.log → final.standing.Balanced site.auth :=
    site.run_induction (fun _ _ _ _ balanced finds turned => balanced_turned balanced finds turned)
      (fun _ => balanced_initial host) inputs
  exact ⟨site.erase_run _ inputs, (balanced granted).recalls, ((balanced granted).books "").ledger⟩

/-- At the sample site one flow begins and one ends. -/
theorem sample_flow_concluded :
    Granted (sample.recorded.run (World.initial ⟨0, []⟩) sampleInputs).host.log ∧
      Ledger sample.auth (sample.recorded.run (World.initial ⟨0, []⟩) sampleInputs).host.log ∧
      begun (sample.recorded.run (World.initial ⟨0, []⟩) sampleInputs).host.log = 1 ∧
      ended (sample.recorded.run (World.initial ⟨0, []⟩) sampleInputs).host.log = 1 := by
  have unrefused : ((sample.recorded.run (World.initial ⟨0, []⟩) sampleInputs).host.log.any
      Event.isRefusal) = false := by
    decide +kernel
  have granted : Granted (sample.recorded.run (World.initial ⟨0, []⟩) sampleInputs).host.log :=
    fun event member => eq_false_of_ne_true (List.any_eq_false.mp unrefused event member)
  obtain ⟨-, -, ledger⟩ := flows_conclude_once sample 0 sampleInputs granted
  exact ⟨granted, ledger, by decide +kernel, by decide +kernel⟩

end Site
end SignInFlow
