import SignInFlow.Proofs.Coherence
import SignInFlow.Proofs.Preservation
import SignInFlow.Proofs.Withdrawal

/-!
# Two calls of one user

A turn works on the state of its user as it has loaded it.  A call whose turn has loaded the state
after another one has started a flow knows of that flow: it continues the flow, or fails.  A call
whose turn has loaded the state before does not know of it, starts over, and replaces it if the
handler leaves it pending.
-/

namespace SignInFlow

variable {σ : Type}

/-- A turn knows the state of its user as it is stored. -/
structure Snapshot (documents : Dictionary Json) (turn : Turn) (state : UserState) : Prop where
  keyed : turn.activity.userKey = .ok state.key
  stored : UserState.propertiesOf state.key (List.lookup state.key documents) =
    .ok state.properties
  clean : state.dirty = false

/-- What a call comes to whose turn sees no flow of its user. -/
inductive Oblivious (turn : Turn) (state : UserState) (view after : View) : Prop where
  /-- No handler is asked, and nothing is stored. -/
  | unasked (quiet : Quietly view.log after.log) (documents : after.documents = view.documents)
  /-- A handler leaves it pending, and the new flow may not be stored. -/
  | refused (asker : Asker) (request : Request) (response : Response) (access : Access)
      (forced : request.force = true) (pending : response.effective.status = .pending)
      (log : after.log = .refused turn access ::
        .answered asker turn request (.ok response) :: view.log)
      (documents : after.documents = view.documents)
  /-- A handler leaves it pending, and the new flow is stored. -/
  | replaced (asker : Asker) (request : Request) (response : Response)
      (forced : request.force = true) (pending : response.effective.status = .pending)
      (quiet : Quietly (.answered asker turn request (.ok response) :: view.log) after.log)
      (stored : Flow.stored after.documents state.key =
        .ok (.active request.handler (some (asker.banked turn request).settled)))
  /-- A handler has concluded at once.  Nothing is stored, unless something is banked in the state
  that no flow belongs to. -/
  | concluded (asker : Asker) (request : Request) (answer : Except Error Response)
      (forced : request.force = true)
      (final : ∀ response, answer = .ok response → response.effective.status ≠ .pending)
      (quiet : Quietly (.answered asker turn request answer :: view.log) after.log)
      (documents : after.documents = view.documents ∨ state.has Flow.bankedKey = true ∧
        Flow.stored after.documents state.key = .ok .idle)

/-- What passing the gate comes to in a turn that sees a flow of its user. -/
inductive Mindful (turn : Turn) (cancelled : Bool) (key handler : String) (banked : Option Banked)
    (view after : View) : Prop where
  /-- The turn was cancelled before, and nothing happens. -/
  | halted (late : cancelled = true) (same : after = view)
  /-- The handler of the flow is asked to continue it, and it stays or is cleared. -/
  | continued (answer : Except Error Response)
      (quiet : Quietly (.answered .gate turn
        ⟨handler, false, (Flow.active handler banked).exchange⟩ answer :: view.log) after.log)
      (stored : Flow.stored after.documents key = .ok (.active handler banked) ∨
        Flow.stored after.documents key = .ok .idle ∧
          ∃ response, answer = .ok response ∧ response.effective.status ≠ .pending)

/-! ## Calls that see no flow -/

/-- Where no flow is in progress, no handler is kept. -/
theorem Flow.has_handlerKey_of_idle {state : UserState} (idle : Flow.load state = .ok .idle) :
    state.has Flow.handlerKey = false := by
  unfold UserState.has Dictionary.has
  cases found : List.lookup Flow.handlerKey state.properties with
  | none => rfl
  | some value =>
      have read : state.read Json.text Flow.handlerKey = (Json.text value).orError.map some := by
        simp only [UserState.read, found]
      rw [Flow.load, read] at idle
      cases decoded : (Json.text value).orError with
      | error error =>
          rw [decoded] at idle
          cases idle
      | ok handler =>
          rw [decoded] at idle
          cases banked : state.read Banked.ofJson Flow.bankedKey <;>
            simp [bind, Except.bind, Except.map, pure, Except.pure, banked] at idle

/-- A state without a flow, and with nothing banked, changes no more when the flow is cleared. -/
theorem Flow.store_idle_of_idle {state : UserState} (idle : Flow.load state = .ok .idle)
    (unbanked : state.has Flow.bankedKey = false) : Flow.store .idle state = state := by
  simp [Flow.store, UserState.remove, Flow.has_handlerKey_of_idle idle, unbanked]

/-- Since a handler was asked, nothing has been stored, unless something is banked in the state that
no flow belongs to. -/
structure Spares (state : UserState) (documents : Dictionary Json) (asked : List Event)
    (view : View) : Prop where
  own : view.state.key = state.key
  quiet : Quietly asked view.log
  still : state.has Flow.bankedKey = false → view.state = state
  documents : view.documents = documents ∨ state.has Flow.bankedKey = true ∧
    Flow.stored view.documents state.key = .ok .idle

/-- Since a handler was asked, the flow that is stored has stayed or was cleared. -/
structure Retains (key : String) (flow : Flow) (asked : List Event) (view : View) : Prop where
  own : view.state.key = key
  quiet : Quietly asked view.log
  stored : Flow.stored view.documents key = .ok flow ∨ Flow.stored view.documents key = .ok .idle

section

variable {turn : Turn} {state : UserState} {view after : View}

theorem tolerant_spares (turn : Turn) (state : UserState) (documents : Dictionary Json)
    (asked : List Event) : Tolerant turn (Spares state documents asked) where
  elsewhere := fun _ _ _ held => ⟨held.own, held.quiet, held.still, held.documents⟩
  see := fun _ _ _ unasked _ held =>
    ⟨held.own, held.quiet.cons unasked, held.still, held.documents⟩

theorem tolerant_retains (turn : Turn) (key : String) (flow : Flow) (asked : List Event) :
    Tolerant turn (Retains key flow asked) where
  elsewhere := fun _ _ _ held => ⟨held.own, held.quiet, held.stored⟩
  see := fun _ _ _ unasked _ held => ⟨held.own, held.quiet.cons unasked, held.stored⟩

/-- Where a turn sees no flow, clearing it stores nothing. -/
theorem preserves_clear_spares (services : Services σ) (turn : Turn) (documents : Dictionary Json)
    (asked : List Event) (idle : Flow.load state = .ok .idle) (clean : state.dirty = false) :
    Preserves (Spares state documents asked)
      (TurnAction.persist (services.recorded turn) .idle) := by
  intro scope spares
  have held : Spares state documents asked (scope.view.hold .idle) := by
    refine ⟨?_, spares.quiet, fun unbanked => ?_, spares.documents⟩
    · rw [View.hold_state, Flow.store_key, spares.own]
    · rw [View.hold_state, spares.still unbanked]
      exact Flow.store_idle_of_idle idle unbanked
  refine (TurnAction.ends_persist services turn .idle).mono ?_ ?_
  · intro _ after kept
    rw [kept]
    cases dirty : (scope.view.hold .idle).state.dirty with
    | false => rwa [View.saved_of_clean _ turn dirty]
    | true =>
        have banked : state.has Flow.bankedKey = true := by
          by_contra unbanked
          rw [held.still (eq_false_of_ne_true unbanked), clean] at dirty
          cases dirty
        have written := View.stored_saved_of_dirty _ turn dirty
        rw [held.own, View.hold_state, Flow.load_store] at written
        refine ⟨by rw [View.saved_key, held.own], held.quiet.saved turn, fun unbanked => ?_,
          .inr ⟨banked, written⟩⟩
        rw [banked] at unbanked
        cases unbanked
  · rintro _ after ⟨access, -, -, refused⟩
    rw [refused]
    exact (tolerant_spares turn state documents asked).see _ _ rfl rfl (fun _ => rfl) held

/-- Clearing the flow leaves it as it was or clears it. -/
theorem preserves_clear_retains (services : Services σ) (turn : Turn) (key : String) (flow : Flow)
    (asked : List Event) :
    Preserves (Retains key flow asked) (TurnAction.persist (services.recorded turn) .idle) := by
  intro scope retains
  have held : Retains key flow asked (scope.view.hold .idle) := by
    refine ⟨?_, retains.quiet, retains.stored⟩
    rw [View.hold_state, Flow.store_key, retains.own]
  refine (TurnAction.ends_persist services turn .idle).mono ?_ ?_
  · intro _ after kept
    rw [kept]
    refine ⟨by rw [View.saved_key, held.own], held.quiet.saved turn, ?_⟩
    rcases View.stored_saved (scope.view.hold .idle) turn key with before | ⟨-, now⟩
    · rw [before]
      exact held.stored
    · rw [View.hold_state, Flow.load_store] at now
      exact .inr now
  · rintro _ after ⟨access, -, -, refused⟩
    rw [refused]
    exact (tolerant_retains turn key flow asked).see _ _ rfl rfl (fun _ => rfl) held

theorem Spares.concludes {asker : Asker} {request : Request} {answer : Except Error Response}
    (spares : Spares state view.documents (.answered asker turn request answer :: view.log) after)
    (forced : request.force = true)
    (final : ∀ response, answer = .ok response → response.effective.status ≠ .pending) :
    Oblivious turn state view after :=
  .concluded asker request answer forced final spares.quiet spares.documents

theorem Retains.concludes {key handler : String} {banked : Option Banked} {answer : Response}
    (retains : Retains key (.active handler banked) (.answered .gate turn
      ⟨handler, false, (Flow.active handler banked).exchange⟩ (.ok answer) :: view.log) after)
    (concluded : answer.effective.status ≠ .pending) (cancelled : Bool) :
    Mindful turn cancelled key handler banked view after :=
  .continued (.ok answer) retains.quiet
    (retains.stored.imp_right fun idle => ⟨idle, answer, rfl, concluded⟩)

end

namespace Authenticator

variable {auth : Authenticator σ} {turn : Turn} {scope heard : Scope (Recorded σ)}
  (services : Services σ)

/-- An answer that is not pending concludes. -/
theorem final_of_concluded (answer : Response) (concluded : answer.effective.status ≠ .pending) :
    ∀ response, (.ok answer : Except Error Response) = .ok response →
      response.effective.status ≠ .pending := by
  rintro _ ⟨⟩
  exact concluded

/-- What a handler answers spares what is stored, as long as nothing else happens. -/
theorem spares_answered {asker : Asker} {request : Request} {answer : Except Error Response}
    (seen : heard.view = scope.view.see (.answered asker turn request answer)) :
    Spares scope.state scope.world.documents
      (.answered asker turn request answer :: scope.view.log) heard.view := by
  rw [seen]
  exact ⟨rfl, .refl _, fun _ => rfl, .inl rfl⟩

/-- What a handler answers retains the flow that is stored, as long as nothing else happens. -/
theorem retains_answered {asker : Asker} {request : Request} {answer : Except Error Response}
    {flow : Flow} (stored : Flow.stored scope.world.documents scope.state.key = .ok flow)
    (seen : heard.view = scope.view.see (.answered asker turn request answer)) :
    Retains scope.state.key flow (.answered asker turn request answer :: scope.view.log)
      heard.view := by
  rw [seen]
  exact ⟨rfl, .refl _, .inl stored⟩

/-- A flow that begins is stored in place of what is stored, or that is refused. -/
theorem ends_begin {asker : Asker} {request : Request} {answer : Response} (metric : Metric)
    (seen : heard.view = scope.view.see (.answered asker turn request (.ok answer)))
    (forced : request.force = true) (pending : answer.effective.status = .pending) :
    Ends (do
        TurnAction.persist (services.recorded turn)
          (.active request.handler (some (asker.banked turn request)))
        TurnAction.count metric) heard
      (fun _ after => Oblivious turn scope.state scope.view after.view)
      (fun _ after => Oblivious turn scope.state scope.view after.view) := by
  simp only [ends_bind, TurnAction.ends_count]
  refine (TurnAction.ends_persist services turn _).mono ?_ ?_
  · intro _ after kept
    change Oblivious turn scope.state scope.view after.view
    have written := View.stored_saved_of_dirty
      (heard.view.hold (.active request.handler (some (asker.banked turn request)))) turn
      (Flow.store_active_dirty _ _ _)
    rw [← kept, View.hold_state, Flow.store_key, Flow.load_store, seen] at written
    refine .replaced asker request answer forced pending ?_ written
    rw [kept, seen]
    exact (Quietly.refl _).saved turn
  · rintro _ after ⟨access, -, -, refused⟩
    rw [seen] at refused
    refine .refused asker request answer access forced pending ?_ ?_ <;>
    · rw [refused]
      rfl

/-- The gate, in a turn that sees no flow. -/
theorem ends_startOrContinue_oblivious (requested : Option String)
    (idle : Flow.load scope.state = .ok .idle) (clean : scope.state.dirty = false) :
    Ends ((auth.recorded .gate).startOrContinue (services.recorded turn) turn requested) scope
      (fun passes after => Oblivious turn scope.state scope.view (after.view.goesOn passes turn))
      (fun _ after => Oblivious turn scope.state scope.view after.view) := by
  have same : Oblivious turn scope.state scope.view scope.view := .unasked (.refl _) rfl
  unfold startOrContinue
  simp only [ends_bind, TurnAction.ends_ensureNotCancelled, TurnAction.ends_flow, idle,
    Except.ok.injEq, reduceCtorEq, forall_eq', false_implies, implies_true, and_true]
  split
  · exact same
  refine (ends_passes auth turn .idle .gate).mono ?_ fun _ _ impossible => impossible.elim
  rintro passes asked ⟨unseen, -⟩
  cases passes with
  | true =>
      change Oblivious turn scope.state scope.view (asked.view.see (.admitted turn))
      rw [unseen]
      exact .unasked ((Quietly.refl _).cons rfl) rfl
  | false =>
      simp only [Bool.false_eq_true, if_false, ends_bind, ends_ofExcept]
      refine ⟨fun handler chosen => ?_, fun _ _ => unseen ▸ same⟩
      refine (ends_invoke auth turn .gate ⟨handler, true, none⟩).mono ?_ ?_
      · rintro _ heard ⟨answer, rfl, seen⟩
        rw [unseen] at seen
        have tolerant := tolerant_spares turn scope.state scope.world.documents
          (.answered .gate turn ⟨handler, true, none⟩ (.ok answer) :: scope.view.log)
        have clears := preserves_clear_spares services turn scope.world.documents
          (.answered .gate turn ⟨handler, true, none⟩ (.ok answer) :: scope.view.log) idle clean
        cases status : answer.effective.status with
        | pending =>
            have begins := ends_begin services (.started handler) seen rfl status
            simp only [suspend, Flow.isActive, Bool.false_eq_true, if_false, ends_bind,
              ends_pure] at begins ⊢
            exact begins
        | error =>
            have final := final_of_concluded answer (by simp [status])
            simp only [ends_bind, ends_pure]
            exact (tolerant.preserves_concludeFailure auth services clears .idle handler
              answer.effective heard (spares_answered seen)).mono
                (fun _ _ spares => spares.concludes rfl final)
                (fun _ _ spares => spares.concludes rfl final)
        | complete =>
            have final := final_of_concluded answer (by simp [status])
            refine (tolerant.preserves_concludeSuccess auth services clears .idle handler
              answer.effective heard (spares_answered seen)).mono ?_
                (fun _ _ spares => spares.concludes rfl final)
            intro passes after spares
            cases passes with
            | true => exact (tolerant.notice rfl rfl spares).concludes rfl final
            | false => exact spares.concludes rfl final
      · rintro error after ⟨-, seen⟩
        rw [unseen] at seen
        exact (spares_answered seen).concludes rfl fun _ answered => by cases answered

/-- An explicit sign-in, in a turn that sees no flow. -/
theorem ends_signIn_oblivious (handler : String) (exchange : Option Exchange)
    (idle : Flow.load scope.state = .ok .idle) :
    Ends ((auth.recorded .application).signIn (services.recorded turn) turn handler exchange) scope
      (fun _ after => Oblivious turn scope.state scope.view after.view)
      (fun _ after => Oblivious turn scope.state scope.view after.view) := by
  have same : Oblivious turn scope.state scope.view scope.view := .unasked (.refl _) rfl
  unfold signIn
  simp only [ends_bind, TurnAction.ends_ensureNotCancelled, TurnAction.ends_flow, idle,
    Except.ok.injEq, reduceCtorEq, forall_eq', false_implies, implies_true, and_true]
  split
  · exact same
  cases known : auth.dispatcher.contains handler with
  | false => simpa [recorded, Dispatcher.recorded, known] using same
  | true =>
      simp only [recorded, Dispatcher.recorded, known, Bool.not_true, Bool.false_eq_true,
        if_false, ends_bind, ends_get]
      cases cachedToken scope.world turn handler with
      | some token =>
          rw [ends_bind]
          apply TurnAction.ends_count_of_forall
          intro counted unseen
          refine (ends_reportSuccess auth turn _ .application).mono ?_ ?_ <;>
          · rintro _ after (untold | told)
            · rw [untold, unseen]
              exact same
            · rw [told, unseen]
              exact .unasked ((Quietly.refl _).cons rfl) rfl
      | none =>
          rw [ends_bind]
          refine (ends_invoke auth turn .application ⟨handler, true, exchange⟩).mono ?_ ?_
          · rintro _ heard ⟨answer, rfl, seen⟩
            have tolerant := tolerant_spares turn scope.state scope.world.documents
              (.answered .application turn ⟨handler, true, exchange⟩ (.ok answer) ::
                scope.view.log)
            cases status : answer.effective.status with
            | pending =>
                have begins := ends_begin services (.started handler) seen rfl status
                exact begins
            | error =>
                have final := final_of_concluded answer (by simp [status])
                exact (tolerant.preserves_refuse auth handler answer.effective heard
                  (spares_answered seen)).mono
                    (fun _ _ spares => spares.concludes rfl final)
                    (fun _ _ spares => spares.concludes rfl final)
            | complete =>
                have final := final_of_concluded answer (by simp [status])
                exact (tolerant.preserves_accept auth handler answer.effective heard
                  (spares_answered seen)).mono
                    (fun _ _ spares => spares.concludes rfl final)
                    (fun _ _ spares => spares.concludes rfl final)
          · rintro error after ⟨-, seen⟩
            exact (spares_answered seen).concludes rfl fun _ answered => by cases answered

/-! ## Calls that see a flow -/

/-- The gate, in a turn that sees a flow. -/
theorem ends_startOrContinue_mindful (requested : Option String) {handler : String}
    {banked : Option Banked} (active : Flow.load scope.state = .ok (.active handler banked))
    (stored : Flow.stored scope.world.documents scope.state.key = .ok (.active handler banked)) :
    Ends ((auth.recorded .gate).startOrContinue (services.recorded turn) turn requested) scope
      (fun passes after => Mindful turn scope.cancelled scope.state.key handler banked scope.view
        (after.view.goesOn passes turn))
      (fun _ after => Mindful turn scope.cancelled scope.state.key handler banked scope.view
        after.view) := by
  unfold startOrContinue
  simp only [ends_bind, TurnAction.ends_ensureNotCancelled, TurnAction.ends_flow, active,
    Except.ok.injEq, reduceCtorEq, forall_eq', false_implies, implies_true, and_true]
  split
  · rename_i late
    exact .halted late rfl
  simp only [passes, Flow.isActive, if_true, ends_pure, Bool.false_eq_true, if_false, handlerFor,
    ends_bind, ends_ofExcept, Except.ok.injEq, reduceCtorEq, forall_eq', false_implies,
    implies_true, and_true, Bool.not_true]
  let request : Request := ⟨handler, false, (Flow.active handler banked).exchange⟩
  refine (ends_invoke auth turn .gate request).mono ?_ ?_
  · rintro _ heard ⟨answer, rfl, seen⟩
    have retains := retains_answered stored seen
    have tolerant := tolerant_retains turn scope.state.key (.active handler banked)
      (.answered .gate turn request (.ok answer) :: scope.view.log)
    have clears := preserves_clear_retains services turn scope.state.key (.active handler banked)
      (.answered .gate turn request (.ok answer) :: scope.view.log)
    cases status : answer.effective.status with
    | pending =>
        simp only [suspend, Flow.isActive, if_true, ends_bind, ends_pure]
        exact .continued (.ok answer) retains.quiet (.inl (by rw [seen]; exact stored))
    | error =>
        have concluded : answer.effective.status ≠ .pending := by simp [status]
        simp only [ends_bind, ends_pure]
        exact (tolerant.preserves_concludeFailure auth services clears _ handler
          answer.effective heard retains).mono
            (fun _ _ kept => kept.concludes concluded scope.cancelled)
            (fun _ _ kept => kept.concludes concluded scope.cancelled)
    | complete =>
        have concluded : answer.effective.status ≠ .pending := by simp [status]
        refine (tolerant.preserves_concludeSuccess auth services clears _ handler
          answer.effective heard retains).mono ?_
            (fun _ _ kept => kept.concludes concluded scope.cancelled)
        intro passes after kept
        cases passes with
        | true => exact (tolerant.notice rfl rfl kept).concludes concluded scope.cancelled
        | false => exact kept.concludes concluded scope.cancelled
  · rintro error after ⟨-, seen⟩
    exact .continued (.error error) (retains_answered stored seen).quiet
      (.inl (by rw [seen]; exact stored))

end Authenticator

/-! ## Two calls, one after the other -/

/-- A call that may start a flow. -/
inductive Attempt where
  /-- Passing the gate. -/
  | gate (requested : Option String)
  /-- An explicit sign-in. -/
  | explicit (handler : String) (exchange : Option Exchange)

namespace Attempt

/-- The call of an attempt. -/
def call : Attempt → Call σ
  | gate requested => .gate requested
  | explicit handler exchange => .conduct (.signIn handler exchange .finish)

/-- What an attempt leaves before a recorded host. -/
def leaves (auth : Authenticator σ) (services : Services σ) (turn : Turn)
    (scope : Scope (Recorded σ)) (attempt : Attempt) : Scope (Recorded σ) :=
  remains (attempt.call.performRecorded auth services turn scope)

/-- An attempt in a turn that sees a flow never starts another one: the gate continues that flow,
and an explicit sign-in fails and changes nothing. -/
def Respects (auth : Authenticator σ) (services : Services σ) (turn : Turn) (handler : String)
    (banked : Option Banked) (scope : Scope (Recorded σ)) : Attempt → Prop
  | gate requested =>
      Mindful turn scope.cancelled scope.state.key handler banked scope.view
        ((gate requested).leaves auth services turn scope).view
  | explicit requested exchange =>
      (explicit requested exchange).call.performRecorded auth services turn scope =
        .error (if scope.cancelled then .cancelled else .alreadyActive handler requested) scope

variable (auth : Authenticator σ) (services : Services σ) {turn : Turn}
  {scope : Scope (Recorded σ)}

/-- Without the record, an attempt is the call that is not recorded. -/
theorem erase_leaves (attempt : Attempt) :
    (attempt.leaves auth services turn scope).erase =
      remains (attempt.call.perform auth services turn scope.erase) := by
  rw [leaves, Call.mirrors_perform auth services turn attempt.call scope]
  cases attempt.call.performRecorded auth services turn scope <;> rfl

theorem oblivious (attempt : Attempt) (turn : Turn) (scope : Scope (Recorded σ))
    (idle : Flow.load scope.state = .ok .idle) (clean : scope.state.dirty = false) :
    Oblivious turn scope.state scope.view (attempt.leaves auth services turn scope).view := by
  have ends : Ends (attempt.call.performRecorded auth services turn) scope
      (fun _ after => Oblivious turn scope.state scope.view after.view)
      (fun _ after => Oblivious turn scope.state scope.view after.view) := by
    cases attempt with
    | gate requested =>
        rw [call, Call.performRecorded, ends_bind]
        refine (Authenticator.ends_startOrContinue_oblivious services requested idle clean).mono ?_
          fun _ _ => id
        intro passes after
        cases passes <;> exact id
    | explicit handler exchange =>
        simp only [call, Call.performRecorded, Conduct.recorded, Conduct.perform, ends_bind,
          TurnAction.ends_attempt, ends_ofExcept]
        refine (Authenticator.ends_signIn_oblivious services handler exchange idle).mono ?_ ?_ <;>
        · intro _ after unaware
          exact ⟨fun _ _ => unaware, fun _ _ => unaware⟩
  exact ends.left

theorem respects (attempt : Attempt) {handler : String} {banked : Option Banked}
    (active : Flow.load scope.state = .ok (.active handler banked))
    (stored : Flow.stored scope.world.documents scope.state.key = .ok (.active handler banked)) :
    attempt.Respects auth services turn handler banked scope := by
  cases attempt with
  | gate requested =>
      let minds : View → Prop :=
        Mindful turn scope.cancelled scope.state.key handler banked scope.view
      have ends : Ends (Call.performRecorded auth services turn (.gate requested)) scope
          (fun _ after => minds after.view) (fun _ after => minds after.view) := by
        rw [Call.performRecorded, ends_bind]
        refine (Authenticator.ends_startOrContinue_mindful services requested active stored).mono ?_
          fun _ _ => id
        intro passes after
        cases passes <;> exact id
      exact ends.left
  | explicit requested exchange =>
      have fails : (auth.recorded .application).signIn (services.recorded turn) turn requested
          exchange scope =
            .error (if scope.cancelled then .cancelled else .alreadyActive handler requested)
              scope := by
        cases cancelled : scope.cancelled with
        | true => exact Authenticator.signIn_of_cancelled _ _ turn requested exchange cancelled
        | false =>
            exact Authenticator.signIn_of_active _ _ turn requested exchange cancelled active
      simp only [Respects, call, Call.performRecorded, Conduct.recorded, Conduct.perform,
        Bind.bind, EStateM.bind, TurnAction.attempt, fails]
      rfl

end Attempt

/-- A user has one flow at most if a turn loads the state of its user after another turn has started
a flow: the attempt of that turn continues the flow, or fails and changes nothing, and what the
first has banked is not overwritten.  The attempt of a turn that has loaded the state before knows
nothing of the flow.  It never continues the flow, and forces a new start if it asks a handler; what
is stored stays, unless the handler leaves it pending and the flow of the second turn is stored in
place of that of the first, or something was banked all along that no flow belonged to. -/
theorem overlapping_attempts (auth : Authenticator σ) (services : Services σ) (world : World σ)
    {first : Turn} {own : UserState} (cancelled : Bool) (earlier : Attempt) {handler : String}
    {banked : Option Banked} (snapshot : Snapshot world.documents first own)
    (idle : Flow.load own = .ok .idle)
    (started : Flow.stored (earlier.leaves auth services first
        ⟨world.blank, own, cancelled⟩).world.documents own.key = .ok (.active handler banked)) :
    (earlier.leaves auth services first ⟨world.blank, own, cancelled⟩).erase =
        remains (earlier.call.perform auth services first ⟨world, own, cancelled⟩) ∧
      (∃ asker request response,
        .answered asker first request (.ok response) ∈ (earlier.leaves auth services first
          ⟨world.blank, own, cancelled⟩).world.host.log ∧
        request.force = true ∧ response.effective.status = .pending ∧
        handler = request.handler ∧ banked = some (asker.banked first request).settled) ∧
      ∀ (second : Turn) (other : UserState) (late : Bool) (later : Attempt),
        other.key = own.key →
          let left : Scope (Recorded σ) := ⟨(earlier.leaves auth services first
            ⟨world.blank, own, cancelled⟩).world, other, late⟩
          (later.leaves auth services second left).erase =
              remains (later.call.perform auth services second left.erase) ∧
            (Snapshot left.world.documents second other →
              later.Respects auth services second handler banked left) ∧
            (Snapshot world.documents second other →
              Oblivious second other left.view (later.leaves auth services second left).view) := by
  have sees : Flow.load own = Flow.stored world.documents own.key :=
    Flow.load_eq_stored snapshot.stored
  let start : Scope (Recorded σ) := ⟨world.blank, own, cancelled⟩
  refine ⟨earlier.erase_leaves auth services, ?_, ?_⟩
  · have stayed {documents : Dictionary Json} (same : documents = world.documents)
        (active : Flow.stored documents own.key = .ok (.active handler banked)) : False := by
      rw [same, ← sees, idle] at active
      cases active
    cases earlier.oblivious auth services first start idle snapshot.clean with
    | unasked quiet documents => exact (stayed documents started).elim
    | refused asker request response access forced pending log documents =>
        exact (stayed documents started).elim
    | replaced asker request response forced pending quiet stored =>
        obtain ⟨rfl, rfl⟩ := Flow.active.inj (Except.ok.inj (started.symm.trans stored))
        obtain ⟨seen, log, -⟩ := quiet
        refine ⟨asker, request, response, ?_, forced, pending, rfl, rfl⟩
        have member : .answered asker first request (.ok response) ∈
            (earlier.leaves auth services first start).view.log := by
          rw [log]
          exact List.mem_append_right seen List.mem_cons_self
        exact member
    | concluded asker request answer forced final quiet documents =>
        rcases documents with documents | ⟨-, cleared⟩
        · exact (stayed documents started).elim
        · cases cleared.symm.trans started
  · intro second other late later same left
    refine ⟨later.erase_leaves auth services, fun fresh => ?_, fun stale => ?_⟩
    · have stored : Flow.stored left.world.documents other.key = .ok (.active handler banked) := by
        rw [same]
        exact started
      exact later.respects auth services ((Flow.load_eq_stored fresh.stored).trans stored) stored
    · have unseen : Flow.load other = .ok .idle := by
        rw [Flow.load_eq_stored stale.stored, same, ← sees, idle]
      exact later.oblivious auth services second left unseen stale.clean

/-- The state of a user of whom nothing is stored. -/
def deskState : UserState := ⟨"chat/users/ada", [], false⟩

/-- The user signs in in a room, with the one handler. -/
def deskRoom : Turn := ⟨.message "chat" "ada" "room" "sign in", false⟩

/-- The user signs in in a lobby at the same time, with the other handler. -/
def deskLobby : Turn := ⟨.message "chat" "ada" "lobby" "sign in", false⟩

/-- What the sign-in in the room leaves. -/
def deskLeft : Scope (Recorded Unit) :=
  (Attempt.explicit "code" none).leaves .desk .lenient deskRoom
    ⟨(World.initial ()).blank, deskState, false⟩

/-- What the sign-in in the lobby leaves after that, on what its turn knows of the user. -/
def deskCrossed (known : UserState) : Scope (Recorded Unit) :=
  (Attempt.explicit "card" none).leaves .desk .lenient deskLobby ⟨deskLeft.world, known, false⟩

theorem snapshot_desk (turn : Turn) (keyed : turn.activity.userKey = .ok "chat/users/ada") :
    Snapshot (World.initial () : World Unit).documents turn deskState :=
  ⟨keyed, rfl, rfl⟩

/-- What a pending sign-in banks. -/
def deskBanked (turn : Turn) (handler : String) : Option Banked :=
  some (.completion (.start handler none turn.activity))

/-- A sign-in in the lobby that begins while the other is pending fails and changes nothing. -/
theorem desk_sign_in_fails : ∃ known, Snapshot deskLeft.world.documents deskLobby known ∧
    (Attempt.explicit "card" none).call.performRecorded .desk .lenient deskLobby
        ⟨deskLeft.world, known, false⟩ =
      .error (.alreadyActive "code" "card") ⟨deskLeft.world, known, false⟩ := by
  have started : Flow.stored deskLeft.world.documents deskState.key =
      .ok (.active "code" (deskBanked deskRoom "code")) := rfl
  obtain ⟨-, -, after⟩ := overlapping_attempts .desk .lenient (World.initial ()) false
    (.explicit "code" none) (snapshot_desk deskRoom rfl) rfl started
  cases held : UserState.propertiesOf deskState.key
      (List.lookup deskState.key deskLeft.world.documents) with
  | error error =>
      rw [Flow.stored, held] at started
      cases started
  | ok properties =>
      have fresh : Snapshot deskLeft.world.documents deskLobby ⟨deskState.key, properties, false⟩ :=
        ⟨rfl, held, rfl⟩
      have fails := (after deskLobby ⟨deskState.key, properties, false⟩ false
        (.explicit "card" none) rfl).2.1 fresh
      exact ⟨_, fresh, fails⟩

/-- Where both turns have loaded the state before either signs in, the second starts another flow,
which replaces what the first has banked. -/
theorem desk_flow_replaced :
    Snapshot (World.initial () : World Unit).documents deskRoom deskState ∧
      Snapshot (World.initial () : World Unit).documents deskLobby deskState ∧
      Flow.stored deskLeft.world.documents deskState.key =
        .ok (.active "code" (deskBanked deskRoom "code")) ∧
      .answered .application deskLobby ⟨"card", true, none⟩ (.ok .pending) ∈
        (deskCrossed deskState).world.host.log ∧
      Flow.stored (deskCrossed deskState).world.documents deskState.key =
        .ok (.active "card" (deskBanked deskLobby "card")) := by
  refine ⟨snapshot_desk deskRoom rfl, snapshot_desk deskLobby rfl, rfl, ?_, rfl⟩
  exact List.mem_cons_of_mem _ List.mem_cons_self

end SignInFlow
