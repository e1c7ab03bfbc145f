import SignInFlow.Proofs.Sessions

/-!
# Durability

What is banked is not lost when something fails. A stored flow stays as it is until the turn that
clears it has handed its continuation on, or has another of the few reasons to let go of it; this is
kept at every step of the turn, whichever access, message or callback fails in between.
-/

namespace SignInFlow

variable {σ : Type}

/-- Why a turn may let go of what a flow has banked, by what the host has seen in it. -/
inductive Released (auth : Authenticator σ) (turn : Turn) (seen : List Event) (handler : String) :
    Banked → Prop where
  /-- The queue has accepted the continuation that an answer of the handler calls for. -/
  | handedOn {banked : Banked} (exchange : Option Exchange) (answer : Response)
      (activity : Activity)
      (continues : auth.continuation turn handler answer.effective banked = some activity)
      (accepted : [Event.accessed turn (.submit activity),
        .answered .gate turn ⟨handler, false, exchange⟩ (.ok answer)].Sublist seen) :
      Released auth turn seen handler banked
  /-- The handler has given a token in a turn of the very activity. -/
  | proceeded {trigger : Activity} (exchange : Option Exchange) (answer : Response)
      (complete : answer.effective.status = .complete) (own : (trigger == turn.activity) = true)
      (answered : Event.answered .gate turn ⟨handler, false, exchange⟩ (.ok answer) ∈ seen) :
      Released auth turn seen handler (.activity trigger)
  /-- The handler has failed an automatic flow. -/
  | gaveUp {trigger : Activity} (exchange : Option Exchange) (answer : Response)
      (failed : answer.effective.status = .error)
      (answered : Event.answered .gate turn ⟨handler, false, exchange⟩ (.ok answer) ∈ seen) :
      Released auth turn seen handler (.activity trigger)
  /-- The handler was made to forget the user. -/
  | withdrawn {banked : Banked} (way : Withdrawal)
      (withdrew : Event.withdrew turn way handler (.ok ()) ∈ seen) :
      Released auth turn seen handler banked

/-- Whatever clears or replaces a stored flow in a turn is an access to the user of the turn, and
what was banked has been released before. -/
def Accounted (auth : Authenticator σ) (turn : Turn) (start : Dictionary Json)
    (log : List Event) : Prop :=
  ∀ event older, event :: older <:+ log → ∀ key handler banked,
    Flow.stored (replay start older) key = .ok (.active handler (some banked)) →
      Flow.stored (replay start (event :: older)) key = .ok (.active handler (some banked)) ∨
        turn.activity.userKey = .ok key ∧ Released auth turn older handler banked

variable {auth : Authenticator σ} {turn : Turn} {start : Dictionary Json}

theorem Released.cons {seen : List Event} {handler : String} {banked : Banked}
    (released : Released auth turn seen handler banked) (event : Event) :
    Released auth turn (event :: seen) handler banked := by
  cases released with
  | handedOn exchange answer activity continues accepted =>
      exact .handedOn exchange answer activity continues (accepted.cons event)
  | proceeded exchange answer complete own answered =>
      exact .proceeded exchange answer complete own (List.mem_cons_of_mem event answered)
  | gaveUp exchange answer failed answered =>
      exact .gaveUp exchange answer failed (List.mem_cons_of_mem event answered)
  | withdrawn way withdrew => exact .withdrawn way (List.mem_cons_of_mem event withdrew)

theorem accounted_nil : Accounted auth turn start [] := by
  intro event older suffix
  cases List.suffix_nil.mp suffix

theorem Accounted.cons {log : List Event} (accounted : Accounted auth turn start log)
    {event : Event}
    (last : ∀ key handler banked,
      Flow.stored (replay start log) key = .ok (.active handler (some banked)) →
      Flow.stored (event.apply (replay start log)) key = .ok (.active handler (some banked)) ∨
        turn.activity.userKey = .ok key ∧ Released auth turn log handler banked) :
    Accounted auth turn start (event :: log) := by
  intro other older suffix
  rcases List.suffix_cons_iff.mp suffix with same | earlier
  · cases same
    exact last
  · exact accounted other older earlier

/-- A whole turn keeps a stored flow, or has released what it banked. -/
theorem Accounted.stored {log : List Event} (accounted : Accounted auth turn start log)
    {key handler : String} {banked : Banked}
    (active : Flow.stored start key = .ok (.active handler (some banked))) :
    Flow.stored (replay start log) key = .ok (.active handler (some banked)) ∨
      turn.activity.userKey = .ok key ∧ Released auth turn log handler banked := by
  induction log with
  | nil => exact .inl active
  | cons event older ih =>
      have earlier : Accounted auth turn start older := fun other before suffix =>
        accounted other before (suffix.trans (List.suffix_cons event older))
      rcases ih earlier with kept | ⟨keyed, released⟩
      · rcases accounted event older List.suffix_rfl key handler banked kept with
          kept | ⟨keyed, released⟩
        · exact .inl kept
        · exact .inr ⟨keyed, released.cons event⟩
      · exact .inr ⟨keyed, released.cons event⟩

/-! ## Within a turn -/

/-- What every step of a turn keeps: the record tells the documents and accounts for what it has
cleared, and the turn sees the flow that is stored unless what that banked is released. -/
structure Durable (auth : Authenticator σ) (turn : Turn) (start : Dictionary Json) (view : View) :
    Prop where
  keyed : turn.activity.userKey = .ok view.state.key
  recalls : view.Recalls start
  accounted : Accounted auth turn start view.log
  held : ∀ handler banked,
    Flow.stored view.documents view.state.key = .ok (.active handler (some banked)) →
      Flow.load view.state = .ok (.active handler (some banked)) ∨
        Released auth turn view.log handler banked

namespace Durable

variable {view : View}

/-- The host may see anything that leaves the documents as they are. -/
theorem see (durable : Durable auth turn start view) {event : Event}
    (silent : ∀ documents, event.apply documents = documents) :
    Durable auth turn start (view.see event) where
  keyed := durable.keyed
  recalls := durable.recalls.see (silent _)
  accounted := by
    apply durable.accounted.cons
    intro key handler banked active
    rw [silent]
    exact .inl active
  held := by
    intro handler banked active
    rcases durable.held handler banked active with same | released
    · exact .inl same
    · exact .inr (released.cons event)

/-- Tokens and queue have no part in it. -/
theorem of_elsewhere (durable : Durable auth turn start view) (tokens : TokenCache)
    (queue : ReplayQueue) :
    Durable auth turn start { view with tokens := tokens, queue := queue } :=
  ⟨durable.keyed, durable.recalls, durable.accounted, durable.held⟩

/-- The other properties of the user have no part in it. -/
theorem of_state (durable : Durable auth turn start view) {state : UserState}
    (key : state.key = view.state.key) (load : Flow.load state = Flow.load view.state) :
    Durable auth turn start { view with state := state } where
  keyed := by
    rw [durable.keyed, key]
  recalls := durable.recalls
  accounted := durable.accounted
  held := by
    intro handler banked active
    rw [load]
    apply durable.held handler banked
    rw [← key]
    exact active

theorem hear (durable : Durable auth turn start view) (asker : Asker) (request : Request)
    (answer : Except Error Response) :
    Durable auth turn start (view.hear asker turn request answer) := by
  obtain ⟨tokens, heard⟩ := View.hear_eq view turn asker request answer
  rw [heard]
  exact (durable.of_elsewhere tokens view.queue).see fun _ => rfl

theorem part (durable : Durable auth turn start view) (way : Withdrawal) (handler : String)
    (outcome : Except Error Unit) :
    Durable auth turn start (view.part turn way handler outcome) := by
  have parted : Durable auth turn start (view.see (.withdrew turn way handler outcome)) :=
    durable.see fun _ => rfl
  cases outcome with
  | error error => exact parted
  | ok _ => exact parted.of_elsewhere _ _

theorem enqueue (durable : Durable auth turn start view) (activity : Activity)
    (queue : ReplayQueue) :
    Durable auth turn start (view.enqueue turn activity queue) :=
  (durable.of_elsewhere view.tokens queue).see fun _ => rfl

/-- A turn may put another flow in place of one whose banked payload is released. -/
theorem hold (durable : Durable auth turn start view) (flow : Flow)
    (released : ∀ handler banked, Flow.load view.state = .ok (.active handler (some banked)) →
      Released auth turn view.log handler banked) : Durable auth turn start (view.hold flow) where
  keyed := by
    rw [durable.keyed, View.hold_state, Flow.store_key]
  recalls := durable.recalls
  accounted := durable.accounted
  held := by
    intro handler banked active
    rw [View.hold_state, Flow.store_key] at active
    rcases durable.held handler banked active with same | already
    · exact .inr (released handler banked same)
    · exact .inr already

/-- What is written back is the flow that is stored, or what that banked is released. -/
theorem saved (durable : Durable auth turn start view) :
    Durable auth turn start (view.saved turn) := by
  cases dirty : view.state.dirty with
  | false => rwa [View.saved_of_clean view turn dirty]
  | true =>
      have stored := View.stored_saved_of_dirty view turn dirty
      obtain ⟨access, -, written⟩ := View.saved_of_dirty view turn dirty
      have documents : (view.saved turn).documents =
          (Event.accessed turn access).apply (replay start view.log) := by
        rw [written, ← durable.recalls]
        rfl
      refine ⟨?_, durable.recalls.saved turn, ?_, ?_⟩
      · rw [durable.keyed, View.saved_key]
      · have log : (view.saved turn).log = .accessed turn access :: view.log := by rw [written]; rfl
        rw [log]
        apply durable.accounted.cons
        intro key handler banked active
        rw [← documents]
        rw [← durable.recalls] at active
        by_cases own : key = view.state.key
        · subst own
          rcases durable.held handler banked active with same | released
          · exact .inl (stored.trans same)
          · exact .inr ⟨durable.keyed, released⟩
        · exact .inl ((View.stored_saved_of_ne view turn own).trans active)
      · intro handler banked active
        rw [View.saved_key, stored] at active
        exact .inl ((View.load_saved view turn).trans active)

theorem persists {flow : Flow} {report : List Event} {after : View}
    (durable : Durable auth turn start view)
    (released : ∀ handler banked, Flow.load view.state = .ok (.active handler (some banked)) →
      Released auth turn view.log handler banked)
    (notices : Notices turn report) (persists : Persists turn flow report view after) :
    Durable auth turn start after := by
  have held : Durable auth turn start (view.hold flow) := durable.hold flow released
  exact persists.keeps held.saved (fun _ _ => held.see fun _ => rfl)
    fun event member _ before => before.see (Event.apply_of_notice (notices event member).2)

theorem step {after : View} (durable : Durable auth turn start view)
    (step : auth.Step turn view after) : Durable auth turn start after := by
  cases step with
  | heard asker request answer => exact durable.hear asker request answer
  | balked request answer activity => exact (durable.hear .gate request answer).see fun _ => rfl
  | refused access => exact durable.see fun _ => rfl
  | disappointed request response idle failed =>
      exact (durable.hear .application request (.ok response)).see fun _ => rfl
  | admitted => exact durable.see fun _ => rfl
  | told report => exact durable.see fun _ => rfl
  | began asker request response idle known forced pending persists =>
      refine (durable.hear asker request (.ok response)).persists ?_
          (notices_nil turn) persists
      intro handler banked active
      rw [View.hear_state, idle] at active
      cases active
  | handedOn handler banked exchange response activity queue active continues accepted persists =>
      have queued := (durable.hear .gate ⟨handler, false, exchange⟩ (.ok response)).enqueue
          activity queue
      refine queued.persists ?_ (notices_nil turn) persists
      intro other payload loaded
      rw [View.enqueue_state, View.hear_state, active] at loaded
      cases loaded
      refine .handedOn exchange response activity continues ?_
      rw [View.enqueue_log, View.hear_log]
      exact ((List.nil_sublist _).cons_cons _).cons_cons _
  | proceeded handler trigger exchange response active complete own persists =>
      refine (durable.hear .gate _ (.ok response)).persists ?_ (notices_admitted turn) persists
      intro other payload loaded
      rw [View.hear_state, active] at loaded
      cases loaded
      rw [View.hear_log]
      exact .proceeded exchange response complete own List.mem_cons_self
  | gaveUp handler trigger exchange response now active failed persists =>
      refine (durable.hear .gate _ (.ok response)).persists ?_
          (auth.notices_failureEvent turn _ now) persists
      intro other payload loaded
      rw [View.hear_state, active] at loaded
      cases loaded
      rw [View.hear_log]
      exact .gaveUp exchange response failed List.mem_cons_self
  | settled flow request response report loaded empty reports persists =>
      refine (durable.hear .gate request (.ok response)).persists ?_ reports.notices persists
      intro other payload active
      rw [View.hear_state, loaded] at active
      cases active
      cases empty
  | parted way handler outcome other => exact durable.part way handler outcome
  | withdrawn way handler banked active persists =>
      refine (durable.part way handler (.ok ())).persists ?_ (notices_nil turn) persists
      intro other payload loaded
      rw [View.part_state, active] at loaded
      cases loaded
      rw [View.part_log]
      exact .withdrawn way List.mem_cons_self
  | set name value foreign => exact durable.of_state rfl (Flow.load_set view.state value foreign)
  | remove name foreign =>
      exact durable.of_state (UserState.remove_key view.state) (Flow.load_remove view.state foreign)
  | saved => exact durable.saved

theorem comes {after : View} (durable : Durable auth turn start view)
    (comes : Call.Comes auth turn view after) : Durable auth turn start after := by
  rcases comes with reaches | completes
  · induction reaches with
    | refl => exact durable
    | tail _ step ih => exact ih.step step
  · cases completes with
    | nothing => exact durable
    | reported event response report redelivered decoded carried tells =>
        exact durable.see (Event.apply_of_notice tells.notice.2)

end Durable

/-! ## Turn after turn -/

/-- One turn on its own: it loads the state of its user, and then makes its calls, whether they
succeed or fail. -/
structure Errand (σ : Type) : Type 1 where
  /-- The turn. -/
  turn : Turn
  /-- Whether the turn is cancelled from the start. -/
  cancelled : Bool
  /-- The calls of the turn, in order. -/
  calls : List (Call σ)

namespace Errand

/-- Makes calls one after the other; what a failed one has changed stays changed. -/
def makeCalls (auth : Authenticator σ) (services : Services σ) (turn : Turn) (calls : List (Call σ))
    (scope : Scope σ) : Scope σ :=
  calls.foldl (fun scope call => remains (call.perform auth services turn scope)) scope

/-- Makes calls before a recorded host. -/
def makeCallsRecorded (auth : Authenticator σ) (services : Services σ) (turn : Turn)
    (calls : List (Call σ)) (scope : Scope (Recorded σ)) : Scope (Recorded σ) :=
  calls.foldl (fun scope call => remains (call.performRecorded auth services turn scope)) scope

/-- Carries out one turn. -/
def perform (auth : Authenticator σ) (services : Services σ) (errand : Errand σ) (world : World σ) :
    World σ :=
  match UserState.load services errand.turn.activity world with
  | .error _ after => after
  | .ok state loaded =>
      (makeCalls auth services errand.turn errand.calls ⟨loaded, state, errand.cancelled⟩).world

/-- Carries out one turn before a recorded host. -/
def performRecorded (auth : Authenticator σ) (services : Services σ) (errand : Errand σ)
    (world : World (Recorded σ)) : World (Recorded σ) :=
  match UserState.load (services.recorded errand.turn) errand.turn.activity world with
  | .error _ after => after
  | .ok state loaded =>
      (makeCallsRecorded auth services errand.turn errand.calls
        ⟨loaded, state, errand.cancelled⟩).world

theorem erase_makeCalls (auth : Authenticator σ) (services : Services σ) (turn : Turn)
    (calls : List (Call σ)) (scope : Scope (Recorded σ)) :
    (makeCallsRecorded auth services turn calls scope).erase =
      makeCalls auth services turn calls scope.erase := by
  induction calls generalizing scope with
  | nil => rfl
  | cons call rest ih =>
      simp only [makeCalls, makeCallsRecorded, List.foldl_cons] at ih ⊢
      rw [ih, Call.mirrors_perform auth services turn call scope]
      cases call.performRecorded auth services turn scope <;> rfl

/-- A turn, without the record, is the turn that is not recorded. -/
theorem erase_perform (auth : Authenticator σ) (services : Services σ) (errand : Errand σ)
    (world : World (Recorded σ)) :
    (errand.performRecorded auth services world).erase =
      errand.perform auth services world.erase := by
  unfold performRecorded perform
  rw [mirrors_load services errand.turn errand.turn.activity world]
  cases UserState.load (services.recorded errand.turn) errand.turn.activity world with
  | error error after => rfl
  | ok state loaded =>
      exact congrArg Scope.world (erase_makeCalls auth services errand.turn errand.calls
        ⟨loaded, state, errand.cancelled⟩)

/-- What a turn has come to after its calls, if it has loaded the state of its user. -/
def reached (auth : Authenticator σ) (services : Services σ) (errand : Errand σ)
    (world : World (Recorded σ)) : Option (Scope (Recorded σ)) :=
  match UserState.load (services.recorded errand.turn) errand.turn.activity world with
  | .error _ _ => none
  | .ok state loaded =>
      some (makeCallsRecorded auth services errand.turn errand.calls
        ⟨loaded, state, errand.cancelled⟩)

/-- A turn leaves what its calls have come to, or it could not load the state of its user. -/
theorem performRecorded_cases (auth : Authenticator σ) (services : Services σ) (errand : Errand σ)
    (world : World (Recorded σ)) :
    (∃ loaded : Scope (Recorded σ), loaded.view.Loads errand.turn world.standing ∧
      errand.reached auth services world =
        some (makeCallsRecorded auth services errand.turn errand.calls loaded) ∧
      errand.performRecorded auth services world =
        (makeCallsRecorded auth services errand.turn errand.calls loaded).world) ∨
      errand.reached auth services world = none ∧
        ((errand.performRecorded auth services world).standing = world.standing ∨
          (∃ access, (errand.performRecorded auth services world).standing =
            world.standing.see (.refused errand.turn access)) ∨
          ∃ key, (errand.performRecorded auth services world).standing =
            world.standing.see (.accessed errand.turn (.read [key]))) := by
  have ends : Ends (UserState.load (services.recorded errand.turn) errand.turn.activity) world
      _ _ := ends_load services errand.turn
  unfold reached performRecorded
  cases result : UserState.load (services.recorded errand.turn) errand.turn.activity world with
  | ok state loaded =>
      exact .inl ⟨⟨loaded, state, errand.cancelled⟩, ends.of_ok result, rfl, rfl⟩
  | error error after =>
      refine .inr ⟨rfl, ?_⟩
      rcases ends.of_error result with same | ⟨access, same⟩ | ⟨key, -, same⟩
      · exact .inl same
      · exact .inr (.inl ⟨access, same⟩)
      · exact .inr (.inr ⟨key, same⟩)

theorem durable_makeCalls {services : Services σ} (calls : List (Call σ))
    {scope : Scope (Recorded σ)} (durable : Durable auth turn start scope.view) :
    Durable auth turn start (makeCallsRecorded auth services turn calls scope).view := by
  induction calls generalizing scope with
  | nil => exact durable
  | cons call rest ih =>
      exact ih (durable.comes (call.comes_performRecorded auth services turn scope))

/-- What a turn leaves is what its record tells, and the record accounts for it. -/
theorem accounted_perform (auth : Authenticator σ) (services : Services σ) (errand : Errand σ)
    (world : World σ) :
    (errand.performRecorded auth services world.blank).documents =
        replay world.documents (errand.performRecorded auth services world.blank).host.log ∧
      Accounted auth errand.turn world.documents
        (errand.performRecorded auth services world.blank).host.log := by
  have one (event : Event) (silent : ∀ documents, event.apply documents = documents) :
      Accounted auth errand.turn world.documents [event] :=
    accounted_nil.cons fun _ _ _ active => .inl (by rw [silent]; exact active)
  rcases performRecorded_cases auth services errand world.blank with
    ⟨loaded, loads, -, performed⟩ | ⟨-, same | ⟨access, same⟩ | ⟨key, same⟩⟩
  · have documents : loaded.world.documents = world.documents :=
      congrArg Standing.documents loads.standing
    have log : loaded.world.host.log = [.accessed errand.turn (.read [loaded.state.key])] :=
      congrArg Standing.log loads.standing
    have begins : Durable auth errand.turn world.documents loaded.view := by
      refine ⟨loads.keyed, ?_, ?_, ?_⟩
      · change loaded.world.documents = replay world.documents loaded.world.host.log
        rw [log]
        exact documents
      · change Accounted auth errand.turn world.documents loaded.world.host.log
        rw [log]
        exact one _ fun _ => rfl
      · intro handler banked active
        left
        rw [← active]
        change Flow.load loaded.state = Flow.stored loaded.world.documents loaded.state.key
        rw [documents]
        exact Flow.load_eq_stored loads.stored
    have durable : Durable auth errand.turn world.documents
        (makeCallsRecorded auth services errand.turn errand.calls loaded).view :=
      durable_makeCalls errand.calls begins
    rw [performed]
    exact ⟨durable.recalls, durable.accounted⟩
  · have log : (errand.performRecorded auth services world.blank).host.log = [] :=
      congrArg Standing.log same
    rw [log]
    exact ⟨congrArg Standing.documents same, accounted_nil⟩
  · have log : (errand.performRecorded auth services world.blank).host.log =
        [.refused errand.turn access] := congrArg Standing.log same
    rw [log]
    exact ⟨congrArg Standing.documents same, one _ fun _ => rfl⟩
  · have log : (errand.performRecorded auth services world.blank).host.log =
        [.accessed errand.turn (.read [key])] := congrArg Standing.log same
    rw [log]
    exact ⟨congrArg Standing.documents same, one _ fun _ => rfl⟩

end Errand

/-- What happens next to a world in which no turns overlap. -/
inductive Occasion (σ : Type) : Type 1 where
  /-- A turn from its beginning to its end. -/
  | errand (errand : Errand σ)
  /-- All but the documents changes: the queue is drained or gone, tokens go, the host moves on. -/
  | elsewhere (tokens : TokenCache) (queue : ReplayQueue) (host : σ)

namespace World

/-- What becomes of a world next. -/
def advance (auth : Authenticator σ) (services : Services σ) (world : World σ) :
    Occasion σ → World σ
  | .errand errand => errand.perform auth services world
  | .elsewhere tokens queue host => { world with tokens := tokens, queue := queue, host := host }

/-- What becomes of a world in the end. -/
def run (auth : Authenticator σ) (services : Services σ) (world : World σ)
    (occasions : List (Occasion σ)) : World σ :=
  occasions.foldl (advance auth services) world

end World

/-- Whatever turns have gone before and wherever an access, a message or a callback fails: a turn
clears or replaces a stored flow only when what it banked has been released before in the same turn,
and otherwise the flow is stored at the end of the turn as it was at its beginning. -/
theorem banked_kept_or_released (auth : Authenticator σ) (services : Services σ) (world : World σ)
    (occasions : List (Occasion σ)) (errand : Errand σ) :
    let before := world.run auth services occasions
    let after := errand.performRecorded auth services before.blank
    after.erase = before.advance auth services (.errand errand) ∧
      after.documents = replay before.documents after.host.log ∧
      Accounted auth errand.turn before.documents after.host.log ∧
      ∀ key handler banked, Flow.stored before.documents key = .ok (.active handler (some banked)) →
        Flow.stored after.documents key = .ok (.active handler (some banked)) ∨
          errand.turn.activity.userKey = .ok key ∧
            Released auth errand.turn after.host.log handler banked := by
  intro before after
  obtain ⟨documents, accounted⟩ := Errand.accounted_perform auth services errand before
  refine ⟨Errand.erase_perform auth services errand before.blank, documents, accounted, ?_⟩
  intro key handler banked active
  rw [show after.documents = replay before.documents after.host.log from documents]
  exact accounted.stored active

/-- A turn of the sample site that signs in explicitly. -/
def sampleSignIn : Errand Nat where
  turn := ⟨.message "chat" "ada" "room" "sign in", false⟩
  cancelled := false
  calls := [.conduct (.signIn "code" none .finish)]

/-- A turn of the sample site that passes the gate. -/
def sampleGate : Errand Nat where
  turn := ⟨.message "chat" "ada" "room" "42", false⟩
  cancelled := false
  calls := [.gate none]

/-- The second turn of the sample site lets go of what the first one banked, and has released it. -/
theorem sample_banked_released : ∃ key handler banked,
    Flow.stored ((World.initial 0).run Site.sample.auth Site.sample.services
      [.errand sampleSignIn]).documents key = .ok (.active handler (some banked)) ∧
    Released Site.sample.auth sampleGate.turn (sampleGate.performRecorded Site.sample.auth
      Site.sample.services ((World.initial 0).run Site.sample.auth Site.sample.services
        [.errand sampleSignIn]).blank).host.log handler banked := by
  have banks : Flow.banks ((World.initial 0).run Site.sample.auth Site.sample.services
      [.errand sampleSignIn]).documents "chat/users/ada" = true := by
    decide +kernel
  have cleared : Flow.banks (sampleGate.performRecorded Site.sample.auth Site.sample.services
      ((World.initial 0).run Site.sample.auth Site.sample.services
        [.errand sampleSignIn]).blank).documents "chat/users/ada" = false := by
    decide +kernel
  obtain ⟨handler, banked, active⟩ := (Flow.banks_iff _ _).mp banks
  refine ⟨"chat/users/ada", handler, banked, active, ?_⟩
  obtain ⟨-, -, -, ends⟩ := banked_kept_or_released Site.sample.auth Site.sample.services
    (World.initial 0) [.errand sampleSignIn] sampleGate
  rcases ends "chat/users/ada" handler banked active with kept | ⟨-, released⟩
  · have still := (Flow.banks_iff _ _).mpr ⟨handler, banked, kept⟩
    rw [cleared] at still
    cases still
  · exact released

end SignInFlow
