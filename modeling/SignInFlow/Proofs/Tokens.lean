import Mathlib.Logic.Basic
import SignInFlow.Proofs.Sessions

/-!
# What the token cache tells

Any number of turns may use an authenticator at once, each on whatever it knows of the state of its
user.  At every moment the cache says what the record says: the token of a user and a handler is the
one of the latest answer that gave one, unless the handler has forgotten the user since.
-/

namespace SignInFlow

variable {σ : Type}

namespace Event

/-- The token that an event gives a user for a handler. -/
def grants (user handler : String) : Event → Option String
  | answered _ turn request (.ok answer) =>
      if turn.user = user ∧ request.handler = handler ∧ answer.status = .complete then answer.token
      else none
  | _ => none

/-- Whether a handler has forgotten a user. -/
def withdraws (user handler : String) : Event → Bool
  | withdrew turn _ other (.ok _) => turn.user == user && other == handler
  | _ => false

/-- Whether an event is neither an answer of a handler nor a withdrawal. -/
def isAside : Event → Bool
  | answered _ _ _ _ | withdrew _ _ _ _ => false
  | _ => true

theorem isAside_of_notice {event : Event} (notice : event.isNotice = true) :
    event.isAside = true := by
  cases event <;> first | rfl | cases notice

theorem grants_of_aside {event : Event} (aside : event.isAside = true) (user handler : String) :
    event.grants user handler = none := by
  cases event <;> first | rfl | cases aside

theorem withdraws_of_aside {event : Event} (aside : event.isAside = true) (user handler : String) :
    event.withdraws user handler = false := by
  cases event <;> first | rfl | cases aside

end Event

/-- A record leaves a user the token of the latest answer that gave one for the handler, if the
handler has not forgotten the user since. -/
def Leaves (log : List Event) (user handler token : String) : Prop :=
  ∃ later event earlier, log = later ++ event :: earlier ∧
    event.grants user handler = some token ∧
      ∀ other ∈ later, other.grants user handler = none ∧ other.withdraws user handler = false

section

variable {log : List Event} {event : Event} {user handler token : String}

theorem leaves_cons : Leaves (event :: log) user handler token ↔
    event.grants user handler = some token ∨
      (event.grants user handler = none ∧ event.withdraws user handler = false) ∧
        Leaves log user handler token := by
  constructor
  · rintro ⟨later, granting, earlier, order, grants, quiet⟩
    cases later with
    | nil =>
        cases order
        exact .inl grants
    | cons first later =>
        cases order
        exact .inr ⟨quiet event List.mem_cons_self, later, granting, earlier, rfl, grants,
          fun other member => quiet other (List.mem_cons_of_mem event member)⟩
  · rintro (grants | ⟨quiet, later, granting, earlier, rfl, grants, rest⟩)
    · exact ⟨[], event, log, rfl, grants, List.forall_mem_nil _⟩
    · exact ⟨event :: later, granting, earlier, rfl, grants, List.forall_mem_cons.mpr ⟨quiet, rest⟩⟩

theorem leaves_cons_of_grants {granted : String}
    (grants : event.grants user handler = some granted) :
    Leaves (event :: log) user handler token ↔ granted = token := by
  simp [leaves_cons, grants]

theorem leaves_cons_of_withdraws (grants : event.grants user handler = none)
    (withdraws : event.withdraws user handler = true) :
    ¬ Leaves (event :: log) user handler token := by
  simp [leaves_cons, grants, withdraws]

theorem leaves_cons_of_quiet (grants : event.grants user handler = none)
    (withdraws : event.withdraws user handler = false) :
    Leaves (event :: log) user handler token ↔ Leaves log user handler token := by
  simp [leaves_cons, grants, withdraws]

end

/-! ## Within a turn -/

/-- The cache says what the record says. -/
def View.Remembers (view : View) : Prop := ∀ user handler token,
  view.tokens.get? user handler = some token ↔ Leaves view.log user handler token

namespace View.Remembers

variable {view : View} {turn : Turn}

/-- What is neither an answer nor a withdrawal has no part in it. -/
theorem aside (remembers : view.Remembers) {after : View} (event : Event)
    (aside : event.isAside = true) (tokens : after.tokens = view.tokens)
    (log : after.log = event :: view.log) : after.Remembers := by
  intro user handler token
  rw [tokens, log, leaves_cons_of_quiet (Event.grants_of_aside aside user handler)
    (Event.withdraws_of_aside aside user handler)]
  exact remembers user handler token

theorem see (remembers : view.Remembers) {event : Event} (aside : event.isAside = true) :
    (view.see event).Remembers := remembers.aside event aside rfl rfl

theorem hold (remembers : view.Remembers) (flow : Flow) : (view.hold flow).Remembers := remembers

theorem saved (remembers : view.Remembers) (turn : Turn) : (view.saved turn).Remembers := by
  rcases View.saved_cases view turn with same | ⟨documents, access, written⟩
  · rwa [same]
  · rw [written]
    exact remembers.aside (.accessed turn access) rfl rfl rfl

/-- A completion with a token is kept in place of the token that was there. -/
theorem granted (remembers : view.Remembers) (asker : Asker) {request : Request}
    {response : Response} (complete : response.effective.status = .complete) :
    (view.hear asker turn request (.ok response)).Remembers := by
  obtain ⟨same, given, has⟩ := Response.effective_of_complete complete
  rw [same] at complete
  intro user handler token
  rw [view.tokens_hear_of_complete asker turn request complete has, View.hear_log]
  by_cases own : turn.user = user ∧ request.handler = handler
  · obtain ⟨rfl, rfl⟩ := own
    have grants : (Event.answered asker turn request (.ok response)).grants turn.user
        request.handler = some given := by
      simp [Event.grants, complete, has]
    rw [leaves_cons_of_grants grants, TokenCache.get?_insert_self, Option.some.injEq]
  · have apart : user ≠ turn.user ∨ handler ≠ request.handler :=
      (not_and_or.mp own).imp Ne.symm Ne.symm
    have quiet : (Event.answered asker turn request (.ok response)).grants user handler =
        none := by
      simp only [Event.grants, ← and_assoc, own, false_and, if_false]
    rw [leaves_cons_of_quiet quiet rfl, TokenCache.get?_insert_of_ne _ _ apart]
    exact remembers user handler token

/-- No other answer changes the cache. -/
theorem hear (remembers : view.Remembers) (asker : Asker) (request : Request)
    (answer : Except Error Response) : (view.hear asker turn request answer).Remembers := by
  cases answer with
  | error error =>
      intro user handler token
      rw [View.hear_log, leaves_cons_of_quiet rfl rfl]
      exact remembers user handler token
  | ok response =>
      by_cases complete : response.effective.status = .complete
      · exact remembers.granted asker complete
      · have tokens : (view.hear asker turn request (.ok response)).tokens = view.tokens := by
          simp [View.hear, complete, View.see]
        intro user handler token
        have quiet : (Event.answered asker turn request (.ok response)).grants user handler =
            none := by
          simp only [Event.grants]
          split
          · rename_i finished
            cases has : response.token with
            | none => rfl
            | some given =>
                rw [Response.effective_of_token has] at complete
                exact absurd finished.2.2 complete
          · rfl
        rw [tokens, View.hear_log, leaves_cons_of_quiet quiet rfl]
        exact remembers user handler token

theorem part (remembers : view.Remembers) (way : Withdrawal) (handler : String)
    (outcome : Except Error Unit) : (view.part turn way handler outcome).Remembers := by
  intro user other token
  rw [View.part_log]
  cases outcome with
  | error error =>
      rw [leaves_cons_of_quiet rfl rfl]
      exact remembers user other token
  | ok _ =>
      have tokens : (view.part turn way handler (.ok ())).tokens =
          view.tokens.remove turn.user handler := rfl
      rw [tokens]
      by_cases own : turn.user = user ∧ handler = other
      · obtain ⟨rfl, rfl⟩ := own
        have withdraws : (Event.withdrew turn way handler (.ok ())).withdraws turn.user handler =
            true := by
          simp [Event.withdraws]
        simp [leaves_cons_of_withdraws rfl withdraws]
      · have apart : user ≠ turn.user ∨ other ≠ handler :=
          (not_and_or.mp own).imp Ne.symm Ne.symm
        have quiet : (Event.withdrew turn way handler (.ok ())).withdraws user other = false := by
          simpa [Event.withdraws] using own
        rw [leaves_cons_of_quiet rfl quiet, TokenCache.get?_remove_of_ne _ apart]
        exact remembers user other token

theorem persists (remembers : view.Remembers) {flow : Flow} {report : List Event} {after : View}
    (notices : Notices turn report) (persists : Persists turn flow report view after) :
    after.Remembers := by
  have held : (view.hold flow).Remembers := remembers.hold flow
  exact persists.keeps (held.saved turn) (fun _ _ => held.see rfl)
    fun event member _ before => before.see (Event.isAside_of_notice (notices event member).2)

theorem step {auth : Authenticator σ} {after : View} (remembers : view.Remembers)
    (step : auth.Step turn view after) : after.Remembers := by
  cases step with
  | heard asker request answer => exact remembers.hear asker request answer
  | balked request answer activity => exact (remembers.hear .gate request answer).see rfl
  | refused access => exact remembers.see rfl
  | disappointed request response =>
      exact (remembers.hear .application request (.ok response)).see rfl
  | admitted => exact remembers.see rfl
  | told report => exact remembers.see rfl
  | began asker request response _ _ _ _ persists =>
      exact (remembers.hear asker request (.ok response)).persists (notices_nil turn) persists
  | handedOn handler banked exchange response activity queue _ _ _ persists =>
      have queued : ((view.hear .gate turn ⟨handler, false, exchange⟩ (.ok response)).enqueue turn
          activity queue).Remembers :=
        (remembers.hear .gate _ (.ok response)).aside _ rfl rfl rfl
      exact queued.persists (notices_nil turn) persists
  | proceeded handler trigger exchange response _ _ _ persists =>
      exact (remembers.hear .gate _ (.ok response)).persists (notices_admitted turn) persists
  | gaveUp handler trigger exchange response now _ _ persists =>
      exact (remembers.hear .gate _ (.ok response)).persists
        (auth.notices_failureEvent turn _ now) persists
  | settled flow request response report _ _ reports persists =>
      exact (remembers.hear .gate request (.ok response)).persists reports.notices persists
  | parted way handler outcome => exact remembers.part way handler outcome
  | withdrawn way handler banked _ persists =>
      exact (remembers.part way handler (.ok ())).persists (notices_nil turn) persists
  | set => exact remembers
  | remove => exact remembers
  | saved => exact remembers.saved turn

theorem comes {auth : Authenticator σ} {after : View} (remembers : view.Remembers)
    (comes : Call.Comes auth turn view after) : after.Remembers := by
  rcases comes with reaches | completes
  · induction reaches with
    | refl => exact remembers
    | tail _ step ih => exact ih.step step
  · cases completes with
    | nothing => exact remembers
    | reported event response report redelivered decoded carried tells =>
        exact remembers.see (Event.isAside_of_notice tells.notice.2)

end View.Remembers

/-! ## Explicit sign-in -/

namespace Authenticator

/-- What an explicit sign-in adds to the record: nothing if it is barred, no more than the report of
a token that is kept, and otherwise the answer of the handler first. -/
inductive Consults (auth : Authenticator σ) (turn : Turn) (handler : String)
    (scope : Scope (Recorded σ)) : List Event → Prop where
  | barred (why : scope.cancelled = true ∨ Flow.load scope.state ≠ .ok .idle ∨
      auth.dispatcher.contains handler = false) : Consults auth turn handler scope []
  | reported (token : String) (kept : cachedToken scope.world turn handler = some token)
      (seen : List Event)
      (report : ∀ event ∈ seen, event = .succeeded turn ⟨handler, token, turn.activity⟩) :
      Consults auth turn handler scope seen
  | asked (unknown : cachedToken scope.world turn handler = none) (exchange : Option Exchange)
      (answer : Except Error Response) (seen : List Event)
      (first : [.answered .application turn ⟨handler, true, exchange⟩ answer] <:+ seen) :
      Consults auth turn handler scope seen

variable {auth : Authenticator σ} {turn : Turn} {scope : Scope (Recorded σ)}

theorem grows_refuse (handler : String) (response : Response) :
    Grows ((auth.recorded .application).refuse turn handler response) :=
  grows_of_preserves fun base => (tolerant_suffix turn base).preserves_refuse auth handler response

theorem grows_accept (handler : String) (response : Response) :
    Grows ((auth.recorded .application).accept turn handler response) :=
  grows_of_preserves fun base => (tolerant_suffix turn base).preserves_accept auth handler response

/-- What follows from the answer of a handler only adds to the record. -/
theorem grows_outcome (services : Services σ) (handler : String) (exchange : Option Exchange)
    (response : Response) :
    Grows (match response.status with
      | .pending => bankCompletion (services.recorded turn) turn handler exchange
      | .error => (auth.recorded .application).refuse turn handler response
      | .complete => (auth.recorded .application).accept turn handler response) := by
  cases response.status with
  | pending => exact (grows_persist turn services _).bind fun _ => grows_count _
  | error => exact grows_refuse handler response
  | complete => exact grows_accept handler response

/-- What a sign-in has added to the record when it comes to this. -/
def Consulted (auth : Authenticator σ) (turn : Turn) (handler : String)
    (scope after : Scope (Recorded σ)) : Prop :=
  ∃ seen, after.view.log = seen ++ scope.view.log ∧ auth.Consults turn handler scope seen

theorem ends_signIn_kept {counted : Scope (Recorded σ)} {handler token : String}
    (kept : cachedToken scope.world turn handler = some token)
    (unseen : counted.view = scope.view) :
    Ends ((auth.recorded .application).reportSuccess turn ⟨handler, token, turn.activity⟩) counted
      (fun _ => auth.Consulted turn handler scope)
      (fun _ => auth.Consulted turn handler scope) := by
  refine (ends_reportSuccess auth turn _ .application).mono ?_ ?_ <;>
  · rintro _ after (untold | told)
    · rw [Consulted, untold, unseen]
      exact ⟨[], rfl, .reported token kept [] (List.forall_mem_nil _)⟩
    · rw [Consulted, told, unseen]
      exact ⟨_, rfl, .reported token kept [.succeeded turn ⟨handler, token, turn.activity⟩]
        fun event member => List.mem_singleton.mp member⟩

theorem ends_signIn_asked (services : Services σ) {handler : String}
    (exchange : Option Exchange) (unknown : cachedToken scope.world turn handler = none) :
    Ends ((auth.recorded .application).invoke turn ⟨handler, true, exchange⟩) scope
      (fun response heard => Ends (match response.status with
          | .pending => bankCompletion (services.recorded turn) turn handler exchange
          | .error => (auth.recorded .application).refuse turn handler response
          | .complete => (auth.recorded .application).accept turn handler response) heard
        (fun _ => auth.Consulted turn handler scope) (fun _ => auth.Consulted turn handler scope))
      (fun _ => auth.Consulted turn handler scope) := by
  have asked (answer : Except Error Response) (after : Scope (Recorded σ))
      (grown : .answered .application turn ⟨handler, true, exchange⟩ answer :: scope.view.log <:+
        after.view.log) : auth.Consulted turn handler scope after := by
    obtain ⟨later, log⟩ := grown
    exact ⟨later ++ [.answered .application turn ⟨handler, true, exchange⟩ answer],
      by simp [← log], .asked unknown exchange answer _ (List.suffix_append _ _)⟩
  refine (ends_invoke auth turn .application ⟨handler, true, exchange⟩).mono ?_ ?_
  · rintro _ heard ⟨answer, rfl, seen⟩
    have log : heard.view.log =
        .answered .application turn ⟨handler, true, exchange⟩ (.ok answer) :: scope.view.log :=
      congrArg View.log seen
    refine (grows_outcome services handler exchange answer.effective heard).mono ?_ ?_ <;>
    · intro _ after grown
      rw [log] at grown
      exact asked (.ok answer) after grown
  · rintro error heard ⟨-, seen⟩
    exact asked (.error error) heard ⟨[], (congrArg View.log seen).symm⟩

theorem ends_signIn_consults (services : Services σ) (handler : String)
    (exchange : Option Exchange) :
    Ends ((auth.recorded .application).signIn (services.recorded turn) turn handler exchange) scope
      (fun _ => auth.Consulted turn handler scope)
      (fun _ => auth.Consulted turn handler scope) := by
  have barred (why : scope.cancelled = true ∨ Flow.load scope.state ≠ .ok .idle ∨
      auth.dispatcher.contains handler = false) : auth.Consulted turn handler scope scope :=
    ⟨[], rfl, .barred why⟩
  unfold signIn
  simp only [ends_bind, TurnAction.ends_ensureNotCancelled, TurnAction.ends_flow]
  split
  · rename_i cancelled
    exact barred (.inl cancelled)
  refine ⟨fun flow loaded => ?_, fun error failed => barred (.inr (.inl ?_))⟩
  · cases flow with
    | active owner banked => exact barred (.inr (.inl (by simp [loaded])))
    | idle =>
        cases known : auth.dispatcher.contains handler with
        | false =>
            simp only [recorded, Dispatcher.recorded, known, Bool.not_false, if_true, ends_bind,
              ends_throw]
            exact barred (.inr (.inr known))
        | true =>
            simp only [recorded, Dispatcher.recorded, known, Bool.not_true, Bool.false_eq_true,
              if_false, ends_bind, ends_get]
            cases kept : cachedToken scope.world turn handler with
            | some token =>
                rw [ends_bind]
                apply TurnAction.ends_count_of_forall
                exact fun counted unseen => ends_signIn_kept kept unseen
            | none =>
                rw [ends_bind]
                exact ends_signIn_asked services exchange kept
  · rw [failed]
    rintro ⟨⟩

end Authenticator

/-! ## Call after call -/

/-- What happens next to an authenticator that is in use. -/
inductive Use (σ : Type) : Type 1 where
  /-- A turn makes a call, on what it knows of the state of its user. -/
  | call (turn : Turn) (state : UserState) (cancelled : Bool) (made : Call σ)
  /-- All but the tokens changes: documents are stored, the queue is drained, the host moves on. -/
  | elsewhere (documents : Dictionary Json) (queue : ReplayQueue) (host : σ)

namespace Use

/-- Carries out what happens next. -/
def perform (auth : Authenticator σ) (services : Services σ) (world : World σ) : Use σ → World σ
  | .call turn state cancelled made =>
      (remains (made.perform auth services turn ⟨world, state, cancelled⟩)).world
  | .elsewhere documents queue host =>
      { world with documents := documents, queue := queue, host := host }

/-- Carries out what happens next before a recorded host. -/
def performRecorded (auth : Authenticator σ) (services : Services σ) (world : World (Recorded σ)) :
    Use σ → World (Recorded σ)
  | .call turn state cancelled made =>
      (remains (made.performRecorded auth services turn ⟨world, state, cancelled⟩)).world
  | .elsewhere documents queue host =>
      { world with
        documents := documents
        queue := queue
        host := { world.host with host := host } }

variable (auth : Authenticator σ) (services : Services σ)

/-- Carries out all that happens. -/
def run (world : World σ) (uses : List (Use σ)) : World σ :=
  uses.foldl (perform auth services) world

/-- Carries out all that happens before a recorded host. -/
def runRecorded (world : World (Recorded σ)) (uses : List (Use σ)) : World (Recorded σ) :=
  uses.foldl (performRecorded auth services) world

theorem erase_performRecorded (world : World (Recorded σ)) (use : Use σ) :
    (use.performRecorded auth services world).erase = use.perform auth services world.erase := by
  cases use with
  | elsewhere documents queue host => rfl
  | call turn state cancelled made =>
      have same : made.perform auth services turn ⟨world.erase, state, cancelled⟩ =
          seenAs Scope.erase (made.performRecorded auth services turn ⟨world, state, cancelled⟩) :=
        Call.mirrors_perform auth services turn made ⟨world, state, cancelled⟩
      simp only [perform, performRecorded]
      rw [same]
      cases made.performRecorded auth services turn ⟨world, state, cancelled⟩ <;> rfl

/-- Without the record, a run is the run that is not recorded. -/
theorem erase_runRecorded (world : World (Recorded σ)) (uses : List (Use σ)) :
    (runRecorded auth services world uses).erase = run auth services world.erase uses := by
  induction uses generalizing world with
  | nil => rfl
  | cons use rest ih =>
      have first := erase_performRecorded auth services world use
      simp only [runRecorded, run, List.foldl_cons] at ih ⊢
      rw [ih, first]

variable {auth services}

/-- What concerns the tokens and the record alone, and what every call keeps, is kept by all that
happens. -/
theorem keeps_runRecorded {holds : View → Prop}
    (alone : ∀ view after : View, after.tokens = view.tokens → after.log = view.log →
      holds view → holds after)
    (calls : ∀ turn (made : Call σ) (scope : Scope (Recorded σ)), holds scope.view →
      holds (remains (made.performRecorded auth services turn scope)).view)
    {world : World (Recorded σ)} {state : UserState} (held : holds (world.view state))
    (uses : List (Use σ)) : holds ((runRecorded auth services world uses).view state) := by
  induction uses generalizing world with
  | nil => exact held
  | cons use rest ih =>
      apply ih
      cases use with
      | elsewhere documents queue host => exact alone (world.view state) _ rfl rfl held
      | call turn own cancelled made =>
          let start : Scope (Recorded σ) := ⟨world, own, cancelled⟩
          have kept := calls turn made start (alone (world.view state) _ rfl rfl held)
          exact alone (remains (made.performRecorded auth services turn start)).view _ rfl rfl kept

theorem remembers_runRecorded {world : World (Recorded σ)} {state : UserState}
    (remembers : (world.view state).Remembers) (uses : List (Use σ)) :
    ((runRecorded auth services world uses).view state).Remembers := by
  apply keeps_runRecorded _ _ remembers
  · intro view after tokens log remembers user handler token
    rw [tokens, log]
    exact remembers user handler token
  · exact fun turn made scope remembers =>
      remembers.comes (made.comes_performRecorded auth services turn scope)

/-- An empty cache says what an empty record says. -/
theorem remembers_initial (host : σ) (state : UserState) :
    ((World.initial (⟨host, []⟩ : Recorded σ)).view state).Remembers := by
  intro user handler token
  constructor
  · intro found
    cases found
  · rintro ⟨later, granting, earlier, order, -⟩
    cases later <;> cases order

/-- What an explicit sign-in adds to the record. -/
theorem consults_performRecorded (auth : Authenticator σ) (services : Services σ)
    (world : World (Recorded σ)) (turn : Turn) (state : UserState) (cancelled : Bool)
    (handler : String) (exchange : Option Exchange) :
    ∃ seen, (performRecorded auth services world
        (.call turn state cancelled (.conduct (.signIn handler exchange .finish)))).host.log =
          seen ++ world.host.log ∧ auth.Consults turn handler ⟨world, state, cancelled⟩ seen := by
  have ends : Ends (Call.performRecorded auth services turn
      (.conduct (.signIn handler exchange .finish))) ⟨world, state, cancelled⟩
      (fun _ => auth.Consulted turn handler ⟨world, state, cancelled⟩)
      (fun _ => auth.Consulted turn handler ⟨world, state, cancelled⟩) := by
    simp only [Call.performRecorded, Conduct.recorded, Conduct.perform, ends_bind,
      TurnAction.ends_attempt, ends_ofExcept]
    refine (Authenticator.ends_signIn_consults services handler exchange).mono ?_ ?_ <;>
      exact fun _ _ consults => ⟨fun _ _ => consults, fun _ _ => consults⟩
  exact ends.left

/-- The completion route changes no token. -/
theorem tokens_completion (world : World (Recorded σ)) (turn : Turn) (state : UserState)
    (cancelled : Bool) :
    (performRecorded auth services world (.call turn state cancelled .completion)).tokens =
      world.tokens := by
  let start : Scope (Recorded σ) := ⟨world, state, cancelled⟩
  have completes : auth.Completes turn start.view
      (remains ((auth.recorded .gate).handleCompletion (services.recorded turn) turn start)).view :=
    Ends.left (Authenticator.ends_handleCompletion auth services turn)
  have kept : ∀ view after : View, auth.Completes turn view after → after.tokens = view.tokens := by
    rintro view after (_ | _) <;> rfl
  exact kept _ _ completes

/-- An explicit sign-in that nothing bars asks no handler exactly if a token is kept. -/
theorem asks_iff_unknown {world : World (Recorded σ)} {turn : Turn} {state : UserState}
    {handler : String} {exchange : Option Exchange} (idle : Flow.load state = .ok .idle)
    (known : auth.dispatcher.contains handler = true) :
    ∃ seen, (performRecorded auth services world
        (.call turn state false (.conduct (.signIn handler exchange .finish)))).host.log =
          seen ++ world.host.log ∧
      ((∀ event ∈ seen, event.isAnswer = false) ↔
        (Authenticator.cachedToken world turn handler).isSome = true) := by
  obtain ⟨seen, log, consults⟩ :=
    consults_performRecorded auth services world turn state false handler exchange
  refine ⟨seen, log, ?_⟩
  cases consults with
  | barred why =>
      rcases why with cancelled | active | unknown
      · cases cancelled
      · exact absurd idle active
      · rw [known] at unknown
        cases unknown
  | reported token kept _ report =>
      have quiet : ∀ event ∈ seen, event.isAnswer = false := by
        intro event member
        rw [report event member]
        rfl
      have has : Authenticator.cachedToken world turn handler = some token := kept
      rw [has]
      exact iff_of_true quiet rfl
  | asked unknown other answer _ first =>
      have none : Authenticator.cachedToken world turn handler = none := unknown
      have answered : Event.answered .application turn ⟨handler, true, other⟩ answer ∈ seen :=
        first.subset List.mem_cons_self
      have loud : ¬ ∀ event ∈ seen, event.isAnswer = false :=
        fun quiet => absurd (quiet _ answered) (by simp [Event.isAnswer])
      rw [none]
      exact iff_of_false loud Bool.false_ne_true

/-- The world and the record that is left of an authenticator that starts with nothing. -/
def history (auth : Authenticator σ) (services : Services σ) (host : σ) (uses : List (Use σ)) :
    World (Recorded σ) := runRecorded auth services (World.initial ⟨host, []⟩) uses

/-- The token cache is exactly what the history says.  What is kept for a user and a handler is the
token of the latest answer that gave one, unless the handler has forgotten the user since; the
completion route changes none of it, and an explicit sign-in spares the handler exactly if there is
a token. -/
theorem cached_token_latest (auth : Authenticator σ) (services : Services σ) (host : σ)
    (uses : List (Use σ)) :
    (history auth services host uses).erase = run auth services (World.initial host) uses ∧
      (∀ turn handler token,
        Authenticator.cachedToken (history auth services host uses) turn handler = some token ↔
          Leaves (history auth services host uses).host.log turn.user handler token) ∧
      (∀ turn state cancelled, (performRecorded auth services (history auth services host uses)
        (.call turn state cancelled .completion)).tokens =
          (history auth services host uses).tokens) ∧
      ∀ turn state handler exchange, Flow.load state = .ok .idle →
        auth.dispatcher.contains handler = true →
          ∃ seen, (performRecorded auth services (history auth services host uses)
              (.call turn state false (.conduct (.signIn handler exchange .finish)))).host.log =
                seen ++ (history auth services host uses).host.log ∧
            ((∀ event ∈ seen, event.isAnswer = false) ↔
              (Authenticator.cachedToken (history auth services host uses) turn handler).isSome =
                true) := by
  refine ⟨erase_runRecorded auth services _ uses, fun turn handler token => ?_,
    fun turn state cancelled => tokens_completion _ turn state cancelled,
    fun turn state handler exchange idle known => asks_iff_unknown idle known⟩
  have remembers : ((history auth services host uses).view ⟨"", [], false⟩).Remembers :=
    remembers_runRecorded (remembers_initial host _) uses
  exact remembers turn.user handler token

/-- A user of the sample site signs in explicitly, in a turn that found nothing stored. -/
def sampleTurn : Turn := ⟨.message "chat" "ada" "room" "sign in", false⟩

/-- The sign-in of that turn. -/
def sampleSignIn : Use Nat :=
  .call sampleTurn ⟨"chat/users/ada", [], false⟩ false (.conduct (.signIn "code" none .finish))

/-- Where the sample site gives a token at once, it is kept, and the next sign-in asks nobody. -/
theorem sample_token_latest :
    Leaves (history Site.sample.auth Site.sample.services 1 [sampleSignIn]).host.log
        "ada" "code" "token" ∧
      ∃ seen, (performRecorded Site.sample.auth Site.sample.services
          (history Site.sample.auth Site.sample.services 1 [sampleSignIn]) sampleSignIn).host.log =
            seen ++ (history Site.sample.auth Site.sample.services 1 [sampleSignIn]).host.log ∧
        ∀ event ∈ seen, event.isAnswer = false := by
  have kept : Authenticator.cachedToken
      (history Site.sample.auth Site.sample.services 1 [sampleSignIn]) sampleTurn "code" =
        some "token" := by
    decide +kernel
  obtain ⟨-, tells, -, spares⟩ :=
    cached_token_latest Site.sample.auth Site.sample.services 1 [sampleSignIn]
  refine ⟨(tells sampleTurn "code" "token").mp kept, ?_⟩
  obtain ⟨seen, log, asks⟩ :=
    spares sampleTurn ⟨"chat/users/ada", [], false⟩ "code" none rfl (by decide +kernel)
  exact ⟨seen, log, asks.mpr (by rw [kept]; rfl)⟩

/-! ## Identities -/

/-- A handler has signed the user of a turn in and given a token. -/
def Obtained (log : List Event) (source : Turn) (handler token : String) : Prop :=
  ∃ asker request answer, .answered asker source request (.ok answer) ∈ log ∧
    request.handler = handler ∧ answer.status = .complete ∧ answer.token = some token

/-- What the cache tells was obtained by somebody with the id of the user. -/
theorem obtained_of_leaves {log : List Event} {user handler token : String}
    (leaves : Leaves log user handler token) :
    ∃ source, Obtained log source handler token ∧ source.user = user := by
  obtain ⟨later, event, earlier, rfl, grants, -⟩ := leaves
  have member : event ∈ later ++ event :: earlier :=
    List.mem_append_right later List.mem_cons_self
  cases event with
  | answered asker source request answer =>
      cases answer with
      | error error => cases grants
      | ok response =>
          simp only [Event.grants] at grants
          split at grants
          · rename_i own
            obtain ⟨same, names, complete⟩ := own
            exact ⟨source, ⟨asker, request, response, member, names, complete, grants⟩, same⟩
          · cases grants
  | _ => cases grants

/-- The two ways in which a turn gets a token without asking a handler: it looks it up, or an
explicit sign-in is answered from the cache and reports it. -/
inductive Yields (auth : Authenticator σ) (services : Services σ) (world : World (Recorded σ))
    (turn : Turn) (handler token : String) : Prop where
  | lookedUp (kept : Authenticator.cachedToken world turn handler = some token)
  | told (state : UserState) (cancelled : Bool) (exchange : Option Exchange) (seen : List Event)
      (log : (performRecorded auth services world
        (.call turn state cancelled (.conduct (.signIn handler exchange .finish)))).host.log =
          seen ++ world.host.log)
      (spared : ∀ event ∈ seen, event.isAnswer = false)
      (told : .succeeded turn ⟨handler, token, turn.activity⟩ ∈ seen)

theorem Yields.kept {world : World (Recorded σ)} {turn : Turn} {handler token : String}
    (yields : Yields auth services world turn handler token) :
    Authenticator.cachedToken world turn handler = some token := by
  cases yields with
  | lookedUp kept => exact kept
  | told state cancelled exchange seen log spared told =>
      obtain ⟨own, added, consults⟩ :=
        consults_performRecorded auth services world turn state cancelled handler exchange
      obtain rfl : seen = own := List.append_cancel_right (log.symm.trans added)
      cases consults with
      | barred why => cases told
      | reported given kept _ report =>
          cases report _ told
          exact kept
      | asked unknown other answer _ first =>
          cases spared _ (first.subset List.mem_cons_self)

/-- Tokens do not cross identities as long as an id of a sender is in use on one channel only: a
token that a turn gets without asking a handler was given earlier to the same sender on the same
channel.  The cache itself knows senders by their ids alone. -/
theorem token_of_own_identity (auth : Authenticator σ) (services : Services σ) (host : σ)
    (uses : List (Use σ)) (turn : Turn) (handler token : String)
    (yields : Yields auth services (history auth services host uses) turn handler token)
    (alone : ∀ source given,
      Obtained (history auth services host uses).host.log source handler given →
        source.user = turn.user → source.activity.channel = turn.activity.channel) :
    ∃ source, Obtained (history auth services host uses).host.log source handler token ∧
      source.user = turn.user ∧ source.activity.channel = turn.activity.channel := by
  have remembers : ((history auth services host uses).view ⟨"", [], false⟩).Remembers :=
    remembers_runRecorded (remembers_initial host _) uses
  obtain ⟨source, obtained, same⟩ :=
    obtained_of_leaves ((remembers turn.user handler token).mp yields.kept)
  exact ⟨source, obtained, same, alone source token obtained same⟩

/-- All that the sample sign-in leaves in the record happened on one channel. -/
theorem channel_of_sample {source : Turn} {handler token : String}
    (obtained : Obtained (history Site.sample.auth Site.sample.services 1
      [sampleSignIn]).host.log source handler token) : source.activity.channel = "chat" := by
  have all : ((history Site.sample.auth Site.sample.services 1 [sampleSignIn]).host.log.all
      fun event => event.turn.activity.channel == "chat") = true := by
    decide +kernel
  obtain ⟨asker, request, answer, answered, -⟩ := obtained
  exact beq_iff_eq.mp (List.all_eq_true.mp all _ answered)

/-- The user of the sample sign-in gets back the token that was given on the same channel. -/
theorem sample_token_own : ∃ source,
    Obtained (history Site.sample.auth Site.sample.services 1 [sampleSignIn]).host.log source
      "code" "token" ∧
      source.user = sampleTurn.user ∧ source.activity.channel = sampleTurn.activity.channel :=
  token_of_own_identity Site.sample.auth Site.sample.services 1 [sampleSignIn] sampleTurn "code"
    "token" (.lookedUp (by decide +kernel)) fun _ _ obtained _ => channel_of_sample obtained

/-- Somebody with the same id on another channel. -/
def sampleStranger : Turn := ⟨.message "mail" "ada" "inbox" "hello", false⟩

/-- That stranger gets the token too, although nobody was ever signed in on the other channel. -/
theorem sample_token_crosses :
    Yields Site.sample.auth Site.sample.services
        (history Site.sample.auth Site.sample.services 1 [sampleSignIn]) sampleStranger
        "code" "token" ∧
      ¬ ∃ source, Obtained (history Site.sample.auth Site.sample.services 1
          [sampleSignIn]).host.log source "code" "token" ∧
        source.user = sampleStranger.user ∧
          source.activity.channel = sampleStranger.activity.channel := by
  refine ⟨.lookedUp (by decide +kernel), ?_⟩
  rintro ⟨source, obtained, -, same⟩
  rw [channel_of_sample obtained] at same
  revert same
  decide +kernel

end Use
end SignInFlow
