import Mathlib.Logic.Relation
import SignInFlow.Proofs.Conduct

/-!
# What a turn can do

Whatever is asked of an authenticator within a turn, it changes what lasts in one of a few ways.
`Step` lists them once, each with everything that it changes and with the answer of the handler it
follows from; what operations keep is proved of its steps.
-/

namespace SignInFlow

variable {σ : Type}

/-- The response as an authenticator takes it: a completion without a token is a failure. -/
def Response.effective (response : Response) : Response :=
  if response.status = .complete ∧ response.token = none then
    .failed .other "handler completed without a token"
  else response

/-- What an authenticator takes for a completion is one, and has a token. -/
theorem Response.effective_of_complete {response : Response}
    (complete : response.effective.status = .complete) :
    response.effective = response ∧ ∃ token, response.token = some token := by
  unfold effective at complete ⊢
  split at complete
  · cases complete
  · rename_i tokenful
    rw [if_neg tokenful]
    exact ⟨rfl, Option.ne_none_iff_exists'.mp fun none => tokenful ⟨complete, none⟩⟩

theorem Response.effective_of_token {response : Response} {token : String}
    (has : response.token = some token) : response.effective = response := by
  simp [effective, has]

/-- Whether an event begins a flow: a request for a new one is left pending. -/
def Event.begins : Event → Bool
  | answered _ _ request (.ok answer) =>
      request.force && decide (answer.effective.status = .pending)
  | _ => false

/-- Whether an access is one to storage. -/
def Access.isStorage : Access → Bool
  | .read _ | .write _ | .delete _ => true
  | .submit _ => false

/-- What the flow that a turn sees makes of a request: the gate alone continues it, with its handler
and its exchange parameters, and without a flow every request starts over. -/
def Asker.Asks (asker : Asker) (flow : Flow) (request : Request) : Prop :=
  match flow with
  | .idle => request.force = true
  | .active handler banked =>
      asker = .gate ∧ request = ⟨handler, false, (Flow.active handler banked).exchange⟩

/-- What lasts beyond a call, with the user's state that the turn works on and the record. -/
structure View where
  /-- The stored documents. -/
  documents : Dictionary Json
  /-- The tokens that are kept. -/
  tokens : TokenCache
  /-- The replay queue. -/
  queue : ReplayQueue
  /-- The user's state as the turn sees it. -/
  state : UserState
  /-- What the host has seen, the latest first. -/
  log : List Event

/-- What a turn with a user's state sees of a world. -/
def World.view (world : World (Recorded σ)) (state : UserState) : View where
  documents := world.documents
  tokens := world.tokens
  queue := world.queue
  state := state
  log := world.host.log

/-- What a turn sees. -/
def Scope.view (scope : Scope (Recorded σ)) : View := scope.world.view scope.state

namespace View

/-- The host notices something. -/
def see (event : Event) (view : View) : View := { view with log := event :: view.log }

/-- A handler answers a request; the token of a completion is kept. -/
def hear (view : View) (asker : Asker) (turn : Turn) (request : Request)
    (answer : Except Error Response) : View :=
  let heard := view.see (.answered asker turn request answer)
  match answer with
  | .ok response =>
      if response.effective.status = .complete then
        { heard with tokens :=
            heard.tokens.insert turn.user request.handler (response.effective.token.getD "") }
      else heard
  | .error _ => heard

/-- A handler was asked to forget the user; the user's token is forgotten if it has. -/
def part (view : View) (turn : Turn) (way : Withdrawal) (handler : String)
    (outcome : Except Error Unit) : View :=
  let parted := view.see (.withdrew turn way handler outcome)
  match outcome with
  | .ok _ => { parted with tokens := parted.tokens.remove turn.user handler }
  | .error _ => parted

/-- The turn holds a flow in the user's state. -/
def hold (flow : Flow) (view : View) : View := { view with state := flow.store view.state }

/-- The user's state is written back. -/
def saved (turn : Turn) (view : View) : View :=
  if view.state.dirty then
    let key := view.state.key
    let document : Json := .obj view.state.properties
    let clean := { view with state := { view.state with dirty := false } }
    if view.state.properties.isEmpty then
      { clean with documents := view.documents.drop key }.see (.accessed turn (.delete [key]))
    else
      { clean with documents := view.documents.put key document }.see
        (.accessed turn (.write [(key, document)]))
  else view

/-- The queue accepts an activity. -/
def enqueue (turn : Turn) (activity : Activity) (queue : ReplayQueue) (view : View) : View :=
  { view with queue := queue }.see (.accessed turn (.submit activity))

/-- The turn goes on to the application if it passes. -/
def goesOn (passes : Bool) (turn : Turn) (view : View) : View :=
  if passes then view.see (.admitted turn) else view

variable (view : View) (turn : Turn)

@[simp] theorem see_state (event : Event) : (view.see event).state = view.state := rfl

@[simp] theorem see_documents (event : Event) : (view.see event).documents = view.documents := rfl

@[simp] theorem see_queue (event : Event) : (view.see event).queue = view.queue := rfl

@[simp] theorem see_log (event : Event) : (view.see event).log = event :: view.log := rfl

@[simp] theorem foldr_see_state (events : List Event) :
    (events.foldr see view).state = view.state := by
  induction events with
  | nil => rfl
  | cons event rest ih => exact ih

@[simp] theorem foldr_see_documents (events : List Event) :
    (events.foldr see view).documents = view.documents := by
  induction events with
  | nil => rfl
  | cons event rest ih => exact ih

section

variable (asker : Asker) (request : Request) (answer : Except Error Response)

/-- An answer that is heard changes the token cache and the record alone. -/
theorem hear_eq : ∃ tokens, view.hear asker turn request answer =
    { view with tokens := tokens }.see (.answered asker turn request answer) := by
  unfold hear
  cases answer with
  | error error => exact ⟨_, rfl⟩
  | ok response =>
      by_cases complete : response.effective.status = .complete
      · exact ⟨_, by simp only [complete, if_true]; rfl⟩
      · exact ⟨_, by simp only [complete, if_false]; rfl⟩

@[simp] theorem hear_state : (view.hear asker turn request answer).state = view.state := by
  obtain ⟨tokens, heard⟩ := hear_eq view turn asker request answer
  rw [heard]
  rfl

@[simp] theorem hear_documents :
    (view.hear asker turn request answer).documents = view.documents := by
  obtain ⟨tokens, heard⟩ := hear_eq view turn asker request answer
  rw [heard]
  rfl

@[simp] theorem hear_queue : (view.hear asker turn request answer).queue = view.queue := by
  obtain ⟨tokens, heard⟩ := hear_eq view turn asker request answer
  rw [heard]
  rfl

@[simp] theorem hear_log :
    (view.hear asker turn request answer).log =
      .answered asker turn request answer :: view.log := by
  obtain ⟨tokens, heard⟩ := hear_eq view turn asker request answer
  rw [heard]
  rfl

end

section

variable (way : Withdrawal) (handler : String) (outcome : Except Error Unit)

@[simp] theorem part_state : (view.part turn way handler outcome).state = view.state := by
  cases outcome <;> rfl

@[simp] theorem part_documents :
    (view.part turn way handler outcome).documents = view.documents := by
  cases outcome <;> rfl

@[simp] theorem part_queue : (view.part turn way handler outcome).queue = view.queue := by
  cases outcome <;> rfl

@[simp] theorem part_log :
    (view.part turn way handler outcome).log = .withdrew turn way handler outcome :: view.log := by
  cases outcome <;> rfl

end

section

variable (flow : Flow)

@[simp] theorem hold_state : (view.hold flow).state = flow.store view.state := rfl

@[simp] theorem hold_documents : (view.hold flow).documents = view.documents := rfl

@[simp] theorem hold_tokens : (view.hold flow).tokens = view.tokens := rfl

@[simp] theorem hold_queue : (view.hold flow).queue = view.queue := rfl

@[simp] theorem hold_log : (view.hold flow).log = view.log := rfl

variable (activity : Activity) (queue : ReplayQueue)

@[simp] theorem enqueue_state : (view.enqueue turn activity queue).state = view.state := rfl

@[simp] theorem enqueue_documents :
    (view.enqueue turn activity queue).documents = view.documents := rfl

@[simp] theorem enqueue_queue : (view.enqueue turn activity queue).queue = queue := rfl

@[simp] theorem enqueue_log :
    (view.enqueue turn activity queue).log = .accessed turn (.submit activity) :: view.log := rfl

end

@[simp] theorem saved_key : (view.saved turn).state.key = view.state.key := by
  unfold saved
  split
  · split <;> rfl
  · rfl

@[simp] theorem saved_properties :
    (view.saved turn).state.properties = view.state.properties := by
  unfold saved
  split
  · split <;> rfl
  · rfl

@[simp] theorem saved_tokens : (view.saved turn).tokens = view.tokens := by
  unfold saved
  split
  · split <;> rfl
  · rfl

@[simp] theorem saved_queue : (view.saved turn).queue = view.queue := by
  unfold saved
  split
  · split <;> rfl
  · rfl

/-- Writing back does not change the flow that the turn sees. -/
@[simp] theorem load_saved : Flow.load (view.saved turn).state = Flow.load view.state :=
  Flow.load_congr (by rw [saved_properties]) (by rw [saved_properties])

/-- Writing back is seen as one access at most. -/
theorem saved_cases : view.saved turn = view ∨ ∃ documents access, view.saved turn =
    { view with documents := documents, state := { view.state with dirty := false } }.see
      (.accessed turn access) := by
  unfold saved
  split
  · split
    · exact .inr ⟨_, _, rfl⟩
    · exact .inr ⟨_, _, rfl⟩
  · exact .inl rfl

end View

/-- A flow is stored and written back, and a report may follow; or the write is refused. -/
inductive Persists (turn : Turn) (flow : Flow) (report : List Event) (view : View) :
    View → Prop where
  | kept : Persists turn flow report view (report.foldr View.see ((view.hold flow).saved turn))
  | refused (access : Access) (storage : access.isStorage = true) :
      Persists turn flow report view ((view.hold flow).see (.refused turn access))

/-- What a flow banks when it starts. -/
def Asker.banked (asker : Asker) (turn : Turn) (request : Request) : Banked :=
  match asker with
  | .gate => .activity turn.activity
  | .application => .completion (.start request.handler request.exchange turn.activity)

namespace Authenticator

variable (auth : Authenticator σ)

/-- What is queued when a flow concludes with a response: the completion event of an explicit
sign-in, or the activity of an automatic one if the turn is not its own. -/
def continuation (turn : Turn) (handler : String) (response : Response) : Banked → Option Activity
  | .completion event =>
      if response.status = .pending then none
      else some ((event.withResult handler response).toActivity auth.settings.completionEventName)
  | .activity trigger =>
      if response.status = .complete ∧ (trigger == turn.activity) = false then some trigger
      else none

/-- How the host hears of a failure. -/
def failureEvent (turn : Turn) (failure : Failure) (now : Instant) : Event :=
  if auth.onFailure.isSome then .failed turn failure
  else .sent turn (turn.activity.reply
    (auth.settings.failureMessage failure.handler failure.response.causeOrOther.name) now)

theorem failureEvent_cases (turn : Turn) (failure : Failure) (now : Instant) :
    auth.failureEvent turn failure now = .failed turn failure ∨
      ∃ message, auth.failureEvent turn failure now = .sent turn message := by
  unfold failureEvent
  split
  · exact .inl rfl
  · exact .inr ⟨_, rfl⟩

/-- How the host hears of the outcome that a completion event carries. -/
inductive Tells (turn : Turn) (event : Completion) (response : Response) : Event → Prop where
  | success (complete : response.status = .complete) :
      Tells turn event response
        (.succeeded turn ⟨event.handler, response.token.getD "", event.initiating⟩)
  | failure (failed : response.status = .error) (now : Instant) :
      Tells turn event response
        (auth.failureEvent turn ⟨event.handler, response, event.initiating⟩ now)

/-- What is reported when a handler concludes at once: a failure, to the host or the user. -/
inductive Reports (turn : Turn) (handler : String) (response : Response) : List Event → Prop where
  | success (complete : response.status = .complete) : Reports turn handler response []
  | failure (failed : response.status = .error) (now : Instant) :
      Reports turn handler response [auth.failureEvent turn ⟨handler, response, turn.activity⟩ now]

/-- One thing that can happen in a turn. -/
inductive Step (turn : Turn) : View → View → Prop where
  /-- A handler answers, and no flow changes; at the gate it is pending, or the queue is closed. -/
  | heard {view : View} (asker : Asker) (request : Request) (answer : Except Error Response)
      (unbegun : (Event.answered asker turn request answer).begins = false)
      (quiet : asker = .gate → ∀ response, answer = .ok response →
        response.effective.status = .pending ∨ view.queue.receiving = false)
      (asks : ∃ flow, Flow.load view.state = .ok flow ∧ asker.Asks flow request) :
      Step turn view (view.hear asker turn request answer)
  /-- A flow concludes, but its continuation may not be queued. -/
  | balked {view : View} (request : Request) (answer : Except Error Response)
      (activity : Activity)
      (asks : ∃ flow, Flow.load view.state = .ok flow ∧ Asker.gate.Asks flow request)
      (continued : request.force = false) :
      Step turn view ((view.hear .gate turn request answer).see (.refused turn (.submit activity)))
  /-- The user's state may not be written back. -/
  | refused {view : View} (access : Access) (storage : access.isStorage = true) :
      Step turn view (view.see (.refused turn access))
  /-- An explicit sign-in fails at once, and the callback hears of it. -/
  | disappointed {view : View} (request : Request) (response : Response)
      (idle : Flow.load view.state = .ok .idle) (failed : response.effective.status = .error)
      (forced : request.force = true) :
      Step turn view ((view.hear .application turn request (.ok response)).see
        (.failed turn ⟨request.handler, response.effective, turn.activity⟩))
  /-- The turn goes on to the application. -/
  | admitted {view : View} : Step turn view (view.see (.admitted turn))
  /-- The callback hears of a success. -/
  | told {view : View} (report : Success) : Step turn view (view.see (.succeeded turn report))
  /-- A flow starts. -/
  | began {view after : View} (asker : Asker) (request : Request) (response : Response)
      (idle : Flow.load view.state = .ok .idle)
      (known : auth.dispatcher.contains request.handler = true) (forced : request.force = true)
      (pending : response.effective.status = .pending)
      (persists : Persists turn (.active request.handler (some (asker.banked turn request))) []
        (view.hear asker turn request (.ok response)) after) :
      Step turn view after
  /-- A flow concludes, and its continuation is queued. -/
  | handedOn {view after : View} (handler : String) (banked : Banked) (exchange : Option Exchange)
      (response : Response) (activity : Activity) (queue : ReplayQueue)
      (active : Flow.load view.state = .ok (.active handler (some banked)))
      (continues : auth.continuation turn handler response.effective banked = some activity)
      (accepted : view.queue.submit activity = .ok queue)
      (persists : Persists turn .idle []
        ((view.hear .gate turn ⟨handler, false, exchange⟩ (.ok response)).enqueue turn activity
          queue) after)
      (forwards : exchange = (Flow.active handler (some banked)).exchange) :
      Step turn view after
  /-- An automatic flow concludes in a turn of its own activity, which goes on. -/
  | proceeded {view after : View} (handler : String) (trigger : Activity)
      (exchange : Option Exchange) (response : Response)
      (active : Flow.load view.state = .ok (.active handler (some (.activity trigger))))
      (complete : response.effective.status = .complete) (own : (trigger == turn.activity) = true)
      (persists : Persists turn .idle [.admitted turn]
        (view.hear .gate turn ⟨handler, false, exchange⟩ (.ok response)) after)
      (forwards : exchange = none) :
      Step turn view after
  /-- An automatic flow fails, and the failure is reported. -/
  | gaveUp {view after : View} (handler : String) (trigger : Activity)
      (exchange : Option Exchange) (response : Response) (now : Instant)
      (active : Flow.load view.state = .ok (.active handler (some (.activity trigger))))
      (failed : response.effective.status = .error)
      (persists : Persists turn .idle
        [auth.failureEvent turn ⟨handler, response.effective, trigger⟩ now]
        (view.hear .gate turn ⟨handler, false, exchange⟩ (.ok response)) after)
      (forwards : exchange = none) :
      Step turn view after
  /-- A handler concludes at once where nothing is banked. -/
  | settled {view after : View} (flow : Flow) (request : Request) (response : Response)
      (report : List Event)
      (loaded : Flow.load view.state = .ok flow) (empty : flow.banked = none)
      (reports : auth.Reports turn request.handler response.effective report)
      (persists : Persists turn .idle report
        (view.hear .gate turn request (.ok response)) after)
      (asks : Asker.gate.Asks flow request) :
      Step turn view after
  /-- A handler was asked to forget the user, and no flow of the user is its own. -/
  | parted {view : View} (way : Withdrawal) (handler : String) (outcome : Except Error Unit)
      (other : outcome = .ok () → ∀ banked, Flow.load view.state ≠ .ok (.active handler banked)) :
      Step turn view (view.part turn way handler outcome)
  /-- A handler has forgotten the user, and its flow is cleared. -/
  | withdrawn {view after : View} (way : Withdrawal) (handler : String) (banked : Option Banked)
      (active : Flow.load view.state = .ok (.active handler banked))
      (persists : Persists turn .idle [] (view.part turn way handler (.ok ())) after) :
      Step turn view after
  /-- A property that is none of the flow is set. -/
  | set {view : View} (name : String) (value : Json) (foreign : Flow.foreign name = true) :
      Step turn view { view with state := view.state.set name value }
  /-- A property that is none of the flow is removed. -/
  | remove {view : View} (name : String) (foreign : Flow.foreign name = true) :
      Step turn view { view with state := view.state.remove name }
  /-- The user's state is written back. -/
  | saved {view : View} : Step turn view (view.saved turn)

/-- What can come of any number of steps. -/
def Reaches (turn : Turn) : View → View → Prop := Relation.ReflTransGen (auth.Step turn)

/-- What the completion route does: it reports once at most, what the activity of its turn carries,
and only if the queue has delivered it. -/
inductive Completes (turn : Turn) (view : View) : View → Prop where
  | nothing : Completes turn view view
  | reported (event : Completion) (response : Response) (report : Event)
      (redelivered : turn.redelivered = true) (decoded : completionOf turn.activity = .ok event)
      (carried : event.response = some response) (tells : auth.Tells turn event response report) :
      Completes turn view (view.see report)

end Authenticator
end SignInFlow
