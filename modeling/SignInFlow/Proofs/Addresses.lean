import SignInFlow.Proofs.Records
import SignInFlow.Proofs.Sessions

/-!
# Where continuations return

A flow may be concluded in another conversation than the one in which it began, or on the snapshot
of a turn that overlaps with others.  What is queued then is addressed as the activity with which
the flow began: whatever is stored or held for a user was banked in a turn of that user, and neither
the way through storage nor the form of a completion event changes the address.
-/

namespace SignInFlow

variable {σ : Type}

/-! ## Addresses -/

/-- Where an activity belongs: its channel and conversation, its sender and its receiver. -/
structure Address where
  /-- The channel. -/
  channel : String
  /-- The sender. -/
  sender : Account
  /-- The receiver. -/
  recipient : Option Account
  /-- The id of the conversation. -/
  conversation : String
deriving DecidableEq, Repr

namespace Activity

/-- The address of an activity. -/
def address (activity : Activity) : Address :=
  ⟨activity.channel, activity.sender, activity.recipient, activity.conversation⟩

variable {activity other : Activity}

@[simp] theorem address_settled (activity : Activity) :
    activity.settled.address = activity.address := by
  unfold settled
  split <;> rfl

/-- The address alone decides whose state a turn loads. -/
theorem userKey_of_address (same : activity.address = other.address) :
    activity.userKey = other.userKey := by
  injection same with channels senders
  simp only [userKey, channels, senders]

theorem load_of_address (services : Services σ) (same : activity.address = other.address) :
    UserState.load services activity = UserState.load services other := by
  unfold UserState.load
  rw [userKey_of_address same]

/-- The address alone decides where a reply goes. -/
theorem reply_of_address (same : activity.address = other.address) :
    activity.reply = other.reply := by
  injection same with channels senders recipients conversations
  funext text sentAt
  simp only [reply, channels, senders, recipients, conversations]

end Activity

theorem Banked.address_settled (banked : Banked) :
    banked.settled.initiating.address = banked.initiating.address := by
  cases banked with
  | activity trigger => exact trigger.address_settled
  | completion event => exact event.initiating.address_settled

@[simp] theorem Asker.initiating_banked (asker : Asker) (turn : Turn) (request : Request) :
    (asker.banked turn request).initiating = turn.activity := by
  cases asker <;> rfl

/-- What is queued when a flow concludes is addressed as what it has banked. -/
theorem Authenticator.address_continuation (auth : Authenticator σ) {turn : Turn} {handler : String}
    {response : Response} {banked : Banked} {activity : Activity}
    (continues : auth.continuation turn handler response banked = some activity) :
    activity.address = banked.initiating.address := by
  cases banked with
  | activity trigger =>
      simp only [continuation] at continues
      split at continues <;> cases continues
      rfl
  | completion event =>
      simp only [continuation] at continues
      split at continues <;> cases continues
      rfl

/-! ## Traces of a beginning -/

/-- In a turn a flow was stored in the document of a user, or the host refused to store it. -/
def KeptUnder (turn : Turn) (key handler : String) (banked : Banked) (log : List Event) : Prop :=
  ∃ access, (.accessed turn access ∈ log ∧
      Flow.stored (access.apply []) key = .ok (.active handler (some banked))) ∨
    (.refused turn access ∈ log ∧ access.isStorage = true)

/-- A turn of a user has begun a flow: a handler has left a new request pending, and the flow was
kept with what the turn has banked. -/
structure Begins (first : Turn) (key handler : String) (banked : Banked) (log : List Event) :
    Prop where
  keyed : first.activity.userKey = .ok key
  answered : ∃ asker request answer, .answered asker first request answer ∈ log ∧
    (Event.answered asker first request answer).begins = true ∧ request.handler = handler ∧
    banked = (asker.banked first request).settled
  kept : KeptUnder first key handler banked log

/-- A flow has begun in some turn of its user. -/
def Begun (key handler : String) (banked : Banked) (log : List Event) : Prop :=
  ∃ first, Begins first key handler banked log

/-- What an event submits to the queue, if it does. -/
def Event.submission : Event → Option Activity
  | accessed _ (.submit activity) => some activity
  | _ => none

theorem Event.submission_of_notice {event : Event} (notice : event.isNotice = true) :
    event.submission = none := by
  cases event <;> first | rfl | cases notice

theorem UserState.submission_writing (state : UserState) (turn : Turn) :
    (Event.accessed turn state.writing).submission = none := by
  unfold writing
  split <;> rfl

/-- What a turn has queued continues a flow of its user that had begun. -/
def Authenticator.Returns (auth : Authenticator σ) (turn : Turn) (activity : Activity)
    (older : List Event) : Prop :=
  ∃ key handler banked response, turn.activity.userKey = .ok key ∧ Begun key handler banked older ∧
    auth.continuation turn handler response banked = some activity

/-- Every stored flow has begun, and what was queued continues one that had. -/
structure Traced (auth : Authenticator σ) (documents : Dictionary Json) (log : List Event) :
    Prop where
  stored : ∀ key handler banked, Flow.stored documents key = .ok (.active handler (some banked)) →
    Begun key handler banked log
  queued : ∀ event older, event :: older <:+ log → ∀ activity, event.submission = some activity →
    auth.Returns event.turn activity older

/-- The flow that a turn sees has begun. -/
def UserState.Traced (state : UserState) (log : List Event) : Prop :=
  ∀ handler banked, Flow.load state = .ok (.active handler (some banked)) →
    Begun state.key handler banked log

/-- In a turn of a user, every flow that is stored or seen has begun. -/
structure View.Traced (auth : Authenticator σ) (turn : Turn) (view : View) : Prop
    extends SignInFlow.Traced auth view.documents view.log where
  keyed : turn.activity.userKey = .ok view.state.key
  held : view.state.Traced view.log

theorem KeptUnder.mono {turn : Turn} {key handler : String} {banked : Banked}
    {log more : List Event} (kept : KeptUnder turn key handler banked log) (grown : log <:+ more) :
    KeptUnder turn key handler banked more := by
  obtain ⟨access, ⟨seen, stored⟩ | ⟨seen, storage⟩⟩ := kept
  · exact ⟨access, .inl ⟨grown.subset seen, stored⟩⟩
  · exact ⟨access, .inr ⟨grown.subset seen, storage⟩⟩

theorem Begun.mono {key handler : String} {banked : Banked} {log more : List Event}
    (begun : Begun key handler banked log) (grown : log <:+ more) :
    Begun key handler banked more := by
  obtain ⟨first, keyed, ⟨asker, request, answer, seen, rest⟩, kept⟩ := begun
  exact ⟨first, keyed, ⟨asker, request, answer, grown.subset seen, rest⟩, kept.mono grown⟩

/-- What is banked is addressed as the activity of the turn that has begun the flow. -/
theorem Begins.address {first : Turn} {key handler : String} {banked : Banked} {log : List Event}
    (begins : Begins first key handler banked log) :
    banked.initiating.address = first.activity.address := by
  obtain ⟨asker, request, answer, -, -, -, rfl⟩ := begins.answered
  rw [Banked.address_settled, Asker.initiating_banked]

/-- A flow that starts is kept in the document of its user. -/
theorem Persists.keeps_active {turn : Turn} {handler : String} {banked : Banked} {view after : View}
    (persists : Persists turn (.active handler (some banked)) [] view after) :
    KeptUnder turn view.state.key handler banked.settled after.log := by
  cases persists with
  | refused access storage => exact ⟨access, .inr ⟨List.mem_cons_self, storage⟩⟩
  | kept =>
      let held := view.hold (.active handler (some banked))
      have written := View.saved_eq_writing held turn (Flow.store_active_dirty handler banked _)
      refine ⟨held.state.writing, .inl ⟨?_, ?_⟩⟩
      · change _ ∈ (held.saved turn).log
        rw [written]
        exact List.mem_cons_self
      · have stored := held.state.stored_writing_self []
        rw [View.hold_state, Flow.load_store, Flow.store_key] at stored
        exact stored

theorem UserState.Traced.mono {state : UserState} {log more : List Event}
    (traced : state.Traced log) (grown : log <:+ more) : state.Traced more :=
  fun handler banked active => (traced handler banked active).mono grown

theorem Traced.cons {auth : Authenticator σ} {documents : Dictionary Json} {log : List Event}
    (traced : Traced auth documents log) (event : Event)
    (returns : ∀ activity, event.submission = some activity →
      auth.Returns event.turn activity log) : Traced auth documents (event :: log) where
  stored := fun key handler banked active =>
    (traced.stored key handler banked active).mono (List.suffix_cons event log)
  queued := by
    intro later older suffix activity submits
    rcases List.suffix_cons_iff.mp suffix with same | earlier
    · cases same
      exact returns activity submits
    · exact traced.queued later older earlier activity submits

namespace View.Traced

variable {auth : Authenticator σ} {turn : Turn} {view : View}

theorem see (traced : view.Traced auth turn) {event : Event}
    (silent : event.submission = none) : (view.see event).Traced auth turn where
  toTraced := traced.toTraced.cons event fun _ submits => by rw [silent] at submits; cases submits
  keyed := traced.keyed
  held := traced.held.mono (List.suffix_cons event view.log)

/-- Tokens and queue have no part in it. -/
theorem of_elsewhere (traced : view.Traced auth turn) (tokens : TokenCache) (queue : ReplayQueue) :
    ({ view with tokens := tokens, queue := queue } : View).Traced auth turn :=
  ⟨traced.toTraced, traced.keyed, traced.held⟩

theorem hear (traced : view.Traced auth turn) (asker : Asker) (request : Request)
    (answer : Except Error Response) : (view.hear asker turn request answer).Traced auth turn := by
  obtain ⟨tokens, heard⟩ := View.hear_eq view turn asker request answer
  rw [heard]
  exact (traced.of_elsewhere tokens view.queue).see rfl

theorem part (traced : view.Traced auth turn) (way : Withdrawal) (handler : String)
    (outcome : Except Error Unit) : (view.part turn way handler outcome).Traced auth turn := by
  have parted : (view.see (.withdrew turn way handler outcome)).Traced auth turn := traced.see rfl
  cases outcome with
  | error error => exact parted
  | ok _ => exact parted.of_elsewhere _ _

/-- What is stored after writing back was stored before, or is what the turn sees. -/
theorem saved_of (traced : SignInFlow.Traced auth view.documents view.log)
    (keyed : turn.activity.userKey = .ok view.state.key)
    (held : view.state.Traced (view.saved turn).log) : (view.saved turn).Traced auth turn := by
  cases dirty : view.state.dirty with
  | false =>
      rw [View.saved_of_clean view turn dirty] at held ⊢
      exact ⟨traced, keyed, held⟩
  | true =>
      have written := View.saved_eq_writing view turn dirty
      have logged : (view.saved turn).log = .accessed turn view.state.writing :: view.log := by
        rw [written, View.see_log]
      have recorded := traced.cons (.accessed turn view.state.writing) fun _ submits => by
        rw [view.state.submission_writing turn] at submits
        cases submits
      refine ⟨⟨fun key handler banked active => ?_, ?_⟩, ?_, ?_⟩
      · rcases View.stored_saved view turn key with before | ⟨rfl, now⟩
        · rw [logged]
          exact recorded.stored key handler banked (before.symm.trans active)
        · exact held handler banked (now.symm.trans active)
      · rw [logged]
        exact recorded.queued
      · rw [written]
        exact keyed
      · rw [written] at held ⊢
        exact held

theorem saved (traced : view.Traced auth turn) : (view.saved turn).Traced auth turn := by
  have saved : Adds turn view.log (view.saved turn).log := View.adds_saved turn
  exact saved_of traced.toTraced traced.keyed (traced.held.mono saved.suffix)

theorem enqueue (traced : view.Traced auth turn) {activity : Activity} (queue : ReplayQueue)
    (returns : auth.Returns turn activity view.log) :
    (view.enqueue turn activity queue).Traced auth turn where
  toTraced := traced.toTraced.cons _ fun other submits => by
    cases submits
    exact returns
  keyed := traced.keyed
  held := traced.held.mono (List.suffix_cons _ view.log)

/-- No flow is left. -/
theorem clears (traced : view.Traced auth turn) {report : List Event} {after : View}
    (notices : Notices turn report) (persists : Persists turn .idle report view after) :
    after.Traced auth turn := by
  have held : (view.hold .idle).Traced auth turn := by
    refine ⟨traced.toTraced, by simpa using traced.keyed, fun handler banked active => ?_⟩
    rw [View.hold_state, Flow.load_store] at active
    cases active
  exact persists.keeps held.saved (fun _ _ => held.see rfl)
    fun event member _ before => before.see (Event.submission_of_notice (notices event member).2)

/-- The flow that is left has begun. -/
theorem begins (traced : view.Traced auth turn) {handler : String} {banked : Banked} {after : View}
    (persists : Persists turn (.active handler (some banked)) [] view after)
    (begun : Begun view.state.key handler banked.settled after.log) : after.Traced auth turn := by
  have keyed : turn.activity.userKey =
      .ok (view.hold (.active handler (some banked))).state.key := by
    simpa using traced.keyed
  have held : (view.hold (.active handler (some banked))).state.Traced after.log := by
    intro owner kept active
    rw [View.hold_state, Flow.load_store] at active
    rw [View.hold_state, Flow.store_key]
    cases active
    exact begun
  cases persists with
  | kept => exact saved_of traced.toTraced keyed held
  | refused access storage =>
      have recorded : (view.see (.refused turn access)).Traced auth turn := traced.see rfl
      exact ⟨recorded.toTraced, keyed, held⟩

theorem step (traced : view.Traced auth turn) {after : View} (step : auth.Step turn view after) :
    after.Traced auth turn := by
  cases step with
  | heard asker request answer => exact traced.hear asker request answer
  | balked request answer activity => exact (traced.hear .gate request answer).see rfl
  | refused access => exact traced.see rfl
  | disappointed request response => exact (traced.hear .application request (.ok response)).see rfl
  | admitted => exact traced.see rfl
  | told report => exact traced.see rfl
  | began asker request response idle known forced pending persists =>
      have heard := traced.hear asker request (.ok response)
      have grown : Adds turn _ after.log := View.adds_of_persists turn (notices_nil turn) persists
      have begins : (Event.answered asker turn request (.ok response)).begins = true := by
        simp [Event.begins, forced, pending]
      refine heard.begins persists ⟨turn, heard.keyed, ⟨asker, request, _, ?_, begins, rfl, rfl⟩,
        persists.keeps_active⟩
      refine grown.suffix.subset ?_
      rw [View.hear_log]
      exact List.mem_cons_self
  | handedOn handler banked exchange response activity queue active continues _ persists =>
      have begun := (traced.held handler banked active).mono (List.suffix_cons
        (.answered .gate turn ⟨handler, false, exchange⟩ (.ok response)) view.log)
      refine View.Traced.clears ?_ (notices_nil turn) persists
      refine (traced.hear .gate ⟨handler, false, exchange⟩ (.ok response)).enqueue queue ?_
      rw [View.hear_log]
      exact ⟨_, handler, banked, response.effective, traced.keyed, begun, continues⟩
  | proceeded handler trigger exchange response _ _ _ persists =>
      exact (traced.hear .gate _ (.ok response)).clears (notices_admitted turn) persists
  | gaveUp handler trigger exchange response now _ _ persists =>
      exact (traced.hear .gate _ (.ok response)).clears (auth.notices_failureEvent turn _ now)
        persists
  | settled flow request response report _ _ reports persists =>
      exact (traced.hear .gate request (.ok response)).clears reports.notices persists
  | parted way handler outcome => exact traced.part way handler outcome
  | withdrawn way handler banked _ persists =>
      exact (traced.part way handler (.ok ())).clears (notices_nil turn) persists
  | set name value foreign =>
      refine ⟨traced.toTraced, traced.keyed, fun handler banked active => ?_⟩
      rw [Flow.load_set view.state value foreign] at active
      exact traced.held handler banked active
  | remove name foreign =>
      have own : (view.state.remove name).key = view.state.key := UserState.remove_key _
      refine ⟨traced.toTraced, traced.keyed.trans (congrArg Except.ok own.symm),
        fun handler banked active => ?_⟩
      rw [Flow.load_remove view.state foreign] at active
      rw [own]
      exact traced.held handler banked active
  | saved => exact traced.saved

theorem comes (traced : view.Traced auth turn) {after : View}
    (comes : Call.Comes auth turn view after) : after.Traced auth turn := by
  rcases comes with reaches | completes
  · induction reaches with
    | refl => exact traced
    | tail _ step ih => exact ih.step step
  · cases completes with
    | nothing => exact traced
    | reported event response report redelivered decoded carried tells =>
        exact traced.see (Event.submission_of_notice tells.notice.2)

end View.Traced

/-! ## Sessions -/

namespace Sessions

variable (auth : Authenticator σ) (services : Services σ)

/-- Every flow that is stored, or seen in a turn in progress, has begun. -/
structure Traced (sessions : Sessions (Recorded σ)) : Prop where
  world : SignInFlow.Traced auth sessions.world.documents sessions.world.host.log
  turns : ∀ session ∈ sessions.turns, session.turn.activity.userKey = .ok session.state.key ∧
    session.state.Traced sessions.world.host.log

namespace Traced

variable {auth services} {sessions : Sessions (Recorded σ)}

/-- The turns in progress still see what has begun. -/
theorem of_world (traced : sessions.Traced auth) {world : World (Recorded σ)}
    (left : SignInFlow.Traced auth world.documents world.host.log)
    (grown : sessions.world.host.log <:+ world.host.log) : Traced auth ⟨world, sessions.turns⟩ where
  world := left
  turns := by
    intro session member
    obtain ⟨keyed, held⟩ := traced.turns session member
    exact ⟨keyed, held.mono grown⟩

theorem see (traced : sessions.Traced auth) {world : World (Recorded σ)} {event : Event}
    (silent : event.submission = none)
    (standing : world.standing = sessions.world.standing.see event) :
    Traced auth ⟨world, sessions.turns⟩ := by
  have documents : world.documents = sessions.world.documents :=
    congrArg Standing.documents standing
  have log : world.host.log = event :: sessions.world.host.log := congrArg Standing.log standing
  refine traced.of_world ?_ (log ▸ List.suffix_cons event _)
  rw [documents, log]
  exact traced.world.cons event fun _ submits => by rw [silent] at submits; cases submits

/-- A turn that begins sees the flow that is stored for its user. -/
theorem opens (traced : sessions.Traced auth) (turn : Turn) (cancelled : Bool) :
    (sessions.advanceRecorded auth services (.begin turn cancelled)).Traced auth := by
  have loading : Ends (UserState.load (services.recorded turn) turn.activity) sessions.world _ _ :=
    ends_load services turn
  simp only [advanceRecorded]
  cases loaded : UserState.load (services.recorded turn) turn.activity sessions.world with
  | error error world =>
      rcases loading.of_error loaded with standing | ⟨access, standing⟩ | ⟨key, -, standing⟩
      · have documents : world.documents = sessions.world.documents :=
          congrArg Standing.documents standing
        have log : world.host.log = sessions.world.host.log := congrArg Standing.log standing
        refine traced.of_world ?_ (log ▸ List.suffix_rfl)
        rw [documents, log]
        exact traced.world
      · exact traced.see rfl standing
      · exact traced.see rfl standing
  | ok state world =>
      have loads := loading.of_ok loaded
      have others : Traced auth ⟨world, sessions.turns⟩ := traced.see rfl loads.standing
      have documents : world.documents = sessions.world.documents :=
        congrArg Standing.documents loads.standing
      have stored : Flow.load state = Flow.stored world.documents state.key := by
        rw [documents]
        exact Flow.load_eq_stored loads.stored
      refine ⟨others.world, fun session member => ?_⟩
      rcases List.mem_append.mp member with earlier | new
      · exact others.turns session earlier
      · rw [List.mem_singleton.mp new]
        exact ⟨loads.keyed, fun handler banked active =>
          others.world.stored _ handler banked (stored.symm.trans active)⟩

/-- A call leaves the other turns with what they have seen. -/
theorem calls (traced : sessions.Traced auth) (index : Nat) (call : Call σ) :
    (sessions.advanceRecorded auth services (.call index call)).Traced auth := by
  simp only [advanceRecorded]
  cases chosen : sessions.turns[index]? with
  | none => exact traced
  | some session =>
      have member : session ∈ sessions.turns := List.mem_of_getElem? chosen
      obtain ⟨keyed, held⟩ := traced.turns session member
      let scope : Scope (Recorded σ) := ⟨sessions.world, session.state, session.cancelled⟩
      have before : scope.view.Traced auth session.turn := ⟨traced.world, keyed, held⟩
      have comes := Call.comes_performRecorded auth services session.turn call scope
      have after := before.comes comes
      have others := traced.of_world after.toTraced (Call.adds_of_comes comes).suffix
      refine ⟨others.world, fun other among => ?_⟩
      rcases List.mem_or_eq_of_mem_set among with earlier | rfl
      · exact others.turns other earlier
      · exact ⟨after.keyed, after.held⟩

theorem advance (traced : sessions.Traced auth) (command : Command σ) :
    (sessions.advanceRecorded auth services command).Traced auth := by
  cases command with
  | begin turn cancelled => exact traced.opens turn cancelled
  | call index call => exact traced.calls index call
  | elsewhere tokens queue host => exact ⟨traced.world, traced.turns⟩

theorem run (traced : sessions.Traced auth) (commands : List (Command σ)) :
    (sessions.runRecorded auth services commands).Traced auth := by
  induction commands generalizing sessions with
  | nil => exact traced
  | cons command rest ih => exact ih (traced.advance command)

end Traced

/-- Before anything has happened. -/
theorem traced_initial (host : σ) : Traced auth ⟨World.initial ⟨host, []⟩, []⟩ where
  world := {
    stored := fun key handler banked active => by cases active
    queued := fun event older suffix => by cases List.suffix_nil.mp suffix }
  turns := fun session member => by cases member

end Sessions

/-- Continuations return.  However the turns of all users overlap, with a record that changes
nothing of what happens: every flow that is stored has begun in a turn of the user whose document it
is stored in.  And whatever the queue has accepted, a banked activity or a completion event,
continues a flow that had begun in a turn of the same user; it is addressed as the activity of that
turn, so that it is replayed with the state of that user, and is answered where the flow began. -/
theorem continuations_return (auth : Authenticator σ) (services : Services σ) (host : σ)
    (commands : List (Command σ)) :
    let final := Sessions.runRecorded auth services ⟨World.initial ⟨host, []⟩, []⟩ commands
    final.erase = Sessions.run auth services ⟨World.initial host, []⟩ commands ∧
      (∀ key handler banked,
        Flow.stored final.world.documents key = .ok (.active handler (some banked)) →
          ∃ first, Begins first key handler banked final.world.host.log ∧
            banked.initiating.address = first.activity.address) ∧
      ∀ turn activity older, .accessed turn (.submit activity) :: older <:+ final.world.host.log →
        ∃ first key handler banked response,
          turn.activity.userKey = .ok key ∧ Begins first key handler banked older ∧
            auth.continuation turn handler response banked = some activity ∧
            activity.address = first.activity.address ∧ activity.userKey = .ok key ∧
            activity.reply = first.activity.reply ∧
            UserState.load services activity = UserState.load services first.activity := by
  have start : Sessions.Traced auth ⟨World.initial ⟨host, []⟩, []⟩ :=
    Sessions.traced_initial auth host
  have traced : Sessions.Traced auth
      (Sessions.runRecorded auth services ⟨World.initial ⟨host, []⟩, []⟩ commands) :=
    start.run commands
  refine ⟨Sessions.erase_runRecorded auth services _ commands, ?_, ?_⟩
  · intro key handler banked active
    obtain ⟨first, begins⟩ := traced.world.stored key handler banked active
    exact ⟨first, begins, begins.address⟩
  · intro turn activity older suffix
    obtain ⟨key, handler, banked, response, keyed, ⟨first, begins⟩, continues⟩ :=
      traced.world.queued _ older suffix activity rfl
    have same : activity.address = first.activity.address :=
      (auth.address_continuation continues).trans begins.address
    exact ⟨first, key, handler, banked, response, keyed, begins, continues, same,
      (Activity.userKey_of_address same).trans begins.keyed, Activity.reply_of_address same,
      Activity.load_of_address services same⟩

/-- A user of the sample site asks for a sign-in in one conversation, and gives the code in
another. -/
def acrossRooms : List (Command Nat) :=
  [.begin ⟨.message "chat" "ada" "room" "sign in", false⟩ false,
    .call 0 (.conduct (.signIn "code" none .finish)),
    .begin ⟨.message "chat" "ada" "inbox" "42", false⟩ false, .call 1 (.gate none)]

/-- What the sample site has come to then. -/
def crossed : Sessions (Recorded Nat) :=
  Sessions.runRecorded Site.sample.auth Site.sample.services ⟨World.initial ⟨0, []⟩, []⟩ acrossRooms

/-- The completion event is queued in the turn of the second conversation, and belongs to the
first one. -/
theorem completed_across_rooms :
    ∃ turn activity older, .accessed turn (.submit activity) :: older <:+ crossed.world.host.log ∧
      turn.activity.conversation = "inbox" ∧ activity.kind = .event ∧
      ∃ first key handler banked, Begins first key handler banked older ∧
        first.activity.conversation = "room" ∧ activity.address = first.activity.address ∧
        activity.userKey = .ok key := by
  let event := crossed.world.queue.waiting.headD (.message "" "" "" "")
  have kind : event.kind = .event := by decide +kernel
  have belongs : event.conversation = "room" := by decide +kernel
  have latest : crossed.world.host.log.drop 1 =
      .accessed ⟨.message "chat" "ada" "inbox" "42", false⟩ (.submit event) ::
        crossed.world.host.log.drop 2 := by rfl
  have queued : .accessed ⟨.message "chat" "ada" "inbox" "42", false⟩ (.submit event) ::
      crossed.world.host.log.drop 2 <:+ crossed.world.host.log := by
    rw [← latest]
    exact List.drop_suffix 1 crossed.world.host.log
  obtain ⟨-, -, returns⟩ := continuations_return Site.sample.auth Site.sample.services 0 acrossRooms
  obtain ⟨first, key, handler, banked, response, -, begins, -, same, keyed, -⟩ :=
    returns _ event _ queued
  have began : event.conversation = first.activity.conversation :=
    congrArg Address.conversation same
  exact ⟨_, event, _, queued, rfl, kind, first, key, handler, banked, begins,
    began.symm.trans belongs, same, keyed⟩

end SignInFlow
