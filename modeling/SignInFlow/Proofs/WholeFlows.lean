import SignInFlow.Proofs.Sessions

/-!
# Whole flows

The two properties of a flow are stored together or not at all, and what they hold can be read
again: a registered handler, and with it something that is banked for the very user. Every call
keeps this of the state it works on, and so of every document, wherever it stops and whatever runs
in between.
-/

namespace SignInFlow

variable {σ : Type}

/-- What is banked belongs to a user and a handler: a completion event names the handler and has no
outcome yet. -/
def Banked.Belongs (key handler : String) : Banked → Prop
  | .activity trigger => trigger.userKey = .ok key
  | .completion event =>
      event.handler = handler ∧ event.response = none ∧ event.initiating.userKey = .ok key

/-- A flow is none, or has a registered handler and something banked that belongs to it. -/
def Flow.Belongs (registered : String → Bool) (key : String) : Flow → Prop
  | .idle => True
  | .active handler (some banked) => registered handler = true ∧ banked.Belongs key handler
  | .active _ none => False

/-- The properties of a user tell of a flow of that user, and keep both parts of it if it is active,
else none. -/
def WholeFlow (registered : String → Bool) (key : String) (properties : Dictionary Json) : Prop :=
  ∃ flow, Flow.load ⟨key, properties, false⟩ = .ok flow ∧ flow.Belongs registered key ∧
    properties.has Flow.handlerKey = flow.isActive ∧ properties.has Flow.bankedKey = flow.isActive

/-- A document holds properties with a whole flow. -/
def WholeDocument (registered : String → Bool) (key : String) (document : Json) : Prop :=
  ∃ properties, document = .obj properties ∧ WholeFlow registered key properties

theorem userKey_settled (activity : Activity) : activity.settled.userKey = activity.userKey := by
  unfold Activity.settled
  split <;> rfl

theorem Banked.Belongs.settled {key handler : String} {banked : Banked}
    (belongs : banked.Belongs key handler) : banked.settled.Belongs key handler := by
  cases banked with
  | activity trigger => exact (userKey_settled trigger).trans belongs
  | completion event =>
      obtain ⟨named, open_, keyed⟩ := belongs
      exact ⟨named, open_, (userKey_settled event.initiating).trans keyed⟩

theorem Flow.Belongs.settled {registered : String → Bool} {key : String} {flow : Flow}
    (belongs : flow.Belongs registered key) : flow.settled.Belongs registered key := by
  cases flow with
  | idle => trivial
  | active handler banked =>
      cases banked with
      | none => exact belongs
      | some banked => exact ⟨belongs.1, belongs.2.settled⟩

variable {registered : String → Bool} {key : String}

/-- Only the two properties of the flow matter. -/
theorem WholeFlow.congr {properties other : Dictionary Json}
    (whole : WholeFlow registered key properties)
    (handlers : List.lookup Flow.handlerKey other = List.lookup Flow.handlerKey properties)
    (bankeds : List.lookup Flow.bankedKey other = List.lookup Flow.bankedKey properties) :
    WholeFlow registered key other := by
  obtain ⟨flow, loads, belongs, hasHandler, hasBanked⟩ := whole
  refine ⟨flow, ?_, belongs, ?_, ?_⟩
  · rw [← loads]
    exact Flow.load_congr handlers bankeds
  · rw [← hasHandler]
    simp only [Dictionary.has, handlers]
  · rw [← hasBanked]
    simp only [Dictionary.has, bankeds]

theorem wholeFlow_nil : WholeFlow registered key [] := ⟨.idle, rfl, trivial, rfl, rfl⟩

theorem wholeFlow_store {flow : Flow} (belongs : flow.Belongs registered key) (state : UserState) :
    WholeFlow registered key (flow.store state).properties := by
  refine ⟨flow.settled, ?_, belongs.settled, ?_, ?_⟩
  · rw [← Flow.load_store flow state]
    exact Flow.load_congr rfl rfl
  · simp only [Dictionary.has, Flow.lookup_handlerKey_store]
    cases flow with
    | idle => rfl
    | active handler banked => rfl
  · simp only [Dictionary.has, Flow.lookup_bankedKey_store]
    cases flow with
    | idle => rfl
    | active handler banked =>
        cases banked with
        | none => exact belongs.elim
        | some banked => rfl

/-! ## Within a turn -/

/-- What a call keeps of the documents and of the state it works on. -/
structure KeepsWhole (registered : String → Bool) (key : String) (documents : Dictionary Json)
    (state : UserState) : Prop where
  own : state.key = key
  stored : ∀ user document, (user, document) ∈ documents → WholeDocument registered user document
  held : WholeFlow registered key state.properties

theorem mem_put {name other : String} {value content : Json} {entries : Dictionary Json}
    (member : (other, content) ∈ entries.put name value) :
    other = name ∧ content = value ∨ (other, content) ∈ entries := by
  induction entries with
  | nil =>
      cases List.mem_singleton.mp member
      exact .inl ⟨rfl, rfl⟩
  | cons entry rest ih =>
      unfold Dictionary.put at member
      split at member
      · rcases List.mem_cons.mp member with same | later
        · cases same
          exact .inl ⟨rfl, rfl⟩
        · exact .inr (List.mem_cons_of_mem _ later)
      · split at member
        · rcases List.mem_cons.mp member with same | later
          · cases same
            exact .inl ⟨rfl, rfl⟩
          · exact .inr later
        · rcases List.mem_cons.mp member with same | later
          · exact .inr (same ▸ List.mem_cons_self)
          · rcases ih later with new | old
            · exact .inl new
            · exact .inr (List.mem_cons_of_mem _ old)

theorem mem_drop {name other : String} {content : Json} {entries : Dictionary Json}
    (member : (other, content) ∈ entries.drop name) : (other, content) ∈ entries := by
  induction entries with
  | nil => exact member
  | cons entry rest ih =>
      unfold Dictionary.drop at member
      split at member
      · exact List.mem_cons_of_mem _ (ih member)
      · rcases List.mem_cons.mp member with same | later
        · exact same ▸ List.mem_cons_self
        · exact List.mem_cons_of_mem _ (ih later)

namespace KeepsWhole

variable {view : View}

theorem hold (keeps : KeepsWhole registered key view.documents view.state) {flow : Flow}
    (belongs : flow.Belongs registered key) :
    KeepsWhole registered key (view.hold flow).documents (view.hold flow).state where
  own := by simpa using keeps.own
  stored := keeps.stored
  held := wholeFlow_store belongs view.state

theorem saved (keeps : KeepsWhole registered key view.documents view.state) (turn : Turn) :
    KeepsWhole registered key (view.saved turn).documents (view.saved turn).state where
  own := by simpa using keeps.own
  stored := by
    intro user document member
    unfold View.saved at member
    split at member
    · split at member
      · exact keeps.stored user document (mem_drop member)
      · rcases mem_put member with ⟨rfl, rfl⟩ | before
        · rw [keeps.own]
          exact ⟨_, rfl, keeps.held⟩
        · exact keeps.stored user document before
    · exact keeps.stored user document member
  held := by simpa using keeps.held

theorem persists (keeps : KeepsWhole registered key view.documents view.state) {turn : Turn}
    {flow : Flow} {report : List Event} {after : View} (belongs : flow.Belongs registered key)
    (persists : Persists turn flow report view after) :
    KeepsWhole registered key after.documents after.state := by
  cases persists with
  | kept =>
      rw [View.foldr_see_documents, View.foldr_see_state]
      exact (keeps.hold belongs).saved turn
  | refused => exact keeps.hold belongs

theorem step {auth : Authenticator σ} {turn : Turn} {after : View}
    (keeps : KeepsWhole auth.dispatcher.contains key view.documents view.state)
    (keyed : turn.activity.userKey = .ok key) (step : auth.Step turn view after) :
    KeepsWhole auth.dispatcher.contains key after.documents after.state := by
  have heard (asker : Asker) (request : Request) (answer : Except Error Response) :
      KeepsWhole auth.dispatcher.contains key (view.hear asker turn request answer).documents
        (view.hear asker turn request answer).state := by
    simpa using keeps
  have parted (way : Withdrawal) (handler : String) (outcome : Except Error Unit) :
      KeepsWhole auth.dispatcher.contains key (view.part turn way handler outcome).documents
        (view.part turn way handler outcome).state := by
    simpa using keeps
  have idle : Flow.idle.Belongs auth.dispatcher.contains key := trivial
  cases step with
  | heard asker request answer => exact heard asker request answer
  | balked request answer activity => exact heard .gate request answer
  | refused access => exact keeps
  | disappointed request response => exact heard .application request (.ok response)
  | admitted => exact keeps
  | told report => exact keeps
  | began asker request response _ known _ _ persists =>
      have belongs : (asker.banked turn request).Belongs key request.handler := by
        cases asker with
        | gate => exact keyed
        | application => exact ⟨rfl, rfl, keyed⟩
      have whole : (Flow.active request.handler (some (asker.banked turn request))).Belongs
          auth.dispatcher.contains key := ⟨known, belongs⟩
      exact (heard asker request (.ok response)).persists whole persists
  | handedOn handler banked exchange response activity queue _ _ _ persists =>
      have queued : KeepsWhole auth.dispatcher.contains key
          ((view.hear .gate turn ⟨handler, false, exchange⟩ (.ok response)).enqueue turn activity
            queue).documents
          ((view.hear .gate turn ⟨handler, false, exchange⟩ (.ok response)).enqueue turn activity
            queue).state :=
        heard .gate _ (.ok response)
      exact queued.persists idle persists
  | proceeded handler trigger exchange response _ _ _ persists =>
      exact (heard .gate _ (.ok response)).persists idle persists
  | gaveUp handler trigger exchange response now _ _ persists =>
      exact (heard .gate _ (.ok response)).persists idle persists
  | settled flow request response report _ _ _ persists =>
      exact (heard .gate request (.ok response)).persists idle persists
  | parted way handler outcome other => exact parted way handler outcome
  | withdrawn way handler banked _ persists =>
      exact (parted way handler (.ok ())).persists idle persists
  | set name value foreign =>
      obtain ⟨notHandler, notBanked⟩ := (Flow.foreign_iff name).mp foreign
      exact ⟨keeps.own, keeps.stored, keeps.held.congr
        (UserState.lookup_set_of_ne _ _ notHandler.symm)
        (UserState.lookup_set_of_ne _ _ notBanked.symm)⟩
  | remove name foreign =>
      obtain ⟨notHandler, notBanked⟩ := (Flow.foreign_iff name).mp foreign
      exact ⟨(UserState.remove_key _).trans keeps.own, keeps.stored, keeps.held.congr
        (UserState.lookup_remove_of_ne _ notHandler.symm)
        (UserState.lookup_remove_of_ne _ notBanked.symm)⟩
  | saved => exact keeps.saved turn

theorem comes {auth : Authenticator σ} {turn : Turn} {after : View}
    (keeps : KeepsWhole auth.dispatcher.contains key view.documents view.state)
    (keyed : turn.activity.userKey = .ok key) (comes : Call.Comes auth turn view after) :
    KeepsWhole auth.dispatcher.contains key after.documents after.state := by
  rcases comes with reaches | completes
  · induction reaches with
    | refl => exact keeps
    | tail _ step ih => exact ih.step keyed step
  · cases completes with
    | nothing => exact keeps
    | reported => exact keeps

end KeepsWhole

/-! ## Over all turns -/

namespace Sessions

/-- What every command keeps: whole documents, and a whole state under the key of each turn. -/
structure Whole (registered : String → Bool) (sessions : Sessions σ) : Prop where
  stored : ∀ user document, (user, document) ∈ sessions.world.documents →
    WholeDocument registered user document
  held : ∀ session ∈ sessions.turns, session.turn.activity.userKey = .ok session.state.key ∧
    WholeFlow registered session.state.key session.state.properties

/-- Properties that are read from whole documents have a whole flow. -/
theorem wholeFlow_of_propertiesOf {documents : Dictionary Json} {properties : Dictionary Json}
    (stored : ∀ user document, (user, document) ∈ documents →
      WholeDocument registered user document)
    (read : UserState.propertiesOf key (List.lookup key documents) = .ok properties) :
    WholeFlow registered key properties := by
  cases found : List.lookup key documents with
  | none =>
      rw [found] at read
      cases read
      exact wholeFlow_nil
  | some document =>
      obtain ⟨before, later, documents_eq, -⟩ := List.lookup_eq_some_iff.mp found
      obtain ⟨whole, rfl, flow⟩ := stored key document (by simp [documents_eq])
      rw [found] at read
      cases read
      exact flow

variable {auth : Authenticator σ} {services : Services σ} {sessions : Sessions σ}

theorem Whole.advance (whole : Whole auth.dispatcher.contains sessions) (command : Command σ) :
    Whole auth.dispatcher.contains (sessions.advance auth services command) := by
  cases command with
  | begin turn cancelled =>
      simp only [Sessions.advance]
      have ends := ends_loadStored services turn.activity sessions.world
      cases loaded : UserState.load services turn.activity sessions.world with
      | error error world =>
          refine ⟨?_, whole.held⟩
          rw [show world.documents = sessions.world.documents from ends.of_error loaded]
          exact whole.stored
      | ok state world =>
          obtain ⟨keyed, read, documents_eq⟩ := ends.of_ok loaded
          refine ⟨?_, ?_⟩
          · rw [documents_eq]
            exact whole.stored
          · intro session member
            rcases List.mem_append.mp member with open_ | new
            · exact whole.held session open_
            · rw [List.mem_singleton.mp new]
              exact ⟨keyed, wholeFlow_of_propertiesOf whole.stored read⟩
  | call index call =>
      simp only [Sessions.advance]
      cases chosen : sessions.turns[index]? with
      | none => exact whole
      | some session =>
          have member : session ∈ sessions.turns := List.mem_of_getElem? chosen
          obtain ⟨keyed, held⟩ := whole.held session member
          obtain ⟨view, after, documents, state, comes, documents_eq, state_eq⟩ :=
            Call.comes_of_perform auth services session.turn call
              ⟨sessions.world, session.state, session.cancelled⟩
          have before : KeepsWhole auth.dispatcher.contains session.state.key view.documents
              view.state := by
            rw [documents, state]
            exact ⟨rfl, whole.stored, held⟩
          have keeps := before.comes keyed comes
          rw [← documents_eq, ← state_eq] at keeps
          refine ⟨keeps.stored, ?_⟩
          intro other among
          rcases List.mem_or_eq_of_mem_set among with old | rfl
          · exact whole.held other old
          · rw [keeps.own]
            exact ⟨keyed, keeps.held⟩
  | elsewhere tokens queue host => exact ⟨whole.stored, whole.held⟩

theorem Whole.run (whole : Whole auth.dispatcher.contains sessions) (commands : List (Command σ)) :
    Whole auth.dispatcher.contains (sessions.run auth services commands) := by
  induction commands generalizing sessions with
  | nil => exact whole
  | cons command rest ih => exact ih (whole.advance command)

end Sessions

/-- Whatever turns overlap, whatever handlers answer and wherever an access, a message or a callback
fails, every document that is stored keeps both parts of a flow or none, and a flow in it can be
read again: its handler is registered, and what is banked belongs to the handler and to the user of
the document. -/
theorem stored_document_whole (auth : Authenticator σ) (services : Services σ) (host : σ)
    (commands : List (Command σ)) {key : String} {document : Json}
    (stored : (key, document) ∈
      (Sessions.run auth services ⟨World.initial host, []⟩ commands).world.documents) :
    WholeDocument auth.dispatcher.contains key document := by
  have start : Sessions.Whole auth.dispatcher.contains ⟨World.initial host, []⟩ := by
    refine ⟨fun user document member => ?_, fun session member => ?_⟩
    · cases member
    · cases member
  exact (start.run commands).stored key document stored

/-- Two turns of one user overlap at the sample site: both begin before one of them starts a flow,
and the other one passes the gate without having seen it. -/
def overlap : List (Command Nat) :=
  [.begin ⟨.message "chat" "ada" "room" "sign in", false⟩ false,
    .begin ⟨.message "chat" "ada" "room" "42", false⟩ false,
    .call 0 (.conduct (.signIn "code" none .finish)),
    .call 1 (.gate none)]

/-- The flow of the first turn is stored whole. -/
theorem overlap_document_whole : ∃ key document,
    (key, document) ∈ (Sessions.run Site.sample.auth Site.sample.services ⟨World.initial 0, []⟩
      overlap).world.documents ∧
        WholeDocument Site.sample.auth.dispatcher.contains key document := by
  have kept : (Sessions.run Site.sample.auth Site.sample.services ⟨World.initial 0, []⟩
      overlap).world.documents.isEmpty = false := by
    decide +kernel
  cases documents : (Sessions.run Site.sample.auth Site.sample.services ⟨World.initial 0, []⟩
      overlap).world.documents with
  | nil =>
      rw [documents] at kept
      cases kept
  | cons entry rest =>
      have stored : (entry.1, entry.2) ∈ (Sessions.run Site.sample.auth Site.sample.services
          ⟨World.initial 0, []⟩ overlap).world.documents := by
        rw [documents]
        exact List.mem_cons_self
      exact ⟨entry.1, entry.2, List.mem_cons_self,
        stored_document_whole Site.sample.auth Site.sample.services 0 overlap stored⟩

end SignInFlow
