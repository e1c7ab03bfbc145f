import Mathlib.Data.List.Infix
import SignInFlow.Proofs.Sessions

/-!
# Users and their keys

The key of a user is the channel and the sender's id with a separator between them, and either of
the two may contain the separator as well.  So two users can have one key, but only if they straddle
it.  Users who do not are strangers: neither loads, overwrites or continues what is stored for the
other, however their turns overlap.
-/

namespace SignInFlow

variable {σ α : Type}

namespace Activity

/-- The same sender's id on the same channel. -/
def SameUser (activity other : Activity) : Prop :=
  activity.channel = other.channel ∧ activity.sender.id = other.sender.id

instance (activity other : Activity) : Decidable (activity.SameUser other) :=
  inferInstanceAs (Decidable (_ ∧ _))

/-- The users of two activities divide one key in different places, the first one earlier. -/
inductive Straddles (activity other : Activity) : Prop where
  /-- Each separator stands in what the other user takes for one name. -/
  | apart (between : String)
      (channel : other.channel = activity.channel ++ "/users/" ++ between)
      (sender : activity.sender.id = between ++ "/users/" ++ other.sender.id)
  /-- The two separators have a slash in common. -/
  | touching (channel : other.channel = activity.channel ++ "/users")
      (sender : activity.sender.id = "users/" ++ other.sender.id)

/-- The users of two activities differ, and do not straddle a key. -/
structure Stranger (activity other : Activity) : Prop where
  differs : ¬ activity.SameUser other
  before : ¬ activity.Straddles other
  after : ¬ other.Straddles activity

/-! ## Where keys agree -/

/-- Two separators that begin within one another leave a text between them, or share a slash. -/
theorem separators_overlap {middle first second : List Char}
    (same : "/users/".toList ++ first = middle ++ ("/users/".toList ++ second)) :
    middle = [] ∧ first = second ∨
      middle = "/users".toList ∧ first = "users/".toList ++ second ∨
        ∃ between, middle = "/users/".toList ++ between ∧
          first = between ++ ("/users/".toList ++ second) := by
  rcases List.append_eq_append_iff.mp same with
    ⟨between, beyond, rest⟩ | ⟨overlap, separator, rest⟩
  · exact .inr (.inr ⟨between, beyond, rest⟩)
  · -- The second separator begins at one of the characters of the first, or right behind it.
    have within : middle ∈ "/users/".toList.inits :=
      (List.mem_inits _ _).mpr ⟨overlap, separator.symm⟩
    simp at within
    rcases within with rfl | rfl | rfl | rfl | rfl | rfl | rfl | rfl <;> simp at separator <;>
      subst separator <;> simp_all

variable {activity other : Activity}

/-- If the channel of one user begins the channel of another and both have one key, then they are
the same user, or the key is straddled. -/
theorem sameUser_or_straddles {middle : List Char}
    (channel : other.channel.toList = activity.channel.toList ++ middle)
    (rest : "/users/".toList ++ activity.sender.id.toList =
      middle ++ ("/users/".toList ++ other.sender.id.toList)) :
    activity.SameUser other ∨ activity.Straddles other := by
  rcases separators_overlap rest with ⟨rfl, sender⟩ | ⟨rfl, sender⟩ | ⟨between, rfl, sender⟩
  · rw [List.append_nil] at channel
    exact .inl ⟨(String.toList_inj.mp channel).symm, String.toList_inj.mp sender⟩
  · refine .inr (.touching ?_ ?_) <;> rw [← String.toList_inj, String.toList_append]
    · exact channel
    · exact sender
  · refine .inr (.apart (.ofList between) ?_ ?_) <;>
      rw [← String.toList_inj, String.toList_append, String.toList_append, List.append_assoc]
    · simpa using channel
    · simpa using sender

theorem Straddles.key_eq (straddles : activity.Straddles other) :
    activity.channel ++ "/users/" ++ activity.sender.id =
      other.channel ++ "/users/" ++ other.sender.id := by
  cases straddles with
  | apart between channel sender =>
      rw [channel, sender]
      simp only [String.append_assoc]
  | touching channel sender =>
      have shared (rest : String) :
          "/users/" ++ ("users/" ++ rest) = "/users" ++ ("/users/" ++ rest) := by
        rw [← String.append_assoc, ← String.append_assoc]
        rfl
      rw [channel, sender]
      simp only [String.append_assoc, shared]

theorem userKey_eq {key : String} (keyed : activity.userKey = .ok key) :
    key = activity.channel ++ "/users/" ++ activity.sender.id := by
  unfold userKey at keyed
  split at keyed
  · cases keyed
  · split at keyed
    · cases keyed
    · exact (Except.ok.inj keyed).symm

/-- Two keys are the same for the same user, and where they are straddled. -/
theorem userKey_eq_iff {key otherKey : String} (keyed : activity.userKey = .ok key)
    (otherKeyed : other.userKey = .ok otherKey) :
    key = otherKey ↔
      activity.SameUser other ∨ activity.Straddles other ∨ other.Straddles activity := by
  rw [userKey_eq keyed, userKey_eq otherKeyed]
  constructor
  · intro same
    rw [← String.toList_inj] at same
    simp only [String.toList_append, List.append_assoc] at same
    rcases List.append_eq_append_iff.mp same with
      ⟨middle, channel, rest⟩ | ⟨middle, channel, rest⟩
    · rcases sameUser_or_straddles channel rest with same | straddles
      · exact .inl same
      · exact .inr (.inl straddles)
    · rcases sameUser_or_straddles channel rest with same | straddles
      · exact .inl ⟨same.1.symm, same.2.symm⟩
      · exact .inr (.inr straddles)
  · rintro (⟨channel, sender⟩ | straddles | straddles)
    · rw [channel, sender]
    · exact straddles.key_eq
    · exact straddles.key_eq.symm

theorem Stranger.userKey_ne (stranger : activity.Stranger other) {key : String}
    (otherKeyed : other.userKey = .ok key) : activity.userKey ≠ .ok key := by
  intro keyed
  rcases (userKey_eq_iff keyed otherKeyed).mp rfl with same | straddles | straddles
  · exact stranger.differs same
  · exact stranger.before straddles
  · exact stranger.after straddles

/-- Nobody without a slash in the sender's id begins a key that is straddled. -/
theorem not_straddles_of_slashless (slashless : '/' ∉ activity.sender.id.toList) :
    ¬ activity.Straddles other := by
  rintro (⟨between, channel, sender⟩ | ⟨channel, sender⟩) <;> simp [sender] at slashless

end Activity

/-! ## Worlds that differ for one user -/

/-- Two worlds in which two given documents, or none, are stored under a key, and which are the same
in everything else. -/
structure World.Differ (key : String) (document otherDocument : Option Json)
    (world other : World σ) : Prop where
  document : List.lookup key world.documents = document
  otherDocument : List.lookup key other.documents = otherDocument
  documents : ∀ name, name ≠ key →
    List.lookup name world.documents = List.lookup name other.documents
  tokens : world.tokens = other.tokens
  metrics : world.metrics = other.metrics
  queue : world.queue = other.queue
  host : world.host = other.host

section

variable {key own : String} {document otherDocument : Option Json}

/-- The turns of others change neither document, and nothing else differently. -/
theorem storing_differ (turn : Turn) (apart : own ≠ key) :
    Storing turn own (fun _ => True) (World.Differ key document otherDocument) where
  own := trivial
  address _ _ _ _ _ := trivial
  document _ _ differ := differ.documents own apart
  within _ _ _ _ _ _ _ := trivial
  token _ _ differ _ := congrArg (TokenCache.get? · _ _) differ.tokens
  receiving _ _ differ := congrArg ReplayQueue.receiving differ.queue
  write := by
    rintro stock other state differ rfl -
    refine { differ with document := ?_, otherDocument := ?_, documents := fun name away => ?_ }
    · rw [UserState.lookup_writing_of_ne _ _ apart.symm]
      exact differ.document
    · rw [UserState.lookup_writing_of_ne _ _ apart.symm]
      exact differ.otherDocument
    · by_cases same : name = state.key
      · rw [same, UserState.lookup_writing_self, UserState.lookup_writing_self]
      · rw [UserState.lookup_writing_of_ne _ _ same, UserState.lookup_writing_of_ne _ _ same]
        exact differ.documents name away
  keep _ _ handler token differ :=
    { differ with tokens := congrArg (TokenCache.insert · _ handler token) differ.tokens }
  drop _ _ handler differ :=
    { differ with tokens := congrArg (TokenCache.remove · _ handler) differ.tokens }
  enqueue := by
    intro stock other activity queue otherQueue differ _ accepted otherAccepted
    rw [differ.queue, otherAccepted] at accepted
    exact { differ with queue := (Except.ok.inj accepted).symm }
  count _ _ metric differ := { differ with metrics := congrArg (· ++ [metric]) differ.metrics }

/-! ## One host twice -/

theorem agrees_eq (call : EStateM Error σ α) : Agrees Eq call call := by
  rintro host _ rfl
  cases call host with
  | ok value after => exact .ok value rfl
  | error error after => exact .error error rfl

theorem agrees_visit_eq (call : HostCall σ α) : Agrees (Visit.Alike Eq) call call := by
  rintro ⟨host, cancelled⟩ ⟨_, _⟩ ⟨rfl, rfl⟩
  cases call ⟨host, cancelled⟩ with
  | ok value after => exact .ok value ⟨rfl, rfl⟩
  | error error after => exact .error error ⟨rfl, rfl⟩

theorem Parallel.refl (auth : Authenticator σ) (services : Services σ) (turn : Turn) (key : String)
    (owns : Activity → Prop) : Parallel turn key owns Eq auth auth services services where
  settings := rfl
  defaultHandler := rfl
  names := rfl
  contains := rfl
  policy := agrees_visit_eq _
  signIn _ := agrees_visit_eq _
  signOut _ := agrees_visit_eq _
  reset _ := agrees_visit_eq _
  onSuccess := by
    cases auth.onSuccess with
    | none => exact .none
    | some callback => exact .some fun report => agrees_visit_eq _
  onFailure := by
    cases auth.onFailure with
    | none => exact .none
    | some callback => exact .some fun report => agrees_visit_eq _
  permit _ _ := agrees_eq _
  note _ _ _ _ same := congrArg _ same
  send _ _ := agrees_eq _
  clock _ _ same := congrArg _ same

theorem Conduct.alike_self (conduct : Conduct σ) : conduct.Alike Eq conduct := by
  induction conduct with
  | finish outcome => exact .finish outcome
  | signIn handler exchange next ih => exact .signIn handler exchange ih
  | signOut handler next ih => exact .signOut handler ih
  | reset handler next ih => exact .reset handler ih
  | token handler next ih => exact .token handler ih
  | look next ih => exact .look ih
  | set name value foreign next ih => exact .set name value foreign ih
  | remove name foreign next ih => exact .remove name foreign ih
  | save next ih => exact .save ih
  | call action next ih => exact .call (agrees_visit_eq action) ih

/-- One host twice, with two stores. -/
abbrev Sides.twice (σ : Type) (own : String) (stores : World Unit → World Unit → Prop) :
    Sides σ σ where
  key := own
  owns := fun _ => True
  hosts := Eq
  stores := stores

variable (auth : Authenticator σ) (services : Services σ)

/-- A call comes to the same whatever its turn does not see of the store. -/
theorem Call.agrees_perform {turn : Turn} {stores : World Unit → World Unit → Prop}
    (storing : Storing turn own (fun _ => True) stores) (call : Call σ) :
    Agrees (Sides.twice σ own stores).Scopes (call.perform auth services turn)
      (call.perform auth services turn) := by
  have parallel := Parallel.refl auth services turn own fun _ => True
  cases call with
  | gate handler =>
      exact (Parallel.agrees_startOrContinue parallel storing handler).bind fun _ => agrees_pure ()
  | conduct asked => exact Parallel.agrees_perform parallel storing asked.alike_self
  | completion => exact Parallel.agrees_handleCompletion parallel

/-- What a call leaves on both sides is related as what it began with. -/
theorem Call.remains_perform {turn : Turn} {stores : World Unit → World Unit → Prop}
    (storing : Storing turn own (fun _ => True) stores) (call : Call σ) {scope other : Scope σ}
    (kept : (Sides.twice σ own stores).Scopes scope other) :
    (Sides.twice σ own stores).Scopes (remains (call.perform auth services turn scope))
      (remains (call.perform auth services turn other)) := by
  obtain ⟨_, _, _, ends, otherEnds, left⟩ | ⟨_, _, _, ends, otherEnds, left⟩ :=
    (call.agrees_perform auth services storing scope other kept).cases
  all_goals
    rw [ends, otherEnds]
    exact left

/-- A call works on the user of its turn to the end. -/
theorem Call.key_perform (turn : Turn) (call : Call σ) (scope : Scope σ) :
    (remains (call.perform auth services turn scope)).state.key = scope.state.key :=
  (call.remains_perform auth services (storing_eq turn scope.state.key)
    ⟨⟨rfl, rfl⟩, rfl, rfl, rfl, fun _ _ _ _ => trivial⟩).keyed

/-- A turn of another user loads the same. -/
theorem World.Differ.load {world other : World σ}
    (differ : Differ key document otherDocument world other) {activity : Activity}
    (apart : activity.userKey ≠ .ok key) :
    ResultsAgree (Differ key document otherDocument) (UserState.load services activity world)
      (UserState.load services activity other) := by
  cases keyed : activity.userKey with
  | error error =>
      change ResultsAgree _ (EStateM.bind (MonadExcept.ofExcept activity.userKey) _ world)
        (EStateM.bind (MonadExcept.ofExcept activity.userKey) _ other)
      rw [keyed]
      exact .error error differ
  | ok own =>
      have away : own ≠ key := by
        rintro rfl
        exact apart keyed
      rw [UserState.load_eq _ keyed, UserState.load_eq _ keyed, ← differ.host,
        ← differ.documents own away]
      cases services.permit (.read [own]) world.host with
      | error error host => exact .error error { differ with host := rfl }
      | ok _ host =>
          cases UserState.propertiesOf own (List.lookup own world.documents) with
          | error error => exact .error error { differ with host := rfl }
          | ok properties => exact .ok _ { differ with host := rfl }

end

/-! ## Turns of strangers -/

namespace Sessions

variable (auth : Authenticator σ) (services : Services σ)

/-- Every turn in progress works on the state of its own user. -/
def Keyed (sessions : Sessions σ) : Prop :=
  ∀ session ∈ sessions.turns, session.turn.activity.userKey = .ok session.state.key

/-- What happens next is a turn of some users, or a call of one, or no matter of users. -/
def IsOf (users : Activity → Prop) (sessions : Sessions σ) : Command σ → Prop
  | .begin turn _ => users turn.activity
  | .call index _ => ∀ session, sessions.turns[index]? = some session → users session.turn.activity
  | .elsewhere _ _ _ => True

/-- All that happens from some moment on is of some users. -/
def AllOf (users : Activity → Prop) (sessions : Sessions σ) : List (Command σ) → Prop
  | [] => True
  | command :: rest =>
      sessions.IsOf users command ∧ AllOf users (advance auth services sessions command) rest

theorem keyed_advance {sessions : Sessions σ} (keyed : sessions.Keyed) (command : Command σ) :
    (sessions.advance auth services command).Keyed := by
  cases command with
  | elsewhere tokens queue host => exact keyed
  | begin turn cancelled =>
      simp only [advance]
      have loads := ends_loadStored services turn.activity sessions.world
      cases loaded : UserState.load services turn.activity sessions.world with
      | error error after => exact keyed
      | ok state after =>
          intro session member
          rcases List.mem_append.mp member with earlier | new
          · exact keyed session earlier
          · rw [List.mem_singleton.mp new]
            exact (loads.of_ok loaded).1
  | call index call =>
      simp only [advance]
      cases chosen : sessions.turns[index]? with
      | none => exact keyed
      | some session =>
          intro other member
          rcases List.mem_or_eq_of_mem_set member with earlier | rfl
          · exact keyed other earlier
          · rw [call.key_perform]
            exact keyed session (List.mem_of_getElem? chosen)

theorem keyed_run {sessions : Sessions σ} (keyed : sessions.Keyed) (commands : List (Command σ)) :
    (sessions.run auth services commands).Keyed := by
  induction commands generalizing sessions with
  | nil => exact keyed
  | cons command rest ih => exact ih (keyed_advance auth services keyed command)

section

variable {auth services} {key : String} {document otherDocument : Option Json}
  {users : Activity → Prop} (apart : ∀ activity, users activity → activity.userKey ≠ .ok key)

/-- The same turns are in progress, in worlds that differ for one user alone. -/
structure Twins (key : String) (document otherDocument : Option Json)
    (sessions other : Sessions σ) : Prop where
  world : World.Differ key document otherDocument sessions.world other.world
  turns : sessions.turns = other.turns

include apart

/-- One command of other users does the same in both worlds. -/
theorem Twins.advance {sessions other : Sessions σ}
    (twins : Twins key document otherDocument sessions other) (keyed : sessions.Keyed)
    {command : Command σ} (isOf : sessions.IsOf users command) :
    Twins key document otherDocument (sessions.advance auth services command)
      (other.advance auth services command) := by
  cases command with
  | elsewhere tokens queue host =>
      exact ⟨{ twins.world with tokens := rfl, queue := rfl, host := rfl }, twins.turns⟩
  | begin turn cancelled =>
      simp only [Sessions.advance]
      obtain ⟨state, _, _, ends, otherEnds, differ⟩ | ⟨error, _, _, ends, otherEnds, differ⟩ :=
        (twins.world.load services (apart _ isOf)).cases
      · rw [ends, otherEnds]
        exact ⟨differ, congrArg (· ++ _) twins.turns⟩
      · rw [ends, otherEnds]
        exact ⟨differ, twins.turns⟩
  | call index call =>
      simp only [Sessions.advance, ← twins.turns]
      cases chosen : sessions.turns[index]? with
      | none => exact twins
      | some session =>
          have own := keyed session (List.mem_of_getElem? chosen)
          have away : session.state.key ≠ key := by
            intro same
            exact apart _ (isOf session chosen) (same ▸ own)
          have start : (Sides.twice σ session.state.key
              (World.Differ key document otherDocument)).Scopes
              ⟨sessions.world, session.state, session.cancelled⟩
              ⟨other.world, session.state, session.cancelled⟩ :=
            ⟨⟨twins.world.host, { twins.world with host := rfl }⟩, rfl, rfl, rfl,
              fun _ _ _ _ => trivial⟩
          have left := call.remains_perform auth services (storing_differ session.turn away) start
          refine ⟨{ left.worlds.stock with host := left.worlds.host }, ?_⟩
          simp only [left.state, left.cancelled]

/-- Whatever other users do, they do the same in both worlds. -/
theorem Twins.run {sessions other : Sessions σ}
    (twins : Twins key document otherDocument sessions other) (keyed : sessions.Keyed)
    {commands : List (Command σ)} (allOf : sessions.AllOf auth services users commands) :
    Twins key document otherDocument (sessions.run auth services commands)
      (other.run auth services commands) := by
  induction commands generalizing sessions other with
  | nil => exact twins
  | cons command rest ih =>
      exact ih (twins.advance apart keyed allOf.1) (keyed_advance auth services keyed command)
        allOf.2

end

end Sessions

/-- Keys are the same for the same user, and else only where they are straddled.  Strangers,
whatever they do and however their turns overlap with those of a user, leave what is stored for the
user as it is, and do the same whatever that is. -/
theorem user_apart_from_strangers (auth : Authenticator σ) (services : Services σ)
    {user : Activity} {key : String} (keyed : user.userKey = .ok key) :
    (∀ other otherKey, other.userKey = .ok otherKey →
      (otherKey = key ↔ other.SameUser user ∨ other.Straddles user ∨ user.Straddles other)) ∧
      ∀ (world : World σ) (before commands : List (Command σ)),
        let sessions := Sessions.run auth services ⟨world, []⟩ before
        sessions.AllOf auth services (·.Stranger user) commands →
          ∀ (document : Option Json) (elsewhere : World σ),
            World.Differ key (List.lookup key sessions.world.documents) document sessions.world
              elsewhere →
            Sessions.Twins key (List.lookup key sessions.world.documents) document
              (sessions.run auth services commands)
              (Sessions.run auth services ⟨elsewhere, sessions.turns⟩ commands) := by
  refine ⟨fun other otherKey otherKeyed => Activity.userKey_eq_iff otherKeyed keyed, ?_⟩
  intro world before commands sessions strangers document elsewhere differ
  have begun : sessions.Keyed :=
    Sessions.keyed_run auth services (fun session member => by cases member) before
  have twins : Sessions.Twins key (List.lookup key sessions.world.documents) document sessions
      ⟨elsewhere, sessions.turns⟩ := ⟨differ, rfl⟩
  exact twins.run (fun activity stranger => stranger.userKey_ne keyed) begun strangers

/-- A turn in which a user asks the sample site for a sign-in. -/
def asking (channel user : String) : Turn := ⟨.message channel user "room" "sign in", false⟩

/-- A user of the sample site has signed in, and the flow is pending. -/
def adaAsks : List (Command Nat) :=
  [.begin (asking "chat" "ada") false, .call 0 (.conduct (.signIn "code" none .finish))]

/-- Another user does so too. -/
def bobAsks : List (Command Nat) :=
  [.begin (asking "chat" "bob") false, .call 1 (.conduct (.signIn "code" none .finish))]

/-- What the sample site has come to after the first user. -/
def adaAsked : Sessions Nat :=
  Sessions.run Site.sample.auth Site.sample.services ⟨World.initial 0, []⟩ adaAsks

/-- The second user signs in the same, whether or not anything is stored for the first. -/
theorem bob_apart_from_ada :
    (asking "chat" "ada").activity.userKey = .ok "chat/users/ada" ∧
      Flow.banks adaAsked.world.documents "chat/users/ada" = true ∧
      Sessions.Twins "chat/users/ada" (List.lookup "chat/users/ada" adaAsked.world.documents) none
        (adaAsked.run Site.sample.auth Site.sample.services bobAsks)
        (Sessions.run Site.sample.auth Site.sample.services
          ⟨{ adaAsked.world with documents := adaAsked.world.documents.drop "chat/users/ada" },
            adaAsked.turns⟩ bobAsks) := by
  have keyed : (asking "chat" "ada").activity.userKey = .ok "chat/users/ada" := by rfl
  have banks : Flow.banks adaAsked.world.documents "chat/users/ada" = true := by decide +kernel
  have stranger : (asking "chat" "bob").activity.Stranger (asking "chat" "ada").activity :=
    ⟨by decide, Activity.not_straddles_of_slashless (by decide),
      Activity.not_straddles_of_slashless (by decide)⟩
  have strangers : adaAsked.AllOf Site.sample.auth Site.sample.services
      (·.Stranger (asking "chat" "ada").activity) bobAsks := by
    refine ⟨stranger, fun session chosen => ?_, trivial⟩
    have turn : some (asking "chat" "bob") = some session.turn :=
      congrArg (Option.map Session.turn) chosen
    rw [← Option.some.inj turn]
    exact stranger
  obtain ⟨-, apart⟩ := user_apart_from_strangers Site.sample.auth Site.sample.services keyed
  refine ⟨keyed, banks, apart (World.initial 0) adaAsks bobAsks strangers none _ ?_⟩
  exact
    { document := rfl
      otherDocument := Dictionary.lookup_drop_self _ _
      documents := fun name away => (Dictionary.lookup_drop_of_ne away _).symm
      tokens := rfl
      metrics := rfl
      queue := rfl
      host := rfl }

/-- One user of the sample site asks for a sign-in, and the next turn, which passes the gate, is of
another user, on another channel. -/
def straddling : List (Command Nat) :=
  [.begin (asking "chat" "lobby/users/ada") false,
    .call 0 (.conduct (.signIn "code" none .finish)),
    .begin (asking "chat/users/lobby" "ada") false, .call 1 (.gate none)]

/-- What the sample site has come to after some of it. -/
def straddled (commands : Nat) : World Nat :=
  (Sessions.run Site.sample.auth Site.sample.services ⟨World.initial 0, []⟩
    (straddling.take commands)).world

/-- Two users who straddle a key have one state: what is stored for the first one is loaded,
continued and cleared in the turn of the second, who gets the token. -/
theorem straddling_users_share :
    ¬ (asking "chat" "lobby/users/ada").activity.SameUser
        (asking "chat/users/lobby" "ada").activity ∧
      (asking "chat" "lobby/users/ada").activity.userKey = .ok "chat/users/lobby/users/ada" ∧
      (asking "chat/users/lobby" "ada").activity.userKey = .ok "chat/users/lobby/users/ada" ∧
      Flow.banks (straddled 2).documents "chat/users/lobby/users/ada" = true ∧
      Flow.banks (straddled 4).documents "chat/users/lobby/users/ada" = false ∧
      (straddled 4).tokens = [⟨"ada", "code", "token"⟩] ∧
      (straddled 4).queue.waiting.map (·.sender.id) = ["lobby/users/ada"] := by
  refine ⟨by decide, rfl, rfl, ?_⟩
  decide +kernel

end SignInFlow
