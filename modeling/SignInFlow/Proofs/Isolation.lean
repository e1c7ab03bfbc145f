import SignInFlow.Proofs.Households
import SignInFlow.Proofs.Replays

/-!
# Users apart

All users share one store, one token cache, one queue and one worker.  If no sender's id belongs
under two keys, and the host answers the turns of a user as if nobody else were there, the other
users may as well be absent: the user's turns come to the same without theirs, one by one.
-/

namespace SignInFlow

variable {σ υ α : Type}

/-! ## Turns one by one -/

/-- A turn that is about to be processed. -/
structure Opening (σ : Type) where
  /-- The turn. -/
  turn : Turn
  /-- Whether it is cancelled from the start. -/
  cancelled : Bool
  /-- The world that it finds. -/
  world : World σ

namespace Deployment

variable (deployment : Deployment σ) (world : World σ)

/-- The world once the worker has taken an activity off the queue and left the rest. -/
def taken (activity : Activity) (rest : List Activity) : World σ :=
  { world with
    queue := { world.queue with waiting := rest }
    host := (deployment.services ⟨activity, true⟩).openSender activity world.host }

/-- The turn that something that happens comes down to, if any. -/
def opening : Input → Option (Opening σ)
  | .arrival activity cancelled => some ⟨⟨activity, false⟩, cancelled, world⟩
  | .delivery =>
      match world.queue.waiting with
      | [] => none
      | activity :: rest => some ⟨⟨activity, true⟩, false, deployment.taken world activity rest⟩

/-- The world after a turn has been processed. -/
def close (opening : Opening σ) : World σ :=
  match deployment.process opening.turn opening.cancelled opening.world with
  | .ok _ after => conclude opening.turn true after
  | .error _ after => conclude opening.turn false after

/-- Whatever happens is one turn at most. -/
theorem advance_eq (input : Input) : deployment.advance world input =
    match deployment.opening world input with
    | some opening => deployment.close opening
    | none => world := by
  cases input with
  | arrival activity cancelled =>
      simp only [advance, opening, close]
      cases deployment.process ⟨activity, false⟩ cancelled world <;> rfl
  | delivery =>
      simp only [advance, opening]
      cases waiting : world.queue.waiting with
      | nil => rfl
      | cons activity rest =>
          simp only [Replay.step, ReplayQueue.take?, waiting, Option.map_some, Option.getD_some,
            Replay.dispatch, close, conclude, if_true]
          rfl

theorem run_cons {deployment : Deployment σ} {world : World σ} {input : Input}
    {opening : Opening σ} (opens : deployment.opening world input = some opening)
    (rest : List Input) :
    deployment.run world (input :: rest) = deployment.run (deployment.close opening) rest := by
  simp only [run, List.foldl_cons, advance_eq, opens]

end Deployment

/-- What comes of a turn: its outcome and all that the host has seen of it, the latest first. -/
structure Episode where
  /-- The turn. -/
  turn : Turn
  /-- The outcome. -/
  outcome : Except Error Unit
  /-- What the host has seen of it. -/
  seen : List Event

/-- The sender of what arrives is at home. -/
def Input.AtHome (home : String → String → Prop) : Input → Prop
  | .arrival activity _ => ∀ key, activity.userKey = .ok key → home activity.sender.id key
  | .delivery => True

namespace Site

variable (site : Site σ)

/-- What comes of a turn that is processed. -/
def episode (opening : Opening σ) : Episode :=
  match site.recorded.process opening.turn opening.cancelled opening.world.blank with
  | .ok _ after => ⟨opening.turn, .ok (), after.host.log⟩
  | .error error after => ⟨opening.turn, .error error, after.host.log⟩

/-- What comes of all turns of a run. -/
def episodes (world : World σ) : List Input → List Episode
  | [] => []
  | input :: rest =>
      ((site.deployment.opening world input).map site.episode).toList ++
        episodes (site.deployment.advance world input) rest

/-- What remains of a run when all turns are deleted but those of the user of a key. -/
def only (key : String) (world : World σ) : List Input → List Input
  | [] => []
  | input :: rest =>
      let later := only key (site.deployment.advance world input) rest
      if (site.deployment.opening world input).any (·.turn.isOf key) then input :: later else later

section

variable {site} {key : String} {world : World σ} {input : Input} {rest : List Input}

@[simp] theorem episode_turn (opening : Opening σ) :
    (site.episode opening).turn = opening.turn := by
  unfold episode
  cases site.recorded.process opening.turn opening.cancelled opening.world.blank <;> rfl

theorem episodes_cons {opening : Opening σ}
    (opens : site.deployment.opening world input = some opening) :
    site.episodes world (input :: rest) =
      site.episode opening :: site.episodes (site.deployment.close opening) rest := by
  simp only [episodes, Deployment.advance_eq, opens, Option.map_some, Option.toList_some,
    List.singleton_append]

theorem only_cons_of_own {opening : Opening σ}
    (opens : site.deployment.opening world input = some opening)
    (isOf : opening.turn.isOf key = true) :
    site.only key world (input :: rest) =
      input :: site.only key (site.deployment.close opening) rest := by
  simp only [only, Deployment.advance_eq, opens, Option.any_some, isOf, if_true]

theorem only_cons_of_apart
    (apart : (site.deployment.opening world input).any (·.turn.isOf key) = false) :
    site.only key world (input :: rest) =
      site.only key (site.deployment.advance world input) rest := by
  simp only [only, apart, Bool.false_eq_true, if_false]

theorem filter_episodes_of_apart
    (apart : (site.deployment.opening world input).any (·.turn.isOf key) = false) :
    (site.episodes world (input :: rest)).filter (·.turn.isOf key) =
      (site.episodes (site.deployment.advance world input) rest).filter (·.turn.isOf key) := by
  cases opens : site.deployment.opening world input with
  | none => simp only [episodes, opens, Option.map_none, Option.toList_none, List.nil_append]
  | some opening =>
      rw [opens, Option.any_some] at apart
      rw [episodes_cons opens, Deployment.advance_eq, opens,
        List.filter_cons_of_neg (by rw [episode_turn, apart]; exact Bool.false_ne_true)]

end

/-! ## Hosts that keep users apart -/

/-- The same host, which is like another: what a turn of somebody else leaves must stay like it. -/
def StaysAlike (alike : σ → σ → Prop) (part host other : σ) : Prop := host = other ∧ alike host part

/-- Hosts that have something in common answer a turn alike, and have it in common after it. -/
structure Serves (turn : Turn) (key : String) (hosts : σ → σ → Prop) : Prop where
  auth : Parallel turn key (fun activity => activity.userKey = .ok key) hosts site.auth site.auth
    site.services site.services
  conduct : (site.conduct turn).Alike hosts (site.conduct turn)
  sender : ∀ host other, hosts host other →
    hosts (site.services.openSender turn.activity host)
      (site.services.openSender turn.activity other)

/-- Hosts that are alike for the user of a key answer the turns of the user alike, and the turns of
others leave a host like any that it was like before. -/
structure Separates (key : String) (alike : σ → σ → Prop) : Prop where
  refl : ∀ host, alike host host
  own : ∀ turn, turn.activity.userKey = .ok key → site.Serves turn key alike
  others : ∀ turn other, turn.activity.userKey = .ok other → other ≠ key →
    ∀ part, site.Serves turn other (StaysAlike alike part)

section

variable {site} {turn : Turn} {key : String} {home : String → String → Prop}
  {stores : World Unit → World Unit → Prop}

/-- The two sides of a turn of a user. -/
abbrev sides (home : String → String → Prop) (key : String) (hosts : σ → σ → Prop)
    (stores : World Unit → World Unit → Prop) : Sides σ σ :=
  ⟨key, Activity.Housed home key, hosts, stores⟩

theorem Serves.parallel {hosts : σ → σ → Prop} (serves : site.Serves turn key hosts) :
    Parallel turn key (Activity.Housed home key) hosts site.auth site.auth site.services
      site.services :=
  serves.auth.mono fun _ => And.left

theorem Serves.agrees_process {hosts : σ → σ → Prop} (serves : site.Serves turn key hosts)
    (storing : Storing turn key (Activity.Housed home key) stores) (cancelled : Bool) :
    Agrees (sides home key hosts stores).Worlds (site.deployment.process turn cancelled)
      (site.deployment.process turn cancelled) := by
  have parallel : Parallel turn key (Activity.Housed home key) hosts site.auth site.auth
      site.services site.services := serves.parallel
  have application : Agrees (sides home key hosts stores).Scopes
      (site.deployment.gateway.application turn) (site.deployment.gateway.application turn) :=
    parallel.agrees_perform storing serves.conduct
  exact Parallel.agrees_process parallel storing rfl application storing.own.1 cancelled

theorem agrees_noteAdmitted {hosts : σ → σ → Prop} :
    Agrees (sides home key (Recorded.Alike hosts) stores).Scopes
      (TurnAction.noteAdmitted turn) (TurnAction.noteAdmitted turn) :=
  fun _ _ kept => .ok () { kept with
    worlds := { kept.worlds with
      host := ⟨kept.worlds.host.host, congrArg (_ :: ·) kept.worlds.host.log⟩ } }

theorem Serves.agrees_process_recorded {hosts : σ → σ → Prop} (serves : site.Serves turn key hosts)
    (storing : Storing turn key (Activity.Housed home key) stores) (cancelled : Bool) :
    Agrees (sides home key (Recorded.Alike hosts) stores).Worlds
      (site.recorded.process turn cancelled) (site.recorded.process turn cancelled) := by
  have parallel : Parallel turn key (Activity.Housed home key) hosts site.auth site.auth
      site.services site.services := serves.parallel
  have application : Agrees (sides home key (Recorded.Alike hosts) stores).Scopes
      (site.recorded.gateway.application turn) (site.recorded.gateway.application turn) :=
    agrees_noteAdmitted.bind fun _ =>
      (parallel.recorded .application).agrees_perform storing serves.conduct.recorded
  exact Parallel.agrees_process (parallel.recorded .gate) storing rfl application storing.own.1
    cancelled

end

/-! ## Steps -/

section

variable {site} {key : String} {alike : σ → σ → Prop} {home : String → String → Prop}
  (separates : site.Separates key alike)

/-- What one world holds of the user of a key among the affairs of many, another one holds. -/
abbrev Among (home : String → String → Prop) (key : String) (alike : σ → σ → Prop)
    (whole part : World σ) : Prop :=
  (sides home key alike (World.Shares home key)).Worlds whole part

/-- Counting how a turn has ended does not matter. -/
theorem Among.conclude {whole part : World σ} (among : Among home key alike whole part)
    (turn : Turn) (succeeded : Bool) :
    Among home key alike (Deployment.conclude turn succeeded whole) part := by
  unfold Deployment.conclude
  cases turn.redelivered with
  | false => exact among
  | true => exact
      { host := among.host
        stock := { among.stock with housed := { among.stock.housed with } } }

theorem Among.conclude_right {whole part : World σ} (among : Among home key alike whole part)
    (turn : Turn) (succeeded : Bool) :
    Among home key alike whole (Deployment.conclude turn succeeded part) := by
  unfold Deployment.conclude
  cases turn.redelivered with
  | false => exact among
  | true => exact { host := among.host, stock := { among.stock with } }

include separates

/-- A turn of the user comes to the same whether the affairs of others are there or not. -/
theorem Separates.close_own (turn : Turn) (cancelled : Bool) {whole part : World σ}
    (among : Among home key alike whole part) (own : turn.activity.Housed home key) :
    site.episode ⟨turn, cancelled, whole⟩ = site.episode ⟨turn, cancelled, part⟩ ∧
      Among home key alike (site.deployment.close ⟨turn, cancelled, whole⟩)
        (site.deployment.close ⟨turn, cancelled, part⟩) := by
  have agrees := (separates.own turn own.1).agrees_process_recorded (storing_of_shares own)
    cancelled whole.blank part.blank ⟨⟨among.host, rfl⟩, among.stock⟩
  have erased (world : World σ) : site.deployment.process turn cancelled world =
      seenAs World.erase (site.recorded.process turn cancelled world.blank) :=
    mirrors_process site turn cancelled world.blank
  simp only [episode, Deployment.close, erased]
  obtain ⟨_, after, otherAfter, ends, otherEnds, kept⟩ |
      ⟨error, after, otherAfter, ends, otherEnds, kept⟩ := agrees.cases
  all_goals
    rw [ends, otherEnds]
    have left : Among home key alike after.erase otherAfter.erase := ⟨kept.host.host, kept.stock⟩
    exact ⟨congrArg (Episode.mk _ _) kept.host.log, (left.conclude _ _).conclude_right _ _⟩

/-- A turn of another user leaves everything as it is for the user. -/
theorem Separates.close_other (oneHome : OneHome home) {turn : Turn} {cancelled : Bool}
    {whole part : World σ} {own : String} (among : Among home key alike whole part)
    (housed : turn.activity.Housed home own) (differs : own ≠ key) :
    Among home key alike (site.deployment.close ⟨turn, cancelled, whole⟩) part := by
  have agrees := (separates.others turn own housed.1 differs part.host).agrees_process
    (storing_of_others oneHome housed differs part.stock) cancelled whole whole
    ⟨⟨rfl, among.host⟩, rfl, among.stock⟩
  unfold Deployment.close
  obtain ⟨_, after, _, ends, -, kept⟩ | ⟨error, after, _, ends, -, kept⟩ := agrees.cases
  all_goals
    rw [ends]
    have left : Among home key alike after part := ⟨kept.host.2, kept.stock.2⟩
    exact left.conclude _ _

omit separates in
/-- A turn of nobody changes nothing. -/
theorem close_of_unkeyed {turn : Turn} {cancelled : Bool} {world : World σ} {error : Error}
    (unkeyed : turn.activity.userKey = .error error) :
    site.deployment.close ⟨turn, cancelled, world⟩ = Deployment.conclude turn false world := by
  have ends : site.deployment.process turn cancelled world = .error error world := by
    change EStateM.bind (EStateM.bind (MonadExcept.ofExcept turn.activity.userKey) _) _ world = _
    rw [unkeyed]
    rfl
  simp only [Deployment.close, ends]

/-- The worker takes the same activity of the user in both worlds. -/
theorem Separates.taken_own {activity : Activity} {rest : List Activity} {whole part : World σ}
    (among : Among home key alike whole part) (own : activity.Housed home key)
    (waiting : whole.queue.waiting = activity :: rest) :
    part.queue.waiting = activity :: rest.filter (Activity.isOf key) ∧
      Among home key alike (site.deployment.taken whole activity rest)
        (site.deployment.taken part activity (rest.filter (Activity.isOf key))) := by
  have shared : (activity :: rest).filter (Activity.isOf key) = part.queue.waiting :=
    waiting ▸ among.stock.waiting
  rw [List.filter_cons_of_pos (Activity.isOf_of_userKey own.1)] at shared
  exact ⟨shared.symm,
    { host := (separates.own ⟨activity, true⟩ own.1).sender _ _ among.host
      stock := { among.stock with
        housed := among.stock.housed.behind waiting
        waiting := rfl } }⟩

/-- What the worker takes for another user does not matter. -/
theorem Separates.taken_other {activity : Activity} {rest : List Activity} {whole part : World σ}
    {own : String} (among : Among home key alike whole part) (housed : activity.Housed home own)
    (differs : own ≠ key) (waiting : whole.queue.waiting = activity :: rest) :
    Among home key alike (site.deployment.taken whole activity rest) part := by
  have shared : (activity :: rest).filter (Activity.isOf key) = part.queue.waiting :=
    waiting ▸ among.stock.waiting
  rw [List.filter_cons_of_neg (by simp [Activity.isOf_of_ne housed.1 differs])] at shared
  exact
    { host := ((separates.others ⟨activity, true⟩ own housed.1 differs part.host).sender _ _
        ⟨rfl, among.host⟩).2
      stock := { among.stock with
        housed := among.stock.housed.behind waiting
        waiting := shared } }

/-- What happens is a turn of the user, which comes to the same in both worlds, or else it does not
matter. -/
inductive Advances (site : Site σ) (home : String → String → Prop) (key : String)
    (alike : σ → σ → Prop) (whole part : World σ) (input : Input) : Prop where
  | own (opening other : Opening σ)
      (opens : site.deployment.opening whole input = some opening)
      (otherOpens : site.deployment.opening part input = some other)
      (isOf : opening.turn.isOf key = true) (same : site.episode opening = site.episode other)
      (among : Among home key alike (site.deployment.close opening) (site.deployment.close other))
  | other (apart : (site.deployment.opening whole input).any (·.turn.isOf key) = false)
      (among : Among home key alike (site.deployment.advance whole input) part)

theorem Separates.advances_arrival (oneHome : OneHome home) {whole part : World σ}
    (among : Among home key alike whole part) {activity : Activity}
    (atHome : ∀ key, activity.userKey = .ok key → home activity.sender.id key)
    (cancelled : Bool) :
    site.Advances home key alike whole part (.arrival activity cancelled) := by
  let turn : Turn := ⟨activity, false⟩
  have advance_eq := site.deployment.advance_eq whole (.arrival activity cancelled)
  cases keyed : activity.userKey with
  | error error =>
      refine .other (by simp [Deployment.opening, Turn.isOf, keyed]) ?_
      rw [advance_eq]
      simp only [Deployment.opening]
      rw [close_of_unkeyed keyed]
      exact among
  | ok own =>
      have housed : turn.activity.Housed home own := ⟨keyed, atHome own keyed⟩
      by_cases same : own = key
      · subst same
        obtain ⟨episode, left⟩ := separates.close_own turn cancelled among housed
        exact .own _ _ rfl rfl (by simp [Turn.isOf, keyed]) episode left
      · refine .other (by simp [Deployment.opening, Turn.isOf, keyed, same]) ?_
        rw [advance_eq]
        exact separates.close_other oneHome among housed same

theorem Separates.advances_delivery (oneHome : OneHome home) {whole part : World σ}
    (among : Among home key alike whole part) :
    site.Advances home key alike whole part .delivery := by
  have advance_eq := site.deployment.advance_eq whole .delivery
  cases waiting : whole.queue.waiting with
  | nil =>
      have none : site.deployment.opening whole .delivery = none := by
        simp only [Deployment.opening, waiting]
      refine .other (by rw [none]; rfl) ?_
      rw [advance_eq, none]
      exact among
  | cons activity rest =>
      have opens : site.deployment.opening whole .delivery =
          some ⟨⟨activity, true⟩, false, site.deployment.taken whole activity rest⟩ := by
        simp only [Deployment.opening, waiting]
      have member : activity ∈ whole.queue.waiting := waiting ▸ List.mem_cons_self
      obtain ⟨own, housed⟩ := among.stock.housed.waiting activity member
      by_cases same : own = key
      · subst same
        obtain ⟨otherWaiting, taken⟩ := separates.taken_own among housed waiting
        obtain ⟨episode, left⟩ := separates.close_own ⟨activity, true⟩ false taken housed
        refine .own _ _ opens ?_ (Activity.isOf_of_userKey housed.1) episode left
        simp only [Deployment.opening, otherWaiting]
      · have isOf : Turn.isOf ⟨activity, true⟩ key = false := Activity.isOf_of_ne housed.1 same
        refine .other (by rw [opens]; exact isOf) ?_
        rw [advance_eq, opens]
        exact separates.close_other oneHome
          (separates.taken_other among housed same waiting) housed same

theorem Separates.advances (oneHome : OneHome home) {whole part : World σ}
    (among : Among home key alike whole part) {input : Input} (atHome : input.AtHome home) :
    site.Advances home key alike whole part input := by
  cases input with
  | arrival activity cancelled =>
      exact separates.advances_arrival oneHome among atHome cancelled
  | delivery => exact separates.advances_delivery oneHome among

/-- A run comes to the same for the user without the turns of others. -/
theorem Separates.run (oneHome : OneHome home) {inputs : List Input}
    (atHome : ∀ input ∈ inputs, input.AtHome home)
    {whole part : World σ} (among : Among home key alike whole part) :
    site.episodes part (site.only key whole inputs) =
        (site.episodes whole inputs).filter (·.turn.isOf key) ∧
      Among home key alike (site.deployment.run whole inputs)
        (site.deployment.run part (site.only key whole inputs)) := by
  -- The turns of the user advance both worlds, the others only the one; `Among` holds throughout.
  induction inputs generalizing whole part with
  | nil => exact ⟨rfl, among⟩
  | cons input rest ih =>
      obtain ⟨here, later⟩ := List.forall_mem_cons.mp atHome
      have advances := separates.advances oneHome among here
      cases advances with
      | own opening other opens otherOpens isOf same left =>
          obtain ⟨episodes, final⟩ := ih later left
          rw [only_cons_of_own opens isOf, episodes_cons opens, episodes_cons otherOpens,
            Deployment.run_cons opens, Deployment.run_cons otherOpens, episodes, same]
          refine ⟨?_, final⟩
          rw [List.filter_cons_of_pos (by rwa [← same, episode_turn])]
      | other apart left =>
          obtain ⟨episodes, final⟩ := ih later left
          rw [only_cons_of_apart apart, filter_episodes_of_apart apart]
          exact ⟨episodes, final⟩

end

end Site

/-! ## Runs from the beginning -/

/-- The id of the sender of what arrives, and the key of the user. -/
def Input.sender? : Input → Option (String × String)
  | .arrival activity _ =>
      match activity.userKey with
      | .ok key => some (activity.sender.id, key)
      | .error _ => none
  | .delivery => none

/-- All senders' ids in a run, each with a key that it occurs under.  What the queue delivers comes
from senders who have been there before. -/
def senders (inputs : List Input) : List (String × String) := inputs.filterMap Input.sender?

/-- No sender's id occurs under two keys. -/
def KeptApart (inputs : List Input) : Prop :=
  ∀ sender ∈ senders inputs, ∀ other ∈ senders inputs, sender.1 = other.1 → sender.2 = other.2

instance (inputs : List Input) : Decidable (KeptApart inputs) :=
  inferInstanceAs (Decidable (∀ sender ∈ senders inputs, ∀ other ∈ senders inputs, _))

theorem atHome_senders {inputs : List Input} {input : Input} (member : input ∈ inputs) :
    input.AtHome fun user key => (user, key) ∈ senders inputs := by
  cases input with
  | arrival activity cancelled =>
      exact fun _ keyed => List.mem_filterMap.mpr ⟨_, member, by simp only [Input.sender?, keyed]⟩
  | delivery => trivial

namespace Site

variable (site : Site σ)

/-- Two runs from the beginning are the same for the user of a key: what comes of each of the user's
turns, the document that is stored, and the tokens that are kept. -/
structure SameFor (key : String) (host : σ) (inputs others : List Input) : Prop where
  episodes : (site.episodes (.initial host) inputs).filter (·.turn.isOf key) =
    (site.episodes (.initial host) others).filter (·.turn.isOf key)
  document : List.lookup key (site.deployment.run (.initial host) inputs).documents =
    List.lookup key (site.deployment.run (.initial host) others).documents
  tokens : ∀ user, (user, key) ∈ senders inputs → ∀ handler,
    (site.deployment.run (.initial host) inputs).tokens.get? user handler =
      (site.deployment.run (.initial host) others).tokens.get? user handler

variable {site} {key : String} {alike : σ → σ → Prop}

theorem isOf_of_sender {input : Input} {world : World σ} {user : String}
    (sends : input.sender? = some (user, key)) :
    (site.deployment.opening world input).any (·.turn.isOf key) = true := by
  cases input with
  | delivery => cases sends
  | arrival activity cancelled =>
      cases keyed : activity.userKey with
      | error error => simp only [Input.sender?, keyed, reduceCtorEq] at sends
      | ok own =>
          simp only [Input.sender?, keyed, Option.some.injEq, Prod.mk.injEq] at sends
          simp [Deployment.opening, Turn.isOf, keyed, sends.2]

/-- What arrives from the user remains of a run, and nothing is added. -/
theorem mem_only_of_sender {input : Input} {inputs : List Input} {world : World σ} {user : String}
    (sends : input.sender? = some (user, key)) :
    input ∈ site.only key world inputs ↔ input ∈ inputs := by
  induction inputs generalizing world with
  | nil => exact Iff.rfl
  | cons first rest ih =>
      cases apart : (site.deployment.opening world first).any (·.turn.isOf key) with
      | true => simp only [only, apart, if_true, List.mem_cons, ih]
      | false =>
          have differs : input ≠ first := by
            rintro rfl
            rw [isOf_of_sender sends] at apart
            cases apart
          simp only [only, apart, Bool.false_eq_true, if_false, List.mem_cons, differs, false_or,
            ih]

theorem senders_only {inputs : List Input} {world : World σ} {user : String} :
    (user, key) ∈ senders (site.only key world inputs) ↔ (user, key) ∈ senders inputs := by
  simp only [senders, List.mem_filterMap]
  constructor
  · rintro ⟨input, member, sends⟩
    exact ⟨input, (mem_only_of_sender sends).mp member, sends⟩
  · rintro ⟨input, member, sends⟩
    exact ⟨input, (mem_only_of_sender sends).mpr member, sends⟩

/-- Nothing is stored, nothing is kept and nothing waits in the beginning. -/
theorem among_initial {home : String → String → Prop} {host : σ} (refl : alike host host) :
    Among home key alike (World.initial host) (World.initial host) where
  host := refl
  stock :=
    { housed :=
        { stored := by
            rintro _ _ ⟨⟩
            exact Flow.within_idle
          waiting := fun _ member => by cases member }
      document := rfl
      token := fun _ _ _ => rfl
      waiting := rfl
      receiving := rfl }

/-- Deleting the turns of others leaves a run the same for the user, and leaves only the user's
turns. -/
theorem Separates.same_only (separates : site.Separates key alike) {inputs : List Input}
    (apart : KeptApart inputs) (host : σ) :
    (∀ episode ∈ site.episodes (.initial host) (site.only key (.initial host) inputs),
        episode.turn.isOf key = true) ∧
      site.SameFor key host inputs (site.only key (.initial host) inputs) := by
  have oneHome : OneHome fun user key => (user, key) ∈ senders inputs :=
    fun _ _ _ sends otherSends => apart _ sends _ otherSends rfl
  obtain ⟨episodes, among⟩ := separates.run oneHome (fun _ => atHome_senders)
    (among_initial (separates.refl host))
  rw [episodes]
  refine ⟨fun episode member => (List.mem_filter.mp member).2, ?_, ?_, ?_⟩
  · rw [episodes, List.filter_filter]
    simp only [Bool.and_self]
  · exact among.stock.document
  · exact among.stock.token

/-- Users do not influence each other: for the user of a key, a run is the same without the turns of
all others, and the same as any run in which the user's turns come in the same order. -/
theorem users_apart (site : Site σ) (key : String) {alike : σ → σ → Prop}
    (separates : site.Separates key alike) (inputs : List Input) (apart : KeptApart inputs)
    (host : σ) :
    let kept := site.only key (.initial host) inputs
    (∀ episode ∈ site.episodes (.initial host) kept, episode.turn.isOf key = true) ∧
      site.SameFor key host inputs kept ∧
        ∀ reordered, KeptApart reordered → site.only key (.initial host) reordered = kept →
          site.SameFor key host inputs reordered := by
  obtain ⟨own, same⟩ := separates.same_only apart host
  refine ⟨own, same, fun reordered otherApart order => ?_⟩
  -- What remains of both runs is one run, which each of them is the same as.
  obtain ⟨-, otherSame⟩ := separates.same_only otherApart host
  rw [order] at otherSame
  refine ⟨same.episodes.trans otherSame.episodes.symm, same.document.trans otherSame.document.symm,
    fun user sends handler => ?_⟩
  have otherSends : (user, key) ∈ senders reordered := by
    have kept : (user, key) ∈ senders (site.only key (.initial host) reordered) := by
      rw [order]
      exact senders_only.mpr sends
    exact senders_only.mp kept
  exact (same.tokens user sends handler).trans (otherSame.tokens user otherSends handler).symm

end Site

/-- The key of the user of a turn, if any. -/
def Turn.owner (turn : Turn) : String :=
  match turn.activity.userKey with
  | .ok key => key
  | .error _ => ""

namespace Site

/-- One more for a user. -/
def bump (key : String) (host : String → Nat) : String → Nat :=
  Function.update host key (host key + 1)

/-- A site with one handler, which wants to hear from each user once more and then gives a token;
the application signs in explicitly, and the host counts how often each user was asked about. -/
def counting : Site (String → Nat) where
  auth :=
    { settings := .standard
      defaultHandler := "code"
      dispatcher :=
        { defaultName := "code"
          names := ["code"]
          contains := fun name => name == "code"
          signIn := fun turn _ visit =>
            .ok (if visit.host turn.owner = 0 then .pending else .complete "token")
              { visit with host := bump turn.owner visit.host }
          signOut := fun _ _ => pure ()
          reset := fun _ _ => pure () }
      policy := .never
      onSuccess := some fun _ _ => pure ()
      onFailure := none }
  services := .lenient
  conduct := fun _ => .signIn "code" none fun outcome => .finish outcome
  handler := none

/-- Hosts that tell the same of the user of a turn, before the user is counted and after. -/
theorem serves_counting {turn : Turn} {key : String}
    {hosts : (String → Nat) → (String → Nat) → Prop}
    (same : ∀ host other, hosts host other → host turn.owner = other turn.owner)
    (bumped : ∀ host other, hosts host other →
      hosts (bump turn.owner host) (bump turn.owner other)) :
    counting.Serves turn key hosts where
  auth :=
    { settings := rfl
      defaultHandler := rfl
      names := rfl
      contains := rfl
      policy := fun _ _ kept => .ok false kept
      signIn := by
        intro request visit other kept
        have told : (if visit.host turn.owner = 0 then Response.pending else .complete "token") =
            if other.host turn.owner = 0 then .pending else .complete "token" := by
          rw [same _ _ kept.host]
        change ResultsAgree _ (.ok _ _) (.ok _ _)
        rw [told]
        exact .ok _ ⟨bumped _ _ kept.host, kept.cancelled⟩
      signOut := fun _ => agrees_pure ()
      reset := fun _ => agrees_pure ()
      onSuccess := .some fun _ => agrees_pure ()
      onFailure := .none
      permit := fun _ _ => agrees_pure ()
      note := fun _ _ _ _ => id
      send := fun _ _ => agrees_pure ()
      clock := fun _ _ _ => rfl }
  conduct := .signIn _ _ fun outcome => .finish outcome
  sender := fun _ _ => id

theorem separates_counting (key : String) :
    counting.Separates key fun host other => host key = other key where
  refl _ := rfl
  own turn keyed := by
    have owner : turn.owner = key := by simp only [Turn.owner, keyed]
    refine serves_counting (fun _ _ same => owner ▸ same) fun host other same => ?_
    simp only [bump, owner, Function.update_self, same]
  others turn own keyed differs part := by
    have owner : turn.owner = own := by simp only [Turn.owner, keyed]
    refine serves_counting (fun _ _ same => congrFun same.1 _) ?_
    rintro host _ ⟨rfl, same⟩
    refine ⟨rfl, ?_⟩
    simp only [bump, owner, Function.update_of_ne differs.symm, same]

/-- A user asks for a sign-in and then says the code, and what comes of it is replayed. -/
def signingIn (user code : String) : List Input :=
  [.arrival (.message "chat" user "room" "sign in") false,
    .arrival (.message "chat" user "room" code) false, .delivery]

/-- Two users do so at the same time. -/
def crowd : List Input :=
  [.arrival (.message "chat" "ada" "room" "sign in") false,
    .arrival (.message "chat" "bob" "room" "sign in") false,
    .arrival (.message "chat" "ada" "room" "42") false,
    .arrival (.message "chat" "bob" "room" "17") false, .delivery, .delivery]

/-- Of two users who sign in at the same time, each signs in as if alone, and as if the other had
been first. -/
theorem crowd_apart : KeptApart crowd ∧
    counting.only "chat/users/ada" (.initial fun _ => 0) crowd = signingIn "ada" "42" ∧
      (counting.deployment.run (.initial fun _ => 0) crowd).tokens.get? "ada" "code" =
        some "token" ∧
      counting.SameFor "chat/users/ada" (fun _ => 0) crowd (signingIn "ada" "42") ∧
      counting.SameFor "chat/users/ada" (fun _ => 0) crowd
        (signingIn "bob" "17" ++ signingIn "ada" "42") := by
  have apart : KeptApart crowd := by decide +kernel
  have otherApart : KeptApart (signingIn "bob" "17" ++ signingIn "ada" "42") := by decide +kernel
  have alone : counting.only "chat/users/ada" (.initial fun _ => 0) crowd = signingIn "ada" "42" :=
    rfl
  have later : counting.only "chat/users/ada" (.initial fun _ => 0)
      (signingIn "bob" "17" ++ signingIn "ada" "42") = signingIn "ada" "42" := rfl
  have token : (counting.deployment.run (.initial fun _ => 0) crowd).tokens.get? "ada" "code" =
      some "token" := by decide +kernel
  obtain ⟨-, same, others⟩ := users_apart counting "chat/users/ada"
    (separates_counting "chat/users/ada") crowd apart fun _ => 0
  have order := others _ otherApart (later.trans alone.symm)
  rw [alone] at same
  exact ⟨apart, alone, token, same, order⟩

end Site
end SignInFlow
