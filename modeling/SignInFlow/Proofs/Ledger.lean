import Mathlib.Data.Finset.Card
import Mathlib.Data.Finset.Dedup
import SignInFlow.Proofs.History

/-!
# The ledger of flows

A record that begins with empty storage tells of every flow when it began, what let go of it and
when it was cleared.  The ledger balances if what began is what is stored and what has ended, and if
every end has one reason; it is kept event by event.
-/

namespace SignInFlow

variable {σ : Type}

/-! ## What a record tells of flows -/

namespace Flow

/-- The flow that is stored for a user after a record that begins with empty storage. -/
def after (log : List Event) (key : String) : Except Error Flow := stored (replay [] log) key

theorem after_cons_of_silent {event : Event}
    (silent : ∀ documents, event.apply documents = documents) (log : List Event) (key : String) :
    after (event :: log) key = after log key := by
  rw [after, replay, silent, after]

/-- Who has no document has no flow. -/
theorem mem_of_stored {documents : Dictionary Json} {key : String}
    (stored : stored documents key ≠ .ok .idle) : key ∈ documents.map Prod.fst := by
  cases found : List.lookup key documents with
  | none =>
      refine absurd ?_ stored
      simp only [Flow.stored, found]
      rfl
  | some document =>
      obtain ⟨before, later, documents_eq, -⟩ := List.lookup_eq_some_iff.mp found
      simp [documents_eq]

/-- The users for whom a flow with something banked is stored. -/
def users (documents : Dictionary Json) : Finset String :=
  (documents.map Prod.fst).toFinset.filter fun key => banks documents key = true

theorem mem_users {documents : Dictionary Json} {key : String} :
    key ∈ users documents ↔ banks documents key = true := by
  simp only [users, Finset.mem_filter, List.mem_toFinset, and_iff_right_iff_imp]
  intro banks
  refine mem_of_stored fun idle => ?_
  simp [Flow.banks, idle, banked] at banks

theorem mem_users_after {log : List Event} {key : String} : key ∈ users (replay [] log) ↔
    ∃ handler banked, after log key = .ok (.active handler (some banked)) :=
  mem_users.trans (banks_iff _ _)

end Flow

/-- How many requests for a new flow have been left pending. -/
def begun (log : List Event) : Nat := log.countP Event.begins

/-- How often a flow was stored before an event and no more after it. -/
def ended : List Event → Nat
  | [] => 0
  | event :: older =>
      ended older + (Flow.users (replay [] older) \ Flow.users (replay [] (event :: older))).card

/-- Whether a turn is one of a user. -/
def Turn.isOf (turn : Turn) (key : String) : Bool :=
  match turn.activity.userKey with
  | .ok own => own == key
  | .error _ => false

/-- Whether a response ends an automatic flow without anything to queue. -/
def Banked.endsWith (turn : Turn) (response : Response) : Banked → Bool
  | .activity trigger =>
      decide (response.status = .error) || decide (response.status = .complete) &&
        trigger == turn.activity
  | .completion _ => false

namespace Event

/-- Whether an event lets go of the flow of a user and a handler: in a turn of the user, the queue
accepts something, the gate is told that an automatic flow is over, or the handler forgets. -/
def concludes (key handler : String) (banked : Banked) : Event → Bool
  | accessed turn (.submit _) => turn.isOf key
  | answered .gate turn _ (.ok answer) => turn.isOf key && banked.endsWith turn answer.effective
  | withdrew turn _ other (.ok _) => turn.isOf key && other == handler
  | _ => false

/-- Whether an access was refused. -/
def isRefusal : Event → Bool
  | refused _ _ => true
  | _ => false

/-- Whether an event tells somebody of a failure. -/
def isFailure : Event → Bool
  | failed _ _ | sent _ _ => true
  | _ => false

end Event

/-- A record in which no access is refused. -/
def Granted (log : List Event) : Prop := ∀ event ∈ log, event.isRefusal = false

theorem Granted.mono {log final : List Event} (granted : Granted final) (more : log <:+ final) :
    Granted log :=
  fun event member => granted event (more.subset member)

/-- What has let go of the flow of a user since it is stored, the latest first. -/
def outlets (key : String) : List Event → List Event
  | [] => []
  | event :: older =>
      match Flow.after older key with
      | .ok (.active handler (some banked)) =>
          if event.concludes key handler banked then event :: outlets key older
          else outlets key older
      | _ => []

/-- Why a flow has ended by an event of a record: its continuation was queued right before, the turn
of its own activity goes on right after, its failure is reported right after, or its handler has
forgotten the user. -/
inductive Concludes (auth : Authenticator σ) (log : List Event) (event : Event) (older : List Event)
    (handler : String) : Banked → Event → Prop where
  | handedOn {banked : Banked} {rest : List Event} (turn : Turn) (exchange : Option Exchange)
      (answer : Response) (activity : Activity)
      (continues : auth.continuation turn handler answer.effective banked = some activity)
      (order : older = .accessed turn (.submit activity) ::
        .answered .gate turn ⟨handler, false, exchange⟩ (.ok answer) :: rest) :
      Concludes auth log event older handler banked (.accessed turn (.submit activity))
  | proceeded {trigger : Activity} (turn : Turn) (exchange : Option Exchange) (answer : Response)
      (complete : answer.effective.status = .complete) (own : (trigger == turn.activity) = true)
      (goesOn : .admitted turn :: event :: older <:+ log) :
      Concludes auth log event older handler (.activity trigger)
        (.answered .gate turn ⟨handler, false, exchange⟩ (.ok answer))
  | gaveUp {trigger : Activity} (turn : Turn) (exchange : Option Exchange) (answer : Response)
      (now : Instant) (failed : answer.effective.status = .error)
      (reported :
        auth.failureEvent turn ⟨handler, answer.effective, trigger⟩ now :: event :: older <:+ log) :
      Concludes auth log event older handler (.activity trigger)
        (.answered .gate turn ⟨handler, false, exchange⟩ (.ok answer))
  | withdrawn {banked : Banked} (turn : Turn) (way : Withdrawal) :
      Concludes auth log event older handler banked (.withdrew turn way handler (.ok ()))

/-- What a failure is told right after: the answer of a handler, with no more than a write-back in
between, or the reading of the user's document where the queue has brought it back. -/
inductive Prompts (turn : Turn) : List Event → Prop where
  | answered {older : List Event} (asker : Asker) (request : Request) (answer : Response)
      (failed : answer.effective.status = .error) :
      Prompts turn (.answered asker turn request (.ok answer) :: older)
  | cleared {older : List Event} (access : Access) (asker : Asker) (request : Request)
      (answer : Response) (failed : answer.effective.status = .error) :
      Prompts turn (.accessed turn access :: .answered asker turn request (.ok answer) :: older)
  | returned {older : List Event} (keys : List String) :
      Prompts turn (.accessed turn (.read keys) :: older)

/-- What a part of a record tells, in view of the whole: no flow is replaced, a flow that ends is
let go once and for a reason, nothing is queued but for a flow that nothing has let go of, and no
failure is told twice. -/
structure Chronicle (auth : Authenticator σ) (final log : List Event) : Prop where
  concluded : ∀ event older, event :: older <:+ log → ∀ key handler banked,
    Flow.after older key = .ok (.active handler (some banked)) →
      Flow.after (event :: older) key = .ok (.active handler (some banked)) ∨
        Flow.after (event :: older) key = .ok .idle ∧
          ∃ outlet, outlets key older = [outlet] ∧
            Concludes auth final event older handler banked outlet
  submitted : ∀ turn activity older, .accessed turn (.submit activity) :: older <:+ log →
    ∃ key handler banked, turn.activity.userKey = .ok key ∧
      Flow.after older key = .ok (.active handler (some banked)) ∧ outlets key older = []
  prompt : ∀ report older, report :: older <:+ log → report.isFailure = true →
    Prompts report.turn older

/-- The ledger of a record: the flows that have begun are those that are stored and those that have
ended, nothing has let go of what is stored, and all else is as the chronicle has it. -/
structure Ledger (auth : Authenticator σ) (log : List Event) : Prop
    extends Chronicle auth log log where
  counted : begun log = (Flow.users (replay [] log)).card + ended log
  held : ∀ key ∈ Flow.users (replay [] log), outlets key log = []

/-! ## One event after the other -/

theorem outlets_of_active {key handler : String} {banked : Banked} {log : List Event}
    (active : Flow.after log key = .ok (.active handler (some banked))) (event : Event) :
    outlets key (event :: log) =
      if event.concludes key handler banked then event :: outlets key log else outlets key log := by
  simp only [outlets, active]

theorem outlets_of_idle {key : String} {log : List Event} (idle : Flow.after log key = .ok .idle)
    (event : Event) : outlets key (event :: log) = [] := by
  simp only [outlets, idle]

/-- Nobody's flow is let go of in the turn of somebody else. -/
theorem concludes_elsewhere {event : Event} {key user : String}
    (keyed : event.turn.activity.userKey = .ok key) (differs : user ≠ key) (handler : String)
    (banked : Banked) : event.concludes user handler banked = false := by
  have stranger : event.turn.isOf user = false := by
    simp [Turn.isOf, keyed, differs.symm]
  unfold Event.concludes
  split
  · exact stranger
  · exact Bool.and_eq_false_iff.mpr (.inl stranger)
  · exact Bool.and_eq_false_iff.mpr (.inl stranger)
  · rfl

section

variable {auth : Authenticator σ} {final log : List Event}

theorem chronicle_nil : Chronicle auth final [] where
  concluded := by
    intro event older suffix
    cases List.suffix_nil.mp suffix
  submitted := by
    intro turn activity older suffix
    cases List.suffix_nil.mp suffix
  prompt := by
    intro report older suffix
    cases List.suffix_nil.mp suffix

theorem Concludes.mono {event outlet : Event} {older later : List Event} {handler : String}
    {banked : Banked} (concludes : Concludes auth final event older handler banked outlet)
    (more : final <:+ later) :
    Concludes auth later event older handler banked outlet := by
  cases concludes with
  | handedOn turn exchange answer activity continues order =>
      exact .handedOn turn exchange answer activity continues order
  | proceeded turn exchange answer complete own goesOn =>
      exact .proceeded turn exchange answer complete own (goesOn.trans more)
  | gaveUp turn exchange answer now failed reported =>
      exact .gaveUp turn exchange answer now failed (reported.trans more)
  | withdrawn turn way => exact .withdrawn turn way

theorem Chronicle.mono (chronicle : Chronicle auth final log) {later : List Event}
    (more : final <:+ later) : Chronicle auth later log where
  concluded := by
    intro event older suffix key handler banked active
    rcases chronicle.concluded event older suffix key handler banked active with
      same | ⟨idle, outlet, only, why⟩
    · exact .inl same
    · exact .inr ⟨idle, outlet, only, why.mono more⟩
  submitted := chronicle.submitted
  prompt := chronicle.prompt

theorem Chronicle.cons (chronicle : Chronicle auth final log) {event : Event}
    (concluded : ∀ key handler banked, Flow.after log key = .ok (.active handler (some banked)) →
      Flow.after (event :: log) key = .ok (.active handler (some banked)) ∨
        Flow.after (event :: log) key = .ok .idle ∧
          ∃ outlet, outlets key log = [outlet] ∧
            Concludes auth final event log handler banked outlet)
    (submitted : ∀ turn activity, event = .accessed turn (.submit activity) →
      ∃ key handler banked, turn.activity.userKey = .ok key ∧
        Flow.after log key = .ok (.active handler (some banked)) ∧ outlets key log = [])
    (prompt : event.isFailure = true → Prompts event.turn log) :
    Chronicle auth final (event :: log) where
  concluded := by
    intro other older suffix
    rcases List.suffix_cons_iff.mp suffix with same | earlier
    · cases same
      exact concluded
    · exact chronicle.concluded other older earlier
  submitted := by
    intro turn activity older suffix
    rcases List.suffix_cons_iff.mp suffix with same | earlier
    · cases same
      exact submitted turn activity rfl
    · exact chronicle.submitted turn activity older earlier
  prompt := by
    intro report older suffix
    rcases List.suffix_cons_iff.mp suffix with same | earlier
    · cases same
      exact prompt
    · exact chronicle.prompt report older earlier

end

/-! ## The books of a turn -/

/-- The ledger while a turn of a user is under way: so many flows have begun that are not stored
yet, and so much has let go of the flow of the user. -/
structure Books (auth : Authenticator σ) (final : List Event) (key : String) (due : Nat)
    (outs log : List Event) : Prop extends Chronicle auth final log where
  decoded : ∀ user, Flow.after log user = .ok .idle ∨
    ∃ handler banked, Flow.after log user = .ok (.active handler (some banked))
  counted : begun log = (Flow.users (replay [] log)).card + ended log + due
  held : ∀ user ∈ Flow.users (replay [] log), outlets user log = if user = key then outs else []

namespace Books

variable {auth : Authenticator σ} {final log outs : List Event} {key : String} {due : Nat}

theorem mono (books : Books auth final key due outs log) {later : List Event}
    (more : final <:+ later) : Books auth later key due outs log :=
  ⟨books.toChronicle.mono more, books.decoded, books.counted, books.held⟩

/-- Between turns it does not matter whose turn it was. -/
theorem rekey (books : Books auth final key 0 [] log) (other : String) :
    Books auth final other 0 [] log :=
  ⟨books.toChronicle, books.decoded, books.counted, by simpa using books.held⟩

theorem ledger (books : Books auth log key 0 [] log) : Ledger auth log :=
  ⟨books.toChronicle, books.counted, by simpa using books.held⟩

/-- What has let go of the flow that is stored for the user of the turn. -/
theorem outlets_own (books : Books auth final key due outs log) {handler : String} {banked : Banked}
    (active : Flow.after log key = .ok (.active handler (some banked))) :
    outlets key log = outs := by
  simpa using books.held key (Flow.mem_users_after.mpr ⟨handler, banked, active⟩)

/-- Nothing has let go of a flow that is stored for somebody else. -/
theorem outlets_other (books : Books auth final key due outs log) {user handler : String}
    {banked : Banked} (other : user ≠ key)
    (active : Flow.after log user = .ok (.active handler (some banked))) :
    outlets user log = [] := by
  simpa [other] using books.held user (Flow.mem_users_after.mpr ⟨handler, banked, active⟩)

/-- An event keeps the count if it stores as many flows as it ought to. -/
theorem counted_cons (books : Books auth final key due outs log) (event : Event) {stored : Nat}
    (change : (Flow.users (replay [] (event :: log))).card +
      (Flow.users (replay [] log) \ Flow.users (replay [] (event :: log))).card =
        (Flow.users (replay [] log)).card + stored) :
    begun (event :: log) + stored =
      (Flow.users (replay [] (event :: log))).card + ended (event :: log) +
        (due + event.begins.toNat) := by
  have counted := books.counted
  have begun_eq : begun (event :: log) = begun log + event.begins.toNat := by
    rw [begun, List.countP_cons]
    cases event.begins <;> rfl
  rw [begun_eq, ended]
  omega

/-- An event that leaves every flow as it is stored. -/
theorem pass (books : Books auth final key due outs log) (event : Event)
    (keyed : event.turn.activity.userKey = .ok key)
    (same : ∀ user, Flow.after (event :: log) user = Flow.after log user) {after : List Event}
    (outs_eq : ∀ handler banked, Flow.after log key = .ok (.active handler (some banked)) →
      (if event.concludes key handler banked then event :: outs else outs) = after)
    (submitted : ∀ turn activity, event = .accessed turn (.submit activity) →
      outs = [] ∧ ∃ handler banked, Flow.after log key = .ok (.active handler (some banked)))
    (prompt : event.isFailure = true → Prompts event.turn log) :
    Books auth final key (due + event.begins.toNat) after (event :: log) where
  toChronicle := by
    refine books.toChronicle.cons ?_ ?_ prompt
    · intro user handler banked active
      exact .inl ((same user).trans active)
    · rintro turn activity rfl
      obtain ⟨none, handler, banked, active⟩ := submitted turn activity rfl
      exact ⟨key, handler, banked, keyed, active, (books.outlets_own active).trans none⟩
  decoded := by
    intro user
    rw [same]
    exact books.decoded user
  counted := by
    have users : Flow.users (replay [] (event :: log)) = Flow.users (replay [] log) := by
      ext user
      rw [Flow.mem_users_after, Flow.mem_users_after, same]
    have counted : begun (event :: log) + 0 = _ := books.counted_cons event (by simp [users])
    exact counted
  held := by
    intro user member
    obtain ⟨handler, banked, active⟩ := Flow.mem_users_after.mp member
    rw [same] at active
    rw [outlets_of_active active]
    by_cases own : user = key
    · subst own
      rw [books.outlets_own active, if_pos rfl]
      exact outs_eq handler banked active
    · rw [if_neg own, concludes_elsewhere keyed own, books.outlets_other own active]
      rfl

/-- Reading is seen and changes nothing. -/
theorem read (books : Books auth final key 0 [] log) {turn : Turn}
    (keyed : turn.activity.userKey = .ok key) (keys : List String) :
    Books auth final key 0 [] (.accessed turn (.read keys) :: log) :=
  books.pass (.accessed turn (.read keys)) keyed (fun _ => rfl) (fun _ _ _ => rfl)
    (fun _ _ same => nomatch same) nofun

end Books

/-! ## Flows are stored and cleared -/

/-- The record goes on with an access that may change the flow of one user and lets go of none. -/
structure Rewrites (key : String) (turn : Turn) (access : Access) (log : List Event) : Prop where
  change : ∀ activity, access ≠ .submit activity
  others : ∀ user, user ≠ key → Flow.after (.accessed turn access :: log) user = Flow.after log user

theorem Rewrites.concludes {key : String} {turn : Turn} {access : Access} {log : List Event}
    (rewrites : Rewrites key turn access log) (user handler : String) (banked : Banked) :
    (Event.accessed turn access).concludes user handler banked = false := by
  cases access with
  | submit activity => exact absurd rfl (rewrites.change activity)
  | read keys => rfl
  | write changes => rfl
  | delete keys => rfl

namespace Books

variable {auth : Authenticator σ} {final log outs after : List Event} {key : String} {due now : Nat}
  {turn : Turn} {access : Access}

/-- The books go on with such an access as the flow of the user has it. -/
theorem rewrite (books : Books auth final key due outs log)
    (rewrites : Rewrites key turn access log)
    (concluded : ∀ handler banked, Flow.after log key = .ok (.active handler (some banked)) →
      Flow.after (.accessed turn access :: log) key = .ok (.active handler (some banked)) ∨
        Flow.after (.accessed turn access :: log) key = .ok .idle ∧
          ∃ outlet, outs = [outlet] ∧
            Concludes auth final (.accessed turn access) log handler banked outlet)
    (decoded : Flow.after (.accessed turn access :: log) key = .ok .idle ∨
      ∃ handler banked,
        Flow.after (.accessed turn access :: log) key = .ok (.active handler (some banked)))
    (counted : begun (.accessed turn access :: log) =
      (Flow.users (replay [] (.accessed turn access :: log))).card +
        ended (.accessed turn access :: log) + now)
    (held : key ∈ Flow.users (replay [] (.accessed turn access :: log)) →
      outlets key (.accessed turn access :: log) = after) :
    Books auth final key now after (.accessed turn access :: log) where
  toChronicle := by
    refine books.toChronicle.cons ?_ ?_ nofun
    · intro user handler banked active
      by_cases own : user = key
      · subst own
        rw [books.outlets_own active]
        exact concluded handler banked active
      · exact .inl ((rewrites.others user own).trans active)
    · rintro _ activity same
      cases same
      exact absurd rfl (rewrites.change activity)
  decoded := by
    intro user
    by_cases own : user = key
    · rwa [own]
    · rw [rewrites.others user own]
      exact books.decoded user
  counted := counted
  held := by
    intro user member
    by_cases own : user = key
    · subst own
      rw [if_pos rfl, held member]
    · obtain ⟨handler, banked, active⟩ := Flow.mem_users_after.mp member
      rw [rewrites.others user own] at active
      rw [if_neg own, outlets_of_active active, rewrites.concludes, books.outlets_other own active]
      rfl

/-- A flow that has begun is stored. -/
theorem opened (books : Books auth final key 1 outs log) (rewrites : Rewrites key turn access log)
    (idle : Flow.after log key = .ok .idle) {handler : String} {banked : Banked}
    (active : Flow.after (.accessed turn access :: log) key = .ok (.active handler (some banked))) :
    Books auth final key 0 [] (.accessed turn access :: log) := by
  have fresh : key ∉ Flow.users (replay [] log) := by
    intro member
    obtain ⟨owner, payload, before⟩ := Flow.mem_users_after.mp member
    cases idle.symm.trans before
  have users : Flow.users (replay [] (.accessed turn access :: log)) =
      insert key (Flow.users (replay [] log)) := by
    ext user
    rw [Finset.mem_insert, Flow.mem_users_after, Flow.mem_users_after]
    by_cases own : user = key
    · simp [own, active]
    · simp [own, rewrites.others user own]
  have counted : begun (.accessed turn access :: log) + 1 = _ + 1 :=
    books.counted_cons (.accessed turn access) (by
      rw [users, Finset.card_insert_of_notMem fresh,
        Finset.sdiff_eq_empty_iff_subset.mpr (Finset.subset_insert _ _), Finset.card_empty,
        Nat.add_zero])
  refine books.rewrite rewrites ?_ (.inr ⟨handler, banked, active⟩) (Nat.succ.inj counted) fun _ =>
    outlets_of_idle idle _
  intro owner payload before
  cases idle.symm.trans before

/-- A flow that is let go is cleared. -/
theorem closed {outlet : Event} (books : Books auth final key 0 [outlet] log)
    (rewrites : Rewrites key turn access log) {handler : String} {banked : Banked}
    (active : Flow.after log key = .ok (.active handler (some banked)))
    (idle : Flow.after (.accessed turn access :: log) key = .ok .idle)
    (concludes : Concludes auth final (.accessed turn access) log handler banked outlet) :
    Books auth final key 0 [] (.accessed turn access :: log) := by
  have stored : key ∈ Flow.users (replay [] log) :=
    Flow.mem_users_after.mpr ⟨handler, banked, active⟩
  have users : Flow.users (replay [] (.accessed turn access :: log)) =
      (Flow.users (replay [] log)).erase key := by
    ext user
    rw [Finset.mem_erase, Flow.mem_users_after, Flow.mem_users_after]
    by_cases own : user = key
    · simp [own, idle]
    · simp [own, rewrites.others user own]
  have one : Flow.users (replay [] log) \ (Flow.users (replay [] log)).erase key = {key} := by
    rw [Finset.sdiff_erase stored, Finset.sdiff_self, insert_empty_eq]
  have counted : begun (.accessed turn access :: log) + 0 = _ :=
    books.counted_cons (.accessed turn access) (by
      rw [users, one, Finset.card_singleton, Finset.card_erase_add_one stored, Nat.add_zero])
  refine books.rewrite rewrites ?_ (.inl idle) counted fun member => ?_
  · intro owner payload before
    rw [active] at before
    cases before
    exact .inr ⟨idle, outlet, rfl, concludes⟩
  · rw [users] at member
    exact absurd rfl (Finset.ne_of_mem_erase member)

end Books
end SignInFlow
