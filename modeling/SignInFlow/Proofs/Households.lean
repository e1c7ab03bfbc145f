import SignInFlow.Proofs.Ledger
import SignInFlow.Proofs.Parallel
import SignInFlow.Proofs.Working

/-!
# What a store holds for one user

A sender's id belongs under one key, at home.  As long as all that is banked and all that waits is
at home where it is kept, one store may hold for the user of a key what another holds among the
affairs of many.  Turns of the user keep both stores so, and turns of anybody else do not matter.
-/

namespace SignInFlow

/-- An activity comes from a user under a key, where the sender's id is at home. -/
def Activity.Housed (home : String → String → Prop) (key : String) (activity : Activity) : Prop :=
  activity.userKey = .ok key ∧ home activity.sender.id key

/-- Nobody is at home under two keys. -/
def OneHome (home : String → String → Prop) : Prop :=
  ∀ user key other, home user key → home user other → key = other

/-- Whether an activity is one of the user of a key. -/
def Activity.isOf (key : String) (activity : Activity) : Bool := Turn.isOf ⟨activity, true⟩ key

theorem Activity.isOf_of_userKey {activity : Activity} {key : String}
    (keyed : activity.userKey = .ok key) : activity.isOf key = true := by
  simp [isOf, Turn.isOf, keyed]

theorem Activity.isOf_of_ne {activity : Activity} {own key : String}
    (keyed : activity.userKey = .ok own) (differs : own ≠ key) : activity.isOf key = false := by
  simp [isOf, Turn.isOf, keyed, differs]

theorem Activity.userKey_congr {activity other : Activity}
    (channel : other.channel = activity.channel) (sender : other.sender = activity.sender) :
    other.userKey = activity.userKey := by
  simp only [userKey, channel, sender]

/-- All that is banked and all that waits is at home where it is kept. -/
structure World.Housed (home : String → String → Prop) (stock : World Unit) : Prop where
  stored : ∀ key flow, Flow.stored stock.documents key = .ok flow →
    flow.Within (Activity.Housed home key)
  waiting : ∀ activity ∈ stock.queue.waiting, ∃ key, activity.Housed home key

/-- Among the affairs of many, a store holds for the user of a key what another one holds. -/
structure World.Shares (home : String → String → Prop) (key : String) (whole part : World Unit) :
    Prop where
  housed : whole.Housed home
  document : List.lookup key whole.documents = List.lookup key part.documents
  token : ∀ user, home user key → ∀ handler,
    whole.tokens.get? user handler = part.tokens.get? user handler
  waiting : whole.queue.waiting.filter (Activity.isOf key) = part.queue.waiting
  receiving : whole.queue.receiving = part.queue.receiving

/-! ## What a turn changes -/

namespace World

variable {home : String → String → Prop} {stock : World Unit}

theorem Housed.write (housed : stock.Housed home) {state : UserState}
    (within : ∀ flow, Flow.load state = .ok flow →
      flow.Within (Activity.Housed home state.key)) :
    Housed home { stock with documents := state.writing.apply stock.documents } where
  stored := by
    intro key flow stored
    by_cases own : key = state.key
    · subst own
      rw [UserState.stored_writing_self] at stored
      exact within flow stored
    · rw [UserState.stored_writing_of_ne _ _ own] at stored
      exact housed.stored key flow stored
  waiting := housed.waiting

theorem Housed.enqueue (housed : stock.Housed home) {activity : Activity} {key : String}
    (own : activity.Housed home key) {queue : ReplayQueue}
    (accepted : stock.queue.submit activity = .ok queue) :
    Housed home { stock with queue := queue } where
  stored := housed.stored
  waiting := by
    intro waiting member
    rw [(ReplayQueue.eq_of_submit accepted).1] at member
    rcases List.mem_append.mp member with earlier | new
    · exact housed.waiting waiting earlier
    · rw [List.mem_singleton.mp new]
      exact ⟨key, own⟩

/-- What waits behind the oldest activity is at home as well. -/
theorem Housed.behind (housed : stock.Housed home) {activity : Activity} {rest : List Activity}
    (waiting : stock.queue.waiting = activity :: rest) :
    Housed home { stock with queue := { stock.queue with waiting := rest } } where
  stored := housed.stored
  waiting other member := housed.waiting other (waiting ▸ List.mem_cons_of_mem _ member)

end World

/-! ## The user's own turns -/

section

variable {home : String → String → Prop} {turn : Turn} {key : String}

theorem Activity.Housed.congr {activity other : Activity} (housed : activity.Housed home key)
    (channel : other.channel = activity.channel) (sender : other.sender = activity.sender) :
    other.Housed home key :=
  ⟨(Activity.userKey_congr channel sender).trans housed.1, sender ▸ housed.2⟩

namespace TokenCache

variable {cache other : TokenCache} {user handler : String}

/-- Inserting the same into two caches. -/
theorem get?_insert_congr (owner name token : String)
    (same : cache.get? user handler = other.get? user handler) :
    (cache.insert owner name token).get? user handler =
      (other.insert owner name token).get? user handler := by
  by_cases own : user = owner ∧ handler = name
  · obtain ⟨rfl, rfl⟩ := own
    rw [get?_insert_self, get?_insert_self]
  · have differs : user ≠ owner ∨ handler ≠ name := not_and_or.mp own
    rw [get?_insert_of_ne _ _ differs, get?_insert_of_ne _ _ differs, same]

/-- Removing the same from two caches. -/
theorem get?_remove_congr (owner name : String)
    (same : cache.get? user handler = other.get? user handler) :
    (cache.remove owner name).get? user handler =
      (other.remove owner name).get? user handler := by
  by_cases own : user = owner ∧ handler = name
  · obtain ⟨rfl, rfl⟩ := own
    rw [get?_remove_self, get?_remove_self]
  · have differs : user ≠ owner ∨ handler ≠ name := not_and_or.mp own
    rw [get?_remove_of_ne _ differs, get?_remove_of_ne _ differs, same]

end TokenCache

/-- What is shared stays shared when the user's own turns change both stores. -/
theorem storing_of_shares (own : turn.activity.Housed home key) :
    Storing turn key (Activity.Housed home key) (World.Shares home key) where
  own := own
  address _ _ housed channel sender := housed.congr channel sender
  document _ _ shares := shares.document
  within _ _ shares := shares.housed.stored key
  token _ _ shares := shares.token turn.user own.2
  receiving _ _ shares := shares.receiving
  write := by
    rintro stock other state shares rfl within
    refine { shares with housed := shares.housed.write within, document := ?_ }
    rw [UserState.lookup_writing_self, UserState.lookup_writing_self]
  keep stock other handler token shares := { shares with
    housed := { shares.housed with }
    token := fun user housed name =>
      TokenCache.get?_insert_congr turn.user handler token (shares.token user housed name) }
  drop stock other handler shares := { shares with
    housed := { shares.housed with }
    token := fun user housed name =>
      TokenCache.get?_remove_congr turn.user handler (shares.token user housed name) }
  enqueue := by
    intro stock other activity queue otherQueue shares own accepted otherAccepted
    obtain ⟨waiting, receiving⟩ := ReplayQueue.eq_of_submit accepted
    obtain ⟨otherWaiting, otherReceiving⟩ := ReplayQueue.eq_of_submit otherAccepted
    refine { shares with
      housed := shares.housed.enqueue own accepted
      waiting := ?_
      receiving := (receiving.trans shares.receiving).trans otherReceiving.symm }
    simp only [waiting, otherWaiting, List.filter_append, shares.waiting, List.filter_singleton,
      Activity.isOf_of_userKey own.1, cond_true]
  count _ _ _ shares := { shares with housed := { shares.housed with } }

/-! ## The turns of others -/

/-- What is shared stays shared when the turns of another user change the store of many. -/
theorem storing_of_others {own : String} (oneHome : OneHome home)
    (housed : turn.activity.Housed home own) (differs : own ≠ key) (part : World Unit) :
    Storing turn own (Activity.Housed home own)
      (fun stock other => stock = other ∧ World.Shares home key stock part) where
  own := housed
  address _ _ housed channel sender := housed.congr channel sender
  document _ _ same := congrArg (fun stock : World Unit => List.lookup own stock.documents) same.1
  within _ _ same := same.2.housed.stored own
  token _ _ same handler :=
    congrArg (fun stock : World Unit => stock.tokens.get? turn.user handler) same.1
  receiving _ _ same := congrArg (fun stock : World Unit => stock.queue.receiving) same.1
  write := by
    rintro stock _ state ⟨rfl, shares⟩ rfl within
    refine ⟨rfl, { shares with housed := shares.housed.write within, document := ?_ }⟩
    rw [UserState.lookup_writing_of_ne _ _ differs.symm]
    exact shares.document
  keep := by
    rintro stock _ handler token ⟨rfl, shares⟩
    refine ⟨rfl, { shares with
      housed := { shares.housed with }
      token := fun user lives name => ?_ }⟩
    have stranger : user ≠ turn.user := by
      rintro rfl
      exact differs (oneHome _ _ _ housed.2 lives)
    rw [TokenCache.get?_insert_of_ne _ _ (.inl stranger)]
    exact shares.token user lives name
  drop := by
    rintro stock _ handler ⟨rfl, shares⟩
    refine ⟨rfl, { shares with
      housed := { shares.housed with }
      token := fun user lives name => ?_ }⟩
    have stranger : user ≠ turn.user := by
      rintro rfl
      exact differs (oneHome _ _ _ housed.2 lives)
    rw [TokenCache.get?_remove_of_ne _ (.inl stranger)]
    exact shares.token user lives name
  enqueue := by
    rintro stock _ activity queue otherQueue ⟨rfl, shares⟩ own accepted otherAccepted
    rw [accepted] at otherAccepted
    cases otherAccepted
    obtain ⟨waiting, receiving⟩ := ReplayQueue.eq_of_submit accepted
    refine ⟨rfl, { shares with
      housed := shares.housed.enqueue own accepted
      waiting := ?_
      receiving := receiving.trans shares.receiving }⟩
    simp only [waiting, List.filter_append, shares.waiting, List.filter_singleton,
      Activity.isOf_of_ne own.1 differs, cond_false, List.append_nil]
  count := by
    rintro stock _ metric ⟨rfl, shares⟩
    exact ⟨rfl, { shares with housed := { shares.housed with } }⟩

end
end SignInFlow
