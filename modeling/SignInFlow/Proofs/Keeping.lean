import SignInFlow.Proofs.Flows

/-!
# How a flow is kept

A flow is kept in two properties of its user, among any others and whatever these two held before.
What is loaded is the flow that was stored, the other properties have no part in it, and once the
flow has ended nothing of it is left.
-/

namespace SignInFlow

/-! ## Entries that a dictionary keeps -/

namespace Dictionary

variable {α : Type}

theorem drop_eq_filter (name : String) (entries : Dictionary α) :
    drop name entries = entries.filter fun entry => name != entry.1 := by
  induction entries with
  | nil => rfl
  | cons entry rest ih =>
      by_cases same : name = entry.1
      · simp [drop, ← same, ih]
      · simp [drop, same, ih]

theorem drop_of_not_has {name : String} {entries : Dictionary α}
    (absent : has name entries = false) : drop name entries = entries := by
  have missing : List.lookup name entries = none := by simpa [has] using absent
  rw [drop_eq_filter, List.filter_eq_self]
  exact List.lookup_eq_none_iff.mp missing

/-- Entering a value does not show among the entries whose names count, if its own does not. -/
theorem filter_put {counts : String → Bool} {name : String} (left : counts name = false) (value : α)
    (entries : Dictionary α) :
    ((put name value entries).filter fun entry => counts entry.1) =
      entries.filter fun entry => counts entry.1 := by
  induction entries with
  | nil => simp [put, left]
  | cons entry rest ih =>
      obtain ⟨key, stored⟩ := entry
      by_cases same : name = key
      · subst same
        simp [put, left]
      · by_cases before : name < key <;> simp [put, same, before, List.filter_cons, left, ih]

/-- A value that has been entered is there to be entered again. -/
theorem put_put (name : String) (value : α) (entries : Dictionary α) :
    put name value (put name value entries) = put name value entries := by
  induction entries with
  | nil => simp [put]
  | cons entry rest ih =>
      obtain ⟨key, stored⟩ := entry
      by_cases same : name = key
      · simp [put, same]
      · by_cases before : name < key <;> simp [put, same, before, ih]

/-- A value that is there stays in its place when another one is entered behind it. -/
theorem put_of_there {name later : String} (behind : name < later) {value : α} (other : α)
    {entries : Dictionary α} (there : put name value entries = entries) :
    put name value (put later other entries) = put later other entries := by
  induction entries with
  | nil => cases there
  | cons entry rest ih =>
      obtain ⟨key, stored⟩ := entry
      by_cases same : name = key
      · subst same
        have apart : later ≠ name := by grind
        have after : ¬later < name := by grind
        obtain ⟨⟩ : value = stored := by simpa [put] using there
        simp [put, apart, after]
      · by_cases before : name < key
        · have longer := congrArg List.length there
          simp [put, same, before] at longer
        · have apart : later ≠ key := by grind
          have after : ¬later < key := by grind
          have there : put name value rest = rest := by simpa [put, same, before] using there
          simp [put, same, before, apart, after, ih there]

/-- A value that is there stays in its place when another one is taken out. -/
theorem put_of_there_drop {name other : String} (apart : other ≠ name) {value : α}
    {entries : Dictionary α} (there : put name value entries = entries) :
    put name value (drop other entries) = drop other entries := by
  induction entries with
  | nil => cases there
  | cons entry rest ih =>
      obtain ⟨key, stored⟩ := entry
      by_cases same : name = key
      · subst same
        obtain ⟨⟩ : value = stored := by simpa [put] using there
        simp [put, drop, apart]
      · by_cases before : name < key
        · have longer := congrArg List.length there
          simp [put, same, before] at longer
        · have there : put name value rest = rest := by simpa [put, same, before] using there
          by_cases taken : other = key
          · simpa [drop, taken] using ih there
          · simp [put, drop, same, before, taken, ih there]

end Dictionary

theorem UserState.remove_properties (state : UserState) (name : String) :
    (state.remove name).properties = state.properties.drop name := by
  unfold remove
  cases has : state.has name with
  | true => rfl
  | false => exact (Dictionary.drop_of_not_has has).symm

namespace Flow

/-! ## The properties beside a flow -/

/-- The properties of a user that have no part in the flow. -/
def others (state : UserState) : Dictionary Json :=
  state.properties.filter fun entry => foreign entry.1

theorem lookup_others (state : UserState) (name : String) :
    List.lookup name (others state) =
      if foreign name then List.lookup name state.properties else none := by
  unfold others
  induction state.properties with
  | nil => simp
  | cons entry rest ih =>
      obtain ⟨key, value⟩ := entry
      by_cases same : name = key
      · subst same
        cases counts : foreign name with
        | true => simp [counts]
        | false => simpa [counts] using ih
      · have away : (name == key) = false := by simpa using same
        cases counts : foreign key <;> simp [counts, List.lookup_cons, away, ih]

theorem others_set (state : UserState) {name : String} (value : Json)
    (own : foreign name = false) : others (state.set name value) = others state :=
  Dictionary.filter_put own value _

theorem others_remove (state : UserState) {name : String} (own : foreign name = false) :
    others (state.remove name) = others state := by
  simp only [others, UserState.remove_properties, Dictionary.drop_eq_filter, List.filter_filter]
  refine List.filter_congr fun entry _ => ?_
  cases shown : foreign entry.1 with
  | false => rfl
  | true =>
      have apart : name ≠ entry.1 := by
        rintro rfl
        exact absurd (own.symm.trans shown) Bool.false_ne_true
      simpa using apart

/-- Storing a flow leaves all other properties as they are. -/
@[simp] theorem others_store (flow : Flow) (state : UserState) :
    others (flow.store state) = others state := by
  have handler : foreign handlerKey = false := rfl
  have banked : foreign bankedKey = false := rfl
  cases flow with
  | idle => simp only [store, others_remove _ handler, others_remove _ banked]
  | active owner payload =>
      cases payload with
      | none => simp only [store, others_set _ _ handler, others_remove _ banked]
      | some payload => simp only [store, others_set _ _ handler, others_set _ _ banked]

/-- Storing that there is no flow leaves nothing but the other properties. -/
theorem properties_store_idle (state : UserState) :
    (store .idle state).properties = others state := by
  simp only [store, others, UserState.remove_properties, Dictionary.drop_eq_filter,
    List.filter_filter]
  refine List.filter_congr fun entry _ => ?_
  rw [foreign, Bool.and_comm, bne_comm, bne_comm (a := entry.1) (b := bankedKey)]

/-- Nothing of an earlier flow is left then, not even what was banked without a handler. -/
theorem has_store_idle (state : UserState) {name : String} (own : foreign name = false) :
    (store .idle state).has name = false := by
  rw [UserState.has, Dictionary.has, properties_store_idle, lookup_others, own]
  rfl

theorem handlerKey_lt_bankedKey : handlerKey < bankedKey := by decide

/-- Storing a flow that is stored changes no property. -/
theorem properties_store_store (flow : Flow) (state : UserState) :
    (flow.store (flow.store state)).properties = (flow.store state).properties := by
  cases flow with
  | idle =>
      rw [properties_store_idle, others_store, properties_store_idle]
  | active owner payload =>
      have entered := Dictionary.put_put handlerKey (Json.str owner) state.properties
      cases payload with
      | none =>
          have there := Dictionary.put_of_there_drop handlerKey_ne_bankedKey.symm entered
          simp only [store, UserState.set, UserState.remove_properties]
          rw [there]
          exact Dictionary.drop_of_not_has (by simp [Dictionary.has])
      | some payload =>
          have there := Dictionary.put_of_there handlerKey_lt_bankedKey payload.toJson entered
          simp only [store, UserState.set]
          rw [there, Dictionary.put_put]

/-- In the properties, too, something is banked only beside a handler. -/
theorem has_handlerKey_of_has_bankedKey (flow : Flow) (state : UserState)
    (banks : (flow.store state).has bankedKey = true) :
    (flow.store state).has handlerKey = true := by
  simp only [UserState.has, Dictionary.has, lookup_bankedKey_store, lookup_handlerKey_store]
    at banks ⊢
  cases flow with
  | idle => cases banks
  | active handler banked => rfl

/-! ## Flows that a turn comes to hold -/

/-- What a turn does with the flow that it holds. -/
inductive Move where
  /-- It holds none. -/
  | forget
  /-- It takes the flow that a state tells of, if that can be read. -/
  | load (state : UserState)
  /-- It begins a flow and banks what started it. -/
  | start (handler : String) (banked : Banked)
  /-- It ends the flow. -/
  | finish

/-- The flow that a turn holds after a move. -/
def Move.perform (flow : Flow) : Move → Flow
  | forget => .idle
  | load state =>
      match Flow.load state with
      | .ok loaded => loaded
      | .error _ => flow
  | start handler banked => .active handler (some banked)
  | finish => .idle

/-- The flow that a turn has come to hold by some moves. -/
def obtained (moves : List Move) : Flow := moves.foldl Move.perform .idle

/-- A flow and the properties of its user correspond, however the flow was obtained and whatever the
properties held before.  Something is banked only while a handler is active, in the flow and in the
properties; what is loaded is the flow that was stored, settled; no other property has changed, and
storing the flow again changes none at all.  A flow that has ended leaves just the other properties,
and so does one that is begun, stored, loaded, ended and stored. -/
theorem kept_in_properties (moves : List Move) (state : UserState) :
    let flow := obtained moves
    let kept := flow.store state
    let ended := (Move.finish.perform flow).store state
    ((flow.banked.isSome = true → flow.handler.isSome = true) ∧
      (kept.has bankedKey = true → kept.has handlerKey = true)) ∧
    load kept = .ok flow.settled ∧
    others kept = others state ∧
    (flow.store kept).properties = kept.properties ∧
    (ended.properties = others state ∧
      ended.has handlerKey = false ∧ ended.has bankedKey = false) ∧
    ∀ handler banked,
      let begun := ((Move.start handler banked).perform flow).store state
      ∃ loaded, load begun = .ok loaded ∧ loaded = .active handler (some banked.settled) ∧
        ((Move.finish.perform loaded).store begun).properties = others state := by
  intro flow kept ended
  refine ⟨⟨fun banks => ?_, has_handlerKey_of_has_bankedKey flow state⟩, load_store flow state,
    others_store flow state, properties_store_store flow state, ⟨?_, ?_, ?_⟩,
    fun handler banked => ?_⟩
  · cases holds : flow with
    | idle => simp [holds, Flow.banked] at banks
    | active handler banked => rfl
  · exact properties_store_idle state
  · exact has_store_idle state rfl
  · exact has_store_idle state rfl
  · refine ⟨_, load_store _ state, rfl, ?_⟩
    exact (properties_store_idle _).trans (others_store _ state)

end Flow
end SignInFlow
