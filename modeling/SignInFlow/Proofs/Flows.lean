import SignInFlow.Proofs.Codec
import SignInFlow.Flow

/-!
# Flows in the user's state

A flow that is stored is loaded again, settled, and the other properties of a user have no part
in it.
-/

namespace SignInFlow

/-- The flow as it comes back from a store. -/
def Flow.settled : Flow → Flow
  | .idle => .idle
  | .active handler banked => .active handler (banked.map Banked.settled)

namespace UserState

variable (state : UserState) {name other : String} (value : Json)

@[simp] theorem lookup_set_self :
    List.lookup name (state.set name value).properties = some value := by
  simp [set]

theorem lookup_set_of_ne (differs : other ≠ name) :
    List.lookup other (state.set name value).properties = List.lookup other state.properties :=
  Dictionary.lookup_put_of_ne differs value _

@[simp] theorem lookup_remove_self : List.lookup name (state.remove name).properties = none := by
  unfold remove
  cases has : state.has name with
  | true => simp
  | false => simpa [UserState.has, Dictionary.has] using has

theorem lookup_remove_of_ne (differs : other ≠ name) :
    List.lookup other (state.remove name).properties = List.lookup other state.properties := by
  unfold remove
  cases state.has name with
  | true => exact Dictionary.lookup_drop_of_ne differs _
  | false => rfl

@[simp] theorem set_key : (state.set name value).key = state.key := rfl

@[simp] theorem remove_key : (state.remove name).key = state.key := by
  unfold remove
  cases state.has name <;> rfl

variable {state}

theorem remove_dirty (dirty : state.dirty = true) : (state.remove name).dirty = true := by
  unfold remove
  cases state.has name with
  | true => rfl
  | false => exact dirty

theorem remove_dirty_of_has (has : state.has name = true) : (state.remove name).dirty = true := by
  simp [remove, has]

end UserState

theorem lookup_select (documents : Dictionary Json) (key : String) :
    List.lookup key (Storage.select documents [key]) = List.lookup key documents := by
  unfold Storage.select Dictionary.ofEntries
  cases found : List.lookup key documents with
  | none => simp [found]
  | some document => simp [found, Dictionary.put]

namespace Flow

/-- The two properties that keep a flow decide which one it is. -/
theorem load_congr {state other : UserState}
    (handlers : List.lookup handlerKey other.properties = List.lookup handlerKey state.properties)
    (bankeds : List.lookup bankedKey other.properties = List.lookup bankedKey state.properties) :
    load other = load state := by
  simp only [load, UserState.read, handlers, bankeds]

theorem handlerKey_ne_bankedKey : handlerKey ≠ bankedKey := by decide

@[simp] theorem store_key (flow : Flow) (state : UserState) :
    (flow.store state).key = state.key := by
  cases flow with
  | idle => simp [store]
  | active handler banked => cases banked <;> simp [store]

theorem lookup_handlerKey_store (flow : Flow) (state : UserState) :
    List.lookup handlerKey (flow.store state).properties = flow.handler.map .str := by
  cases flow with
  | idle =>
      simp [store, UserState.lookup_remove_of_ne _ handlerKey_ne_bankedKey, handler]
  | active owner banked =>
      cases banked with
      | none => simp [store, UserState.lookup_remove_of_ne _ handlerKey_ne_bankedKey, handler]
      | some banked => simp [store, UserState.lookup_set_of_ne _ _ handlerKey_ne_bankedKey, handler]

theorem lookup_bankedKey_store (flow : Flow) (state : UserState) :
    List.lookup bankedKey (flow.store state).properties = flow.banked.map Banked.toJson := by
  cases flow with
  | idle => simp [store, banked]
  | active owner banked => cases banked <;> simp [store, Flow.banked]

/-- A flow is loaded as it was stored, settled. -/
@[simp] theorem load_store (flow : Flow) (state : UserState) :
    load (flow.store state) = .ok flow.settled := by
  simp only [load, UserState.read, lookup_handlerKey_store, lookup_bankedKey_store]
  cases flow with
  | idle => rfl
  | active handler banked =>
      cases banked with
      | none => rfl
      | some banked =>
          simp only [Flow.handler, Flow.banked, Option.map_some, Json.text_str,
            Banked.ofJson_toJson]
          rfl

theorem store_active_dirty (handler : String) (banked : Banked) (state : UserState) :
    (store (.active handler (some banked)) state).dirty = true := rfl

/-- A flow cannot be cleared without a change. -/
theorem store_idle_dirty {state : UserState} {handler : String} {banked : Option Banked}
    (active : load state = .ok (.active handler banked)) : (store .idle state).dirty = true := by
  have has : state.has handlerKey = true := by
    unfold UserState.has Dictionary.has
    cases found : List.lookup handlerKey state.properties with
    | some value => rfl
    | none =>
        simp only [load, UserState.read, found] at active
        cases active
  exact UserState.remove_dirty (UserState.remove_dirty_of_has has)

/-- Whether a property is none of the two that keep the flow. -/
def foreign (name : String) : Bool := name != handlerKey && name != bankedKey

theorem foreign_iff (name : String) :
    foreign name = true ↔ name ≠ handlerKey ∧ name ≠ bankedKey := by
  simp [foreign]

theorem load_set (state : UserState) {name : String} (value : Json)
    (foreign : foreign name = true) :
    load (state.set name value) = load state := by
  obtain ⟨notHandler, notBanked⟩ := (foreign_iff name).mp foreign
  exact load_congr (UserState.lookup_set_of_ne _ _ notHandler.symm)
    (UserState.lookup_set_of_ne _ _ notBanked.symm)

theorem load_remove (state : UserState) {name : String} (foreign : foreign name = true) :
    load (state.remove name) = load state := by
  obtain ⟨notHandler, notBanked⟩ := (foreign_iff name).mp foreign
  exact load_congr (UserState.lookup_remove_of_ne _ notHandler.symm)
    (UserState.lookup_remove_of_ne _ notBanked.symm)

/-- The flow that is stored for a user. -/
def stored (documents : Dictionary Json) (key : String) : Except Error Flow := do
  let properties ← UserState.propertiesOf key (List.lookup key documents)
  load ⟨key, properties, false⟩

/-- A state that has been loaded tells of the flow that is stored. -/
theorem load_eq_stored {documents : Dictionary Json} {state : UserState}
    (held : UserState.propertiesOf state.key (List.lookup state.key documents) =
      .ok state.properties) :
    load state = stored documents state.key := by
  simp only [stored, held]
  rfl

/-- Whether a flow with something banked is stored for a user. -/
def banks (documents : Dictionary Json) (key : String) : Bool :=
  match stored documents key with
  | .ok flow => flow.banked.isSome
  | .error _ => false

theorem banks_iff (documents : Dictionary Json) (key : String) : banks documents key = true ↔
    ∃ handler banked, stored documents key = .ok (.active handler (some banked)) := by
  unfold banks
  cases stored documents key with
  | error error => simp
  | ok flow =>
      cases flow with
      | idle => simp [banked]
      | active handler payload => cases payload <;> simp [banked]

end Flow
end SignInFlow
