import SignInFlow.Proofs.Agreement
import SignInFlow.Proofs.Outcome

/-!
# The state of a user as a view of its document

A turn works on the properties that it has loaded, and writes them back.  Whatever it does with them
and whichever access is refused, the properties are what its edits say; the document changes only
where a changed state is written back, and is then just the properties; and a state that is not
marked as changed is what anybody would load.
-/

namespace SignInFlow

variable {σ : Type}

/-! ## Edits -/

/-- What a turn does with the state of its user. -/
inductive Edit where
  /-- A property is set. -/
  | set (name : String) (value : Json)
  /-- A property is removed. -/
  | remove (name : String)
  /-- A flow is kept in the properties. -/
  | store (flow : Flow)
  /-- The state is written back. -/
  | save

namespace Edit

/-- Carries out an edit. -/
def perform (services : Services σ) : Edit → TurnAction σ Unit
  | set name value => TurnAction.modifyState fun state => state.set name value
  | remove name => TurnAction.modifyState fun state => state.remove name
  | store flow => TurnAction.modifyState flow.store
  | save => TurnAction.save services

/-- What an edit says that a property is from now on, if it says anything of it. -/
def tells (name : String) : Edit → Option (Option Json)
  | set other value => if name = other then some (some value) else none
  | remove other => if name = other then some none else none
  | store flow =>
      if name = Flow.handlerKey then some (flow.handler.map .str)
      else if name = Flow.bankedKey then some (flow.banked.map Banked.toJson)
      else none
  | save => none

/-- What a property is after edits, the latest first: what the latest of them says that says
anything of it, and otherwise what it was. -/
def final (before : Dictionary Json) (name : String) : List Edit → Option Json
  | [] => List.lookup name before
  | edit :: earlier => (edit.tells name).getD (final before name earlier)

end Edit

/-- What edits, the latest first, make of the scope of a turn.  In between anything else may happen
to the world, but for the document of the turn. -/
inductive Edited (services : Services σ) (start : Scope σ) : List Edit → Scope σ → Prop where
  | nil : Edited services start [] start
  | edit {edits : List Edit} {scope : Scope σ} (edited : Edited services start edits scope)
      (edit : Edit) : Edited services start (edit :: edits) (remains (edit.perform services scope))
  | elsewhere {edits : List Edit} {scope : Scope σ} (edited : Edited services start edits scope)
      (world : World σ) (spares : List.lookup scope.state.key world.documents =
        List.lookup scope.state.key scope.world.documents) :
      Edited services start edits { scope with world := world }

/-! ## What edits say of the properties -/

namespace UserState

theorem lookup_set (state : UserState) (name other : String) (value : Json) :
    List.lookup name (state.set other value).properties =
      if name = other then some value else List.lookup name state.properties := by
  split
  · rename_i same
    rw [same, lookup_set_self]
  · rename_i differs
    exact lookup_set_of_ne state value differs

theorem lookup_remove (state : UserState) (name other : String) :
    List.lookup name (state.remove other).properties =
      if name = other then none else List.lookup name state.properties := by
  split
  · rename_i same
    rw [same, lookup_remove_self]
  · rename_i differs
    exact lookup_remove_of_ne state differs

end UserState

/-- A flow is kept in two properties, and says nothing of the others. -/
theorem Flow.lookup_store_of_foreign (flow : Flow) (state : UserState) {name : String}
    (foreign : Flow.foreign name = true) :
    List.lookup name (flow.store state).properties = List.lookup name state.properties := by
  obtain ⟨notHandler, notBanked⟩ := (Flow.foreign_iff name).mp foreign
  cases flow with
  | idle => simp [store, UserState.lookup_remove, notHandler, notBanked]
  | active handler banked =>
      cases banked <;>
        simp [store, UserState.lookup_set, UserState.lookup_remove, notHandler, notBanked]

theorem Flow.lookup_store (flow : Flow) (state : UserState) (name : String) :
    List.lookup name (flow.store state).properties =
      ((Edit.store flow).tells name).getD (List.lookup name state.properties) := by
  simp only [Edit.tells]
  split
  · rename_i same
    rw [same, lookup_handlerKey_store]
    rfl
  split
  · rename_i same
    rw [same, lookup_bankedKey_store]
    rfl
  · rename_i notHandler notBanked
    exact lookup_store_of_foreign flow state ((foreign_iff name).mpr ⟨notHandler, notBanked⟩)

/-! ## A change is always marked -/

/-- A state has stayed as it is, or is marked as changed. -/
structure UserState.Amends (before after : UserState) : Prop where
  key : after.key = before.key
  marked : after = before ∨ after.dirty = true

namespace UserState.Amends

variable {before middle after : UserState}

theorem trans (first : Amends before middle) (second : Amends middle after) :
    Amends before after where
  key := second.key.trans first.key
  marked := by
    rcases second.marked with same | dirty
    · rw [same]
      exact first.marked
    · exact .inr dirty

theorem set (state : UserState) (name : String) (value : Json) :
    Amends state (state.set name value) :=
  ⟨rfl, .inr rfl⟩

/-- Removing what is not there is no change. -/
theorem remove (state : UserState) (name : String) : Amends state (state.remove name) where
  key := remove_key state
  marked := by
    cases has : state.has name with
    | true => exact .inr (remove_dirty_of_has has)
    | false => exact .inl (by simp [UserState.remove, has])

theorem store (flow : Flow) (state : UserState) : Amends state (flow.store state) := by
  cases flow with
  | idle => exact (remove state _).trans (remove _ _)
  | active handler banked =>
      cases banked with
      | none => exact (set state _ _).trans (remove _ _)
      | some banked => exact (set state _ _).trans (set _ _ _)

end UserState.Amends

/-! ## Writing back -/

/-- A state that has not changed is not written back. -/
theorem TurnAction.save_of_clean (services : Services σ) {scope : Scope σ}
    (clean : scope.state.dirty = false) : save services scope = .ok () scope := by
  have saved : scope.state.save services scope.world = .ok scope.state scope.world := by
    simp only [UserState.save, clean, Bool.false_eq_true, if_false]
    rfl
  rw [save_eq, saved]

/-- Writing back stores the properties of a state that has changed, or is refused; it touches
nothing else but the host. -/
theorem TurnAction.ends_save_alone (services : Services σ) (scope : Scope σ) :
    Ends (save services) scope
      (fun _ after => ∃ host, after = { scope with
        state := { scope.state with dirty := false }
        world := { scope.world with
          documents :=
            if scope.state.dirty then scope.state.writing.apply scope.world.documents
            else scope.world.documents
          host := host } })
      (fun error after => scope.state.dirty = true ∧
        services.Refuses scope.state.writing error ∧
          ∃ host, after = { scope with world := { scope.world with host := host } }) := by
  unfold Ends
  cases dirty : scope.state.dirty with
  | false =>
      have same : { scope.state with dirty := false } = scope.state := by rw [← dirty]
      rw [save_of_clean services dirty, same]
      exact ⟨scope.world.host, rfl⟩
  | true =>
      rw [save_eq, UserState.save_of_dirty services dirty]
      cases permitted : services.permit scope.state.writing scope.world.host with
      | ok _ host => exact ⟨_, rfl⟩
      | error error host => exact ⟨rfl, ⟨_, host, permitted⟩, host, rfl⟩

namespace UserState

/-- What is stored where a state has been written back: just its properties, and no document at all
where there are none. -/
def IsStored (state : UserState) (documents : Dictionary Json) : Prop :=
  List.lookup state.key documents =
    if state.properties.isEmpty then none else some (.obj state.properties)

theorem isStored_writing (state : UserState) (documents : Dictionary Json) :
    state.IsStored (state.writing.apply documents) :=
  state.lookup_writing_self documents

/-- What is stored is what anybody loads. -/
theorem IsStored.propertiesOf {state : UserState} {documents : Dictionary Json}
    (stored : state.IsStored documents) :
    propertiesOf state.key (List.lookup state.key documents) = .ok state.properties := by
  rw [stored]
  cases empty : state.properties.isEmpty with
  | true => rw [List.isEmpty_iff.mp empty]; rfl
  | false => rfl

end UserState

/-- Loading reads what is stored, unless the document holds no properties or the access is
refused. -/
theorem UserState.ends_load_keyed (services : Services σ) {activity : Activity} {key : String}
    (keyed : activity.userKey = .ok key) (world : World σ) :
    Ends (load services activity) world
      (fun state after => state = ⟨key, state.properties, false⟩ ∧
        propertiesOf key (List.lookup key world.documents) = .ok state.properties ∧
          ∃ host, services.permit (.read [key]) world.host = .ok () host ∧
            after = { world with host := services.note (.read [key]) host })
      (fun error _ => services.Refuses (.read [key]) error ∨
        propertiesOf key (List.lookup key world.documents) = .error error) := by
  unfold Ends
  rw [load_eq services keyed]
  cases permitted : services.permit (.read [key]) world.host with
  | error error host => exact .inl ⟨_, host, permitted⟩
  | ok _ host =>
      cases held : propertiesOf key (List.lookup key world.documents) with
      | error error => exact .inr rfl
      | ok properties => exact ⟨rfl, rfl, host, rfl, rfl⟩

/-- Only the state of an activity with a key is loaded. -/
theorem UserState.keyed_of_load {services : Services σ} {activity : Activity}
    {world loaded : World σ} {state : UserState}
    (loads : load services activity world = .ok state loaded) :
    activity.userKey = .ok state.key := by
  cases keyed : activity.userKey with
  | error error =>
      change EStateM.bind (MonadExcept.ofExcept activity.userKey) _ world = _ at loads
      rw [keyed] at loads
      cases loads
  | ok key =>
      obtain ⟨same, -⟩ := (ends_load_keyed services keyed world).of_ok loads
      rw [same]

/-! ## The view -/

/-- What holds after any edits of a state that was loaded. -/
structure Scope.Views (start : UserState) (edits : List Edit) (scope : Scope σ) : Prop where
  own : scope.state.key = start.key
  clean : scope.state.dirty = false →
    UserState.propertiesOf start.key (List.lookup start.key scope.world.documents) =
      .ok scope.state.properties
  final : ∀ name, List.lookup name scope.state.properties =
    Edit.final start.properties name edits

namespace Scope.Views

variable {start : UserState} {edits : List Edit} {scope : Scope σ}

/-- In memory a state is changed as the edit says, and marked. -/
theorem amend (views : scope.Views start edits) (edit : Edit) {state : UserState}
    (amends : scope.state.Amends state)
    (tells : ∀ name, List.lookup name state.properties =
      (edit.tells name).getD (List.lookup name scope.state.properties)) :
    Views start (edit :: edits) { scope with state := state } where
  own := amends.key.trans views.own
  clean := by
    intro clean
    rcases amends.marked with same | dirty
    · subst same
      exact views.clean clean
    · cases clean.symm.trans dirty
  final := by
    intro name
    rw [tells, views.final]
    rfl

theorem save (views : scope.Views start edits) (services : Services σ) :
    Views start (.save :: edits) (remains (TurnAction.save services scope)) := by
  have ends : Ends (TurnAction.save services) scope
      (fun _ after => Views start (.save :: edits) after)
      (fun _ after => Views start (.save :: edits) after) := by
    refine (TurnAction.ends_save_alone services scope).mono ?_ ?_
    · rintro _ _ ⟨host, rfl⟩
      refine ⟨views.own, fun _ => ?_, views.final⟩
      cases dirty : scope.state.dirty with
      | false => exact views.clean dirty
      | true =>
          have stored := scope.state.isStored_writing scope.world.documents
          rw [← views.own]
          exact stored.propertiesOf
    · rintro error _ ⟨dirty, -, host, rfl⟩
      refine ⟨views.own, fun clean => ?_, views.final⟩
      cases clean.symm.trans dirty
  exact ends.left

theorem edit (views : scope.Views start edits) (services : Services σ) (edit : Edit) :
    Views start (edit :: edits) (remains (edit.perform services scope)) := by
  cases edit with
  | set name value =>
      refine views.amend _ (.set scope.state name value) fun other => ?_
      simp only [UserState.lookup_set, Edit.tells]
      split <;> rfl
  | remove name =>
      refine views.amend _ (.remove scope.state name) fun other => ?_
      simp only [UserState.lookup_remove, Edit.tells]
      split <;> rfl
  | store flow =>
      exact views.amend _ (.store flow scope.state) fun name => flow.lookup_store scope.state name
  | save => exact views.save services

end Scope.Views

theorem Edited.views {services : Services σ} {start scope : Scope σ} {edits : List Edit}
    (edited : Edited services start edits scope) (fresh : start.Views start.state []) :
    scope.Views start.state edits := by
  induction edited with
  | nil => exact fresh
  | edit edited edit ih => exact ih.edit services edit
  | @elsewhere edits scope edited world spares ih =>
      refine ⟨ih.own, fun clean => ?_, ih.final⟩
      rw [ih.own] at spares
      rw [spares]
      exact ih.clean clean

/-- What is loaded is a view of what is stored. -/
theorem Scope.views_of_load {services : Services σ} {activity : Activity} {world loaded : World σ}
    {state : UserState} (loads : UserState.load services activity world = .ok state loaded)
    (cancelled : Bool) : Views state [] ⟨loaded, state, cancelled⟩ := by
  have keyed := UserState.keyed_of_load loads
  obtain ⟨-, held, host, -, rfl⟩ := (UserState.ends_load_keyed services keyed world).of_ok loads
  exact ⟨rfl, fun _ => held, fun _ => rfl⟩

/-- Writing back changes no document, or just that of a changed state. -/
theorem TurnAction.save_touches_own (services : Services σ) (scope : Scope σ) :
    (remains (save services scope)).world.documents = scope.world.documents ∨
      scope.state.dirty = true ∧ told (save services scope) = .ok () ∧
        ∀ key, key ≠ scope.state.key →
          List.lookup key (remains (save services scope)).world.documents =
            List.lookup key scope.world.documents := by
  have ends := ends_save_alone services scope
  cases result : save services scope with
  | error error after =>
      obtain ⟨-, -, host, rfl⟩ := ends.of_error result
      exact .inl rfl
  | ok _ after =>
      obtain ⟨host, rfl⟩ := ends.of_ok result
      cases dirty : scope.state.dirty with
      | false => exact .inl rfl
      | true =>
          exact .inr ⟨rfl, rfl, fun key other =>
            scope.state.lookup_writing_of_ne scope.world.documents other⟩

/-- A save that was refused can be made up for, as soon as the same access is permitted. -/
theorem TurnAction.save_of_permitted {services : Services σ} {scope : Scope σ} {left : σ}
    (dirty : scope.state.dirty = true)
    (permitted : services.permit scope.state.writing scope.world.host = .ok () left) :
    ∃ saved, save services scope = .ok () saved ∧
      saved.state = { scope.state with dirty := false } ∧
        scope.state.IsStored saved.world.documents := by
  rw [save_eq, UserState.save_of_dirty services dirty, permitted]
  exact ⟨_, rfl, rfl, scope.state.isStored_writing scope.world.documents⟩

/-- The state that a turn has loaded is a view of one document, through any edits, while nobody else
writes to it.  Its properties are what the edits say.  Where it is not marked as changed, anybody
who loads the user's state loads the same.  An edit leaves all documents as they are, but for a
successful save of a changed state, which touches only its own; afterwards the document is just the
properties, or is gone if there are none.  A save that is refused leaves the documents and the state
as they were, still marked, and what has been set is stored by another save as soon as the access is
permitted. -/
theorem state_views_document {services : Services σ} {activity : Activity} {world loaded : World σ}
    {state : UserState} {cancelled : Bool} {edits : List Edit} {scope : Scope σ}
    (loads : UserState.load services activity world = .ok state loaded)
    (edited : Edited services ⟨loaded, state, cancelled⟩ edits scope) :
    (∀ name, List.lookup name scope.state.properties = Edit.final state.properties name edits) ∧
      (scope.state.dirty = false → ∀ reader : Services σ,
        Ends (UserState.load reader activity) scope.world (fun fresh _ => fresh = scope.state)
          (fun error _ => reader.Refuses (.read [scope.state.key]) error)) ∧
      (∀ edit : Edit, let after := remains (edit.perform services scope)
        after.world.documents = scope.world.documents ∨
          edit = .save ∧ scope.state.dirty = true ∧ told (edit.perform services scope) = .ok () ∧
            ∀ key, key ≠ scope.state.key →
              List.lookup key after.world.documents = List.lookup key scope.world.documents) ∧
      (scope.state.dirty = true → Ends (TurnAction.save services) scope
        (fun _ after => after.state = { scope.state with dirty := false } ∧
          scope.state.IsStored after.world.documents)
        (fun _ failed => failed.world.documents = scope.world.documents ∧
          failed.state = scope.state ∧
            ∀ host left, services.permit scope.state.writing host = .ok () left →
              ∃ saved, TurnAction.save services
                  { failed with world := { failed.world with host := host } } = .ok () saved ∧
                saved.state = { scope.state with dirty := false } ∧
                  scope.state.IsStored saved.world.documents)) := by
  have views := edited.views (Scope.views_of_load loads cancelled)
  have keyed := UserState.keyed_of_load loads
  refine ⟨views.final, fun clean reader => ?_, fun edit => ?_, fun dirty => ?_⟩
  · have held := views.clean clean
    rw [← views.own] at keyed held
    refine (UserState.ends_load_keyed reader keyed scope.world).mono ?_ ?_
    · rintro fresh _ ⟨same, read, -⟩
      obtain same_properties := Except.ok.inj (read.symm.trans held)
      rw [same, same_properties, ← clean]
    · rintro error _ (refuses | unread)
      · exact refuses
      · cases unread.symm.trans held
  · cases edit with
    | set name value => exact .inl rfl
    | remove name => exact .inl rfl
    | store flow => exact .inl rfl
    | save => exact (TurnAction.save_touches_own services scope).imp_right fun saved => ⟨rfl, saved⟩
  · refine (TurnAction.ends_save_alone services scope).mono ?_ ?_
    · rintro _ _ ⟨host, rfl⟩
      rw [dirty]
      exact ⟨rfl, scope.state.isStored_writing scope.world.documents⟩
    · rintro error _ ⟨-, -, host, rfl⟩
      exact ⟨rfl, rfl, fun later left permitted => TurnAction.save_of_permitted dirty permitted⟩

/-- Storage that refuses the first change it is asked for. -/
def Services.hesitant : Services Nat :=
  { Services.lenient with
    permit := fun access host =>
      match access, host with
      | .write _, 0 | .delete _, 0 => .error (.storageFailed "write unavailable") 1
      | _, _ => .ok () host }

/-- A world in which a note is stored for a user. -/
def World.noted : World Nat :=
  { World.initial 0 with documents := [("chat/users/ada", .obj [("note", .str "old")])] }

/-- What the user says, to have the note changed. -/
def noteActivity : Activity := .message "chat" "ada" "room" "change my note"

/-- The note is changed, and the first save refused: the old note is still stored, the new one is
still there to be saved, and is stored by the next save and loaded from then on. -/
theorem note_survives_refusal : ∃ state loaded scope,
    UserState.load .hesitant noteActivity World.noted = .ok state loaded ∧
      Edited .hesitant ⟨loaded, state, false⟩ [.save, .set "note" (.str "new")] scope ∧
      scope.world.documents = World.noted.documents ∧
      List.lookup "note" scope.state.properties = some (.str "new") ∧
      ∃ saved, TurnAction.save .hesitant scope = .ok () saved ∧
        List.lookup "chat/users/ada" saved.world.documents =
            some (.obj [("note", .str "new")]) ∧
          ∃ fresh left, UserState.load .hesitant noteActivity saved.world = .ok fresh left ∧
            fresh = saved.state := by
  let state : UserState := ⟨"chat/users/ada", [("note", .str "old")], false⟩
  have loads : UserState.load .hesitant noteActivity World.noted = .ok state World.noted := rfl
  have fresh : Edited .hesitant ⟨World.noted, state, false⟩ [] ⟨World.noted, state, false⟩ := .nil
  have refused := (fresh.edit (.set "note" (.str "new"))).edit .save
  obtain ⟨tells, -, -, -⟩ := state_views_document loads refused
  obtain ⟨-, views, -, -⟩ := state_views_document loads (refused.edit .save)
  refine ⟨state, World.noted, _, loads, refused, rfl, tells "note", _, rfl, rfl, _, _, rfl, ?_⟩
  exact (views rfl .hesitant).of_ok rfl

end SignInFlow
