import SignInFlow.Proofs.Verdicts
import SignInFlow.Proofs.Withdrawal

/-!
# Making a registry, and looking names up in it

A registry is made just if the names are pairwise different and its default is one of them; a
repeated name is told before anything about the default.  In a registry that was made, every way to
look a name up agrees with every other: all of them find the one handler of the name, or none does.
-/

namespace SignInFlow

/-! ## Repeated names -/

/-- A name that was seen, or that comes twice, is what a repetition is. -/
theorem firstRepeated_eq_none_iff {seen names : List String} :
    firstRepeated seen names = none ↔ names.Nodup ∧ ∀ name ∈ names, name ∉ seen := by
  induction names generalizing seen with
  | nil => simp [firstRepeated]
  | cons name rest ih =>
      rw [firstRepeated]
      by_cases known : name ∈ seen
      · simp [known]
      · rw [if_neg known, ih, List.nodup_cons]
        constructor
        · rintro ⟨distinct, unseen⟩
          refine ⟨⟨fun again => unseen name again List.mem_cons_self, distinct⟩, ?_⟩
          intro other member
          rcases List.mem_cons.mp member with rfl | member
          · exact known
          · exact fun among => unseen other member (List.mem_cons_of_mem _ among)
        · rintro ⟨⟨once, distinct⟩, unseen⟩
          refine ⟨distinct, fun other member among => ?_⟩
          rcases List.mem_cons.mp among with rfl | among
          · exact once member
          · exact unseen other (List.mem_cons_of_mem _ member) among

/-- The first repeated name is the first that has come before. -/
theorem split_of_firstRepeated {seen names : List String} {name : String}
    (repeated : firstRepeated seen names = some name) :
    ∃ before after, names = before ++ name :: after ∧ before.Nodup ∧
      (∀ other ∈ before, other ∉ seen) ∧ (name ∈ seen ∨ name ∈ before) := by
  induction names generalizing seen with
  | nil => cases repeated
  | cons first rest ih =>
      rw [firstRepeated] at repeated
      by_cases known : first ∈ seen
      · rw [if_pos known] at repeated
        cases repeated
        exact ⟨[], rest, rfl, .nil, by simp, .inl known⟩
      · rw [if_neg known] at repeated
        obtain ⟨before, after, rfl, distinct, unseen, again⟩ := ih repeated
        refine ⟨first :: before, after, rfl, List.nodup_cons.mpr ⟨?_, distinct⟩, ?_, ?_⟩
        · exact fun among => unseen first among List.mem_cons_self
        · intro other member
          rcases List.mem_cons.mp member with rfl | member
          · exact known
          · exact fun among => unseen other member (List.mem_cons_of_mem _ among)
        · rcases again with again | among
          · rcases List.mem_cons.mp again with rfl | again
            · exact .inr List.mem_cons_self
            · exact .inl again
          · exact .inr (List.mem_cons_of_mem _ among)

/-! ## The default -/

/-- There is a default: the configured one is registered, or there is a first name. -/
def Eligible (names : List String) : Option String → Prop
  | some name => name ∈ names
  | none => names ≠ []

instance (names : List String) : (configured : Option String) →
    Decidable (Eligible names configured)
  | some name => inferInstanceAs (Decidable (name ∈ names))
  | none => inferInstanceAs (Decidable (names ≠ []))

/-- Why there is no default. -/
def undefaulted : Option String → Error
  | some name => .handlerNotFound name
  | none => .noHandlers

theorem exists_defaultName {names : List String} {configured : Option String}
    (eligible : Eligible names configured) : ∃ name, defaultName names configured = .ok name := by
  cases configured with
  | some asked => exact ⟨asked, if_pos eligible⟩
  | none =>
      cases names with
      | nil => exact absurd rfl eligible
      | cons first rest => exact ⟨first, rfl⟩

theorem eligible_of_defaultName {names : List String} {configured : Option String} {name : String}
    (found : defaultName names configured = .ok name) :
    Eligible names configured ∧ name ∈ names ∧ configured.or names.head? = some name := by
  cases configured with
  | some asked =>
      by_cases member : asked ∈ names
      · rw [defaultName, if_pos member] at found
        cases found
        exact ⟨member, member, rfl⟩
      · rw [defaultName, if_neg member] at found
        cases found
  | none =>
      cases names with
      | nil => cases found
      | cons first rest =>
          cases found
          exact ⟨List.cons_ne_nil _ _, List.mem_cons_self, rfl⟩

theorem defaultName_of_not_eligible {names : List String} {configured : Option String}
    (unfit : ¬Eligible names configured) :
    defaultName names configured = .error (undefaulted configured) := by
  cases configured with
  | some asked => exact if_neg unfit
  | none =>
      cases names with
      | nil => rfl
      | cons first rest => exact absurd (List.cons_ne_nil _ _) unfit

namespace Registry

variable {σ : Type}

/-- Without repeated names it is up to the default whether a registry is made. -/
theorem ofHandlers_of_nodup {handlers : List (Handler σ)} (configured : Option String)
    (distinct : (handlers.map Handler.name).Nodup) :
    ofHandlers handlers configured =
      (defaultName (handlers.map Handler.name) configured).map (Registry.mk handlers) := by
  have once : firstRepeated [] (handlers.map Handler.name) = none :=
    firstRepeated_eq_none_iff.mpr ⟨distinct, by simp⟩
  rw [ofHandlers, once]
  cases defaultName (handlers.map Handler.name) configured <;> rfl

/-- A repeated name is told, whatever the default is. -/
theorem ofHandlers_of_not_nodup {handlers : List (Handler σ)} (configured : Option String)
    (repeats : ¬(handlers.map Handler.name).Nodup) :
    ∃ before name after, handlers.map Handler.name = before ++ name :: after ∧ before.Nodup ∧
      name ∈ before ∧ ofHandlers handlers configured =
        .error (.configuration ("authentication handler '" ++ name ++ "' registered twice")) := by
  cases repeated : firstRepeated [] (handlers.map Handler.name) with
  | none => exact absurd (firstRepeated_eq_none_iff.mp repeated).1 repeats
  | some name =>
      obtain ⟨before, after, split, distinct, -, again⟩ := split_of_firstRepeated repeated
      refine ⟨before, name, after, split, distinct, again.resolve_left (by simp), ?_⟩
      rw [ofHandlers, repeated]

/-- What a registry that was made holds. -/
theorem of_ofHandlers {handlers : List (Handler σ)} {configured : Option String}
    {registry : Registry σ} (made : ofHandlers handlers configured = .ok registry) :
    (handlers.map Handler.name).Nodup ∧ Eligible (handlers.map Handler.name) configured ∧
      registry.handlers = handlers ∧ registry.default ∈ registry.names ∧
      configured.or registry.names.head? = some registry.default := by
  by_cases distinct : (handlers.map Handler.name).Nodup
  · rw [ofHandlers_of_nodup configured distinct] at made
    cases found : defaultName (handlers.map Handler.name) configured with
    | error error =>
        rw [found] at made
        cases made
    | ok name =>
        rw [found] at made
        cases made
        obtain ⟨eligible, member, which⟩ := eligible_of_defaultName found
        exact ⟨distinct, eligible, rfl, member, which⟩
  · obtain ⟨_, _, _, -, -, -, refused⟩ := ofHandlers_of_not_nodup configured distinct
    cases refused.symm.trans made

/-! ## Looking a name up -/

/-- A handler is the one of a name, and whatever is asked of the registry under that name is asked
of the handler. -/
structure Serves (registry : Registry σ) (name : String) (handler : Handler σ) : Prop where
  registered : handler ∈ registry.handlers
  named : handler.name = name
  only : ∀ other ∈ registry.handlers, other.name = name → other = handler
  resolves : registry.resolve name = .ok handler
  signIn : ∀ turn (request : Request) visit, request.handler = name →
    told (registry.signIn turn request visit) = converted (told (handler.signIn turn request visit))
      ∧ remains (registry.signIn turn request visit) = remains (handler.signIn turn request visit)
  signOut : ∀ turn, registry.signOut turn name = handler.signOut turn
  reset : ∀ turn, registry.reset turn name = handler.reset turn

/-- No handler has a name, and the registry itself refuses whatever is asked of it under that
name. -/
structure Misses (registry : Registry σ) (name : String) : Prop where
  unnamed : ∀ handler ∈ registry.handlers, handler.name ≠ name
  resolves : registry.resolve name = .error (.handlerNotFound name)
  signIn : ∀ turn (request : Request), request.handler = name →
    registry.signIn turn request = throw (.handlerNotFound name)
  signOut : ∀ turn, registry.signOut turn name = throw (.handlerNotFound name)
  reset : ∀ turn, registry.reset turn name = throw (.handlerNotFound name)

section

variable {registry : Registry σ} {name : String} {handler : Handler σ}

theorem remains_signIn_of_resolve {request : Request}
    (resolved : registry.resolve request.handler = .ok handler) (turn : Turn) (visit : Visit σ) :
    remains (registry.signIn turn request visit) = remains (handler.signIn turn request visit) := by
  change remains (EStateM.bind (MonadExcept.ofExcept (registry.resolve request.handler)) _ visit)
    = _
  rw [resolved]
  change remains (EStateM.tryCatch (handler.signIn turn request) _ visit) = _
  unfold EStateM.tryCatch
  cases handler.signIn turn request visit with
  | ok response left => rfl
  | error error left => cases error <;> rfl

theorem find?_of_resolve (resolved : registry.resolve name = .ok handler) :
    (registry.handlers.find? fun other => other.name == name) = some handler := by
  unfold resolve at resolved
  split at resolved
  · cases resolved
    assumption
  · cases resolved

/-- A registered name is served, if no name is registered twice. -/
theorem serves_of_mem (distinct : registry.names.Nodup) (member : name ∈ registry.names) :
    ∃ handler, Serves registry name handler := by
  obtain ⟨handler, among, named, resolved⟩ := registry.resolve_of_mem member
  refine ⟨handler, among, named, fun other member same => ?_, resolved, ?_, ?_, ?_⟩
  · exact List.inj_on_of_nodup_map distinct member among (same.trans named.symm)
  · rintro turn request visit rfl
    exact ⟨told_signIn_of_resolve resolved turn visit,
      remains_signIn_of_resolve resolved turn visit⟩
  · intro turn
    rw [signOut, resolved]
    rfl
  · intro turn
    rw [reset, resolved]
    rfl

/-- A name that is not registered is missed. -/
theorem misses_of_not_mem (absent : name ∉ registry.names) : Misses registry name := by
  have unnamed (handler : Handler σ) (among : handler ∈ registry.handlers) : handler.name ≠ name :=
    fun same => absent (List.mem_map.mpr ⟨handler, among, same⟩)
  have missing : registry.resolve name = .error (.handlerNotFound name) := by
    have none : (registry.handlers.find? fun handler => handler.name == name) = none :=
      List.find?_eq_none.mpr fun handler among => by simp [unnamed handler among]
    simp only [resolve, none]
  refine ⟨unnamed, missing, ?_, ?_, ?_⟩
  · rintro turn request rfl
    rw [signIn, missing]
    rfl
  · intro turn
    rw [signOut, missing]
    rfl
  · intro turn
    rw [reset, missing]
    rfl

/-- What a registry makes of an outcome is never that it has no such handler. -/
theorem converted_ne_handlerNotFound (verdict : Except Error Response) :
    converted verdict ≠ .error (.handlerNotFound name) :=
  fun same => by cases cancelled_of_converted same

end

/-- All views of a name agree on whether it is registered. -/
structure Agrees (registry : Registry σ) (name : String) : Prop where
  listed : registry.contains name = true ↔ name ∈ registry.names
  resolves : registry.contains name = true ↔ ∃ handler, registry.resolve name = .ok handler
  serves : registry.contains name = true ↔ ∃ handler, Serves registry name handler
  misses : registry.contains name = false ↔ Misses registry name
  signIn : ∀ turn (request : Request) visit, request.handler = name →
    (registry.contains name = true ↔
      told (registry.signIn turn request visit) ≠ .error (.handlerNotFound name))
  /-- Signing out fails so for an unknown name, or because the handler itself says so. -/
  signOut : ∀ turn visit, told (registry.signOut turn name visit) = .error (.handlerNotFound name) ↔
    registry.contains name = false ∨ ∃ handler, registry.resolve name = .ok handler ∧
      told (handler.signOut turn visit) = .error (.handlerNotFound name)
  /-- Resetting fails so for an unknown name, or because the handler itself says so. -/
  reset : ∀ turn visit, told (registry.reset turn name visit) = .error (.handlerNotFound name) ↔
    registry.contains name = false ∨ ∃ handler, registry.resolve name = .ok handler ∧
      told (handler.reset turn visit) = .error (.handlerNotFound name)

theorem agrees_of_nodup {registry : Registry σ} (distinct : registry.names.Nodup) (name : String) :
    Agrees registry name := by
  by_cases member : name ∈ registry.names
  · obtain ⟨handler, serves⟩ := serves_of_mem distinct member
    have known : registry.contains name = true := contains_iff.mpr member
    have unmissed : ¬Misses registry name := fun misses =>
      misses.unnamed handler serves.registered serves.named
    constructor
    · exact contains_iff
    · exact iff_of_true known ⟨handler, serves.resolves⟩
    · exact iff_of_true known ⟨handler, serves⟩
    · exact iff_of_false (by simp [known]) unmissed
    · intro turn request visit named
      rw [(serves.signIn turn request visit named).1]
      exact iff_of_true known (converted_ne_handlerNotFound _)
    · intro turn visit
      simp [serves.signOut, serves.resolves, known]
    · intro turn visit
      simp [serves.reset, serves.resolves, known]
  · have misses := misses_of_not_mem member
    have unknown : registry.contains name = false :=
      Bool.eq_false_iff.mpr (mt contains_iff.mp member)
    constructor
    · exact contains_iff
    · simp [unknown, misses.resolves]
    · refine iff_of_false (by simp [unknown]) ?_
      rintro ⟨handler, serves⟩
      exact misses.unnamed handler serves.registered serves.named
    · exact iff_of_true unknown misses
    · intro turn request visit named
      rw [misses.signIn turn request named]
      exact iff_of_false (by simp [unknown]) fun spared => spared rfl
    · intro turn visit
      rw [misses.signOut]
      exact iff_of_true rfl (.inl unknown)
    · intro turn visit
      rw [misses.reset]
      exact iff_of_true rfl (.inl unknown)

end Registry

/-- Of any handlers and any configured default: a registry is made just if the names are pairwise
different and there is a default among them.  The first repeated name is told before anything about
the default.  In a registry that was made the default is registered, its handler is found by its
name, and all views of any name agree. -/
theorem lookups_agree {σ : Type} (handlers : List (Handler σ)) (configured : Option String) :
    let names := handlers.map Handler.name
    let made := Registry.ofHandlers handlers configured
    ((∃ registry, made = .ok registry) ↔ names.Nodup ∧ Eligible names configured) ∧
    (¬names.Nodup → ∃ before name after, names = before ++ name :: after ∧ before.Nodup ∧
      name ∈ before ∧
      made = .error (.configuration ("authentication handler '" ++ name ++ "' registered twice"))) ∧
    (names.Nodup → ¬Eligible names configured → made = .error (undefaulted configured)) ∧
    ∀ registry, made = .ok registry →
      registry.handlers = handlers ∧
      configured.or registry.names.head? = some registry.default ∧
      (∃ handler, registry.Serves registry.default handler ∧
        (registry.handlers.find? fun other => other.name == registry.default) = some handler ∧
        registry.defaultHandler? = some handler) ∧
      ∀ name, registry.Agrees name := by
  intro names made
  refine ⟨⟨?_, ?_⟩, Registry.ofHandlers_of_not_nodup configured, ?_, ?_⟩
  · rintro ⟨registry, made⟩
    obtain ⟨distinct, eligible, -⟩ := Registry.of_ofHandlers made
    exact ⟨distinct, eligible⟩
  · rintro ⟨distinct, eligible⟩
    obtain ⟨name, found⟩ := exists_defaultName eligible
    exact ⟨⟨handlers, name⟩,
      (Registry.ofHandlers_of_nodup configured distinct).trans (by rw [found]; rfl)⟩
  · intro distinct unfit
    exact (Registry.ofHandlers_of_nodup configured distinct).trans
      (by rw [defaultName_of_not_eligible unfit]; rfl)
  · intro registry made
    obtain ⟨distinct, -, rfl, member, which⟩ := Registry.of_ofHandlers made
    obtain ⟨handler, serves⟩ := Registry.serves_of_mem distinct member
    have found := Registry.find?_of_resolve serves.resolves
    refine ⟨rfl, which, ⟨handler, serves, found, ?_⟩, Registry.agrees_of_nodup distinct⟩
    rw [Registry.defaultHandler?, found]
    rfl

/-- Two handlers, the second of which is configured as the default, are looked up by name; and a
name that comes twice is told although the configured default is unknown as well. -/
theorem lookups_agree_patient :
    (∃ registry, Registry.ofHandlers [.patient "code", .patient "card"] (some "card") =
        .ok registry ∧ registry.default = "card" ∧ registry.Agrees "code" ∧
        registry.Agrees "key") ∧
      ∃ error, Registry.ofHandlers [.patient "code", .patient "card", .patient "code"]
        (some "key") = .error (.configuration error) := by
  have distinct : ([.patient "code", .patient "card"].map Handler.name).Nodup := by decide
  have eligible : Eligible ([.patient "code", .patient "card"].map Handler.name) (some "card") := by
    decide
  obtain ⟨made, -, -, agrees⟩ := lookups_agree [.patient "code", .patient "card"] (some "card")
  obtain ⟨registry, made⟩ := made.mpr ⟨distinct, eligible⟩
  obtain ⟨-, which, -, agrees⟩ := agrees registry made
  obtain ⟨_, _, _, -, -, -, refused⟩ :=
    (lookups_agree [.patient "code", .patient "card", .patient "code"] (some "key")).2.1 (by decide)
  exact ⟨⟨registry, made, (Option.some.inj which).symm, agrees "code", agrees "key"⟩, _, refused⟩

end SignInFlow
