import Mathlib.Data.List.Induction
import Mathlib.Data.List.Nodup
import SignInFlow.Proofs.Passage
import SignInFlow.Proofs.Sessions
import SignInFlow.Proofs.Withdrawal

/-!
# Putting an authenticator together

The parts may be given in any order and more than once.  Of every part the last one given counts,
and a callback must not be given twice.  What was given makes an authenticator just if it is
consistent, and then its gate never finds the default handler missing.
-/

namespace SignInFlow

variable {σ : Type}

/-! ## Giving the parts -/

/-- One part of an authenticator, as it is given. -/
inductive Supply (σ : Type) where
  | dispatcher (dispatcher : Dispatcher σ)
  | queue
  | policy (policy : StartPolicy σ)
  | success (callback : Turn → Success → HostCall σ Unit)
  | failure (callback : Turn → Failure → HostCall σ Unit)

/-- What the parts are for. -/
inductive Collaborator where
  | dispatcher
  | queue
  | policy
  | callback (outcome : Outcome)
deriving DecidableEq, Repr

namespace Supply

/-- What a part is for. -/
def collaborator : Supply σ → Collaborator
  | dispatcher _ => .dispatcher
  | queue => .queue
  | policy _ => .policy
  | success _ => .callback .success
  | failure _ => .callback .failure

/-- The dispatcher that a part is, if it is one. -/
def dispatcher? : Supply σ → Option (Dispatcher σ)
  | dispatcher given => some given
  | _ => none

/-- The start policy that a part is, if it is one. -/
def policy? : Supply σ → Option (StartPolicy σ)
  | policy given => some given
  | _ => none

/-- The callback for successes that a part is, if it is one. -/
def success? : Supply σ → Option (Turn → Success → HostCall σ Unit)
  | success callback => some callback
  | _ => none

/-- The callback for failures that a part is, if it is one. -/
def failure? : Supply σ → Option (Turn → Failure → HostCall σ Unit)
  | failure callback => some callback
  | _ => none

/-- The outcome that a callback is given for. -/
def outcome? : Supply σ → Option Outcome
  | success _ => some .success
  | failure _ => some .failure
  | _ => none

end Supply

/-- The last part of a kind that was given. -/
def lastGiven {α : Type} (pick : Supply σ → Option α) (given : List (Supply σ)) : Option α :=
  (given.filterMap pick).getLast?

/-- The outcomes that callbacks were given for, in order. -/
def outcomesGiven (given : List (Supply σ)) : List Outcome := given.filterMap Supply.outcome?

/-- A replay queue was given. -/
def queueGiven (given : List (Supply σ)) : Bool :=
  given.any fun supply => supply.collaborator == .queue

/-- An outcome is the first for which a second callback is given. -/
def Repeats (outcomes : List Outcome) (outcome : Outcome) : Prop :=
  ∃ before after, outcomes = before ++ outcome :: after ∧ before.Nodup ∧ outcome ∈ before

namespace Wiring

/-- Gives a part. -/
def supply (wiring : Wiring σ) : Supply σ → Wiring σ
  | .dispatcher dispatcher => wiring.withDispatcher dispatcher
  | .queue => wiring.withQueue
  | .policy policy => wiring.withPolicy policy
  | .success callback => wiring.withSuccess callback
  | .failure callback => wiring.withFailure callback

/-- The wiring after parts were given, one after the other. -/
def ofSupplies (settings : Settings) (given : List (Supply σ)) : Wiring σ :=
  given.foldl supply { settings := settings }

/-- There is a callback for an outcome. -/
def hears (wiring : Wiring σ) : Outcome → Bool
  | .success => wiring.onSuccess.isSome
  | .failure => wiring.onFailure.isSome

/-- What a wiring holds of the parts that were given. -/
structure Holds (settings : Settings) (given : List (Supply σ)) (wiring : Wiring σ) : Prop where
  settings : wiring.settings = settings
  dispatcher : wiring.dispatcher = lastGiven Supply.dispatcher? given
  connected : wiring.queueConnected = queueGiven given
  policy : wiring.policy = lastGiven Supply.policy? given
  onSuccess : wiring.onSuccess = lastGiven Supply.success? given
  onFailure : wiring.onFailure = lastGiven Supply.failure? given
  heard : ∀ outcome, wiring.hears outcome = true ↔ outcome ∈ outcomesGiven given
  once : wiring.repeated = [] → (outcomesGiven given).Nodup
  repeats : ∀ outcome more, wiring.repeated = outcome :: more →
    Repeats (outcomesGiven given) outcome

end Wiring

section

variable {given : List (Supply σ)}

theorem lastGiven_concat {α : Type} (pick : Supply σ → Option α) (given : List (Supply σ))
    (supply : Supply σ) :
    lastGiven pick (given ++ [supply]) = (pick supply).or (lastGiven pick given) := by
  unfold lastGiven
  cases picked : pick supply with
  | none => simp [List.filterMap_append, picked]
  | some part => simp [List.filterMap_append, picked]

theorem outcomesGiven_concat (given : List (Supply σ)) (supply : Supply σ) :
    outcomesGiven (given ++ [supply]) = outcomesGiven given ++ supply.outcome?.toList := by
  unfold outcomesGiven
  cases picked : supply.outcome? with
  | none => simp [List.filterMap_append, picked]
  | some outcome => simp [List.filterMap_append, picked]

theorem Repeats.append {outcomes : List Outcome} {outcome : Outcome}
    (repeats : Repeats outcomes outcome) (more : List Outcome) :
    Repeats (outcomes ++ more) outcome := by
  obtain ⟨before, after, rfl, distinct, again⟩ := repeats
  exact ⟨before, after ++ more, by simp, distinct, again⟩

theorem Repeats.not_nodup {outcomes : List Outcome} {outcome : Outcome}
    (repeats : Repeats outcomes outcome) : ¬outcomes.Nodup := by
  obtain ⟨before, after, rfl, -, again⟩ := repeats
  intro distinct
  exact (List.nodup_append.mp distinct).2.2 outcome again outcome List.mem_cons_self rfl

end

namespace Wiring

variable {settings : Settings} {given : List (Supply σ)} {wiring : Wiring σ}

theorem supply_hears (wiring : Wiring σ) (supply : Supply σ) (outcome : Outcome) :
    (wiring.supply supply).hears outcome =
      (supply.outcome? == some outcome || wiring.hears outcome) := by
  cases supply <;> cases outcome <;> rfl

/-- A callback is noted as repeated just if there was one for its outcome. -/
theorem supply_repeated (wiring : Wiring σ) (supply : Supply σ) :
    (wiring.supply supply).repeated =
      wiring.repeated ++ supply.outcome?.toList.filter wiring.hears := by
  cases supply with
  | success callback =>
      cases heard : wiring.onSuccess <;>
        simp [Wiring.supply, withSuccess, Supply.outcome?, hears, heard]
  | failure callback =>
      cases heard : wiring.onFailure <;>
        simp [Wiring.supply, withFailure, Supply.outcome?, hears, heard]
  | dispatcher | queue | policy => exact (List.append_nil _).symm

namespace Holds

theorem start (settings : Settings) :
    Holds settings ([] : List (Supply σ)) { settings := settings } where
  settings := rfl
  dispatcher := rfl
  connected := rfl
  policy := rfl
  onSuccess := rfl
  onFailure := rfl
  heard := fun outcome => by cases outcome <;> simp [hears, outcomesGiven]
  once := fun _ => .nil
  repeats := fun _ _ same => by cases same

/-- Another part is given. -/
theorem supply (holds : Holds settings given wiring) (supply : Supply σ) :
    Holds settings (given ++ [supply]) (wiring.supply supply) where
  settings := by cases supply <;> exact holds.settings
  dispatcher := by
    rw [lastGiven_concat, ← holds.dispatcher]
    cases supply <;> rfl
  connected := by
    rw [queueGiven, List.any_append, ← queueGiven, ← holds.connected]
    cases supply <;> simp [Wiring.supply, withDispatcher, withQueue, withPolicy, withSuccess,
      withFailure, Supply.collaborator]
  policy := by
    rw [lastGiven_concat, ← holds.policy]
    cases supply <;> rfl
  onSuccess := by
    rw [lastGiven_concat, ← holds.onSuccess]
    cases supply <;> rfl
  onFailure := by
    rw [lastGiven_concat, ← holds.onFailure]
    cases supply <;> rfl
  heard := by
    intro outcome
    rw [supply_hears, outcomesGiven_concat, List.mem_append, ← holds.heard]
    cases supply.outcome? with
    | none => simp
    | some given =>
        rw [Option.toList_some, List.mem_singleton, Bool.or_eq_true, beq_iff_eq, Option.some_inj,
          or_comm, eq_comm (a := given)]
  once := by
    intro none
    rw [supply_repeated, List.append_eq_nil_iff] at none
    obtain ⟨before, unheard⟩ := none
    rw [outcomesGiven_concat, List.nodup_append]
    refine ⟨holds.once before, by cases supply.outcome? <;> simp, ?_⟩
    rintro outcome earlier _ now rfl
    refine List.filter_eq_nil_iff.mp unheard outcome now ?_
    exact (holds.heard outcome).mpr earlier
  repeats := by
    intro outcome more repeated
    rw [supply_repeated] at repeated
    rw [outcomesGiven_concat]
    cases before : wiring.repeated with
    | cons first rest =>
        rw [before] at repeated
        cases repeated
        exact (holds.repeats outcome _ before).append _
    | nil =>
        -- the part that was given now is the first to repeat one
        rw [before, List.nil_append] at repeated
        have among : outcome ∈ supply.outcome?.toList.filter wiring.hears := by simp [repeated]
        obtain ⟨now, heard⟩ := List.mem_filter.mp among
        rw [Option.mem_toList] at now
        rw [now]
        exact ⟨outcomesGiven given, [], rfl, holds.once before, (holds.heard outcome).mp heard⟩

end Holds

theorem holds_ofSupplies (settings : Settings) (given : List (Supply σ)) :
    Holds settings given (ofSupplies settings given) := by
  induction given using List.reverseRecOn with
  | nil => exact .start settings
  | append_singleton before last ih =>
      rw [ofSupplies, List.foldl_append]
      exact ih.supply last

end Wiring

/-! ## What is consistent -/

/-- The default handler, by the settings or else by the dispatcher. -/
def defaultGiven (settings : Settings) (dispatcher : Dispatcher σ) : String :=
  settings.defaultHandler.getD dispatcher.defaultName

/-- What was given is fit to make an authenticator. -/
structure Consistent (settings : Settings) (given : List (Supply σ)) : Prop where
  valid : settings.validate = .ok ()
  once : (outcomesGiven given).Nodup
  queued : queueGiven given = true
  known : ∃ dispatcher, lastGiven Supply.dispatcher? given = some dispatcher ∧
    dispatcher.contains (defaultGiven settings dispatcher) = true

/-- What making an authenticator comes to: the first requirement that is not met, or the
authenticator of the parts that were given last. -/
inductive Assembles (settings : Settings) (given : List (Supply σ)) :
    Except Error (Authenticator σ) → Prop where
  | unfit (error : Error) (invalid : settings.validate = .error error) :
      Assembles settings given (.error error)
  | repeated (valid : settings.validate = .ok ()) (outcome : Outcome)
      (repeats : Repeats (outcomesGiven given) outcome) :
      Assembles settings given
        (.error (.configuration (outcome.callbackName ++ " registered more than once")))
  | undispatched (valid : settings.validate = .ok ()) (once : (outcomesGiven given).Nodup)
      (missing : lastGiven Supply.dispatcher? given = none) :
      Assembles settings given (.error (.missingDependency "handler dispatcher"))
  | unqueued (valid : settings.validate = .ok ()) (once : (outcomesGiven given).Nodup)
      (dispatcher : Dispatcher σ) (last : lastGiven Supply.dispatcher? given = some dispatcher)
      (missing : queueGiven given = false) :
      Assembles settings given (.error (.missingDependency "continuation queue"))
  | unknown (valid : settings.validate = .ok ()) (once : (outcomesGiven given).Nodup)
      (dispatcher : Dispatcher σ) (last : lastGiven Supply.dispatcher? given = some dispatcher)
      (queued : queueGiven given = true)
      (missing : dispatcher.contains (defaultGiven settings dispatcher) = false) :
      Assembles settings given (.error (.handlerNotFound (defaultGiven settings dispatcher)))
  | made (valid : settings.validate = .ok ()) (once : (outcomesGiven given).Nodup)
      (dispatcher : Dispatcher σ) (last : lastGiven Supply.dispatcher? given = some dispatcher)
      (queued : queueGiven given = true)
      (known : dispatcher.contains (defaultGiven settings dispatcher) = true) :
      Assembles settings given (.ok {
        settings := settings
        defaultHandler := defaultGiven settings dispatcher
        dispatcher := dispatcher
        policy := (lastGiven Supply.policy? given).getD (.ofBool settings.autoSignIn)
        onSuccess := lastGiven Supply.success? given
        onFailure := lastGiven Supply.failure? given })

section

variable {settings : Settings} {given others : List (Supply σ)} {auth : Authenticator σ}

theorem Wiring.Holds.assembles {wiring : Wiring σ} (holds : wiring.Holds settings given) :
    Assembles settings given wiring.build := by
  unfold Wiring.build
  rw [holds.settings]
  cases valid : settings.validate with
  | error error => exact .unfit error valid
  | ok =>
      cases repeated : wiring.repeated with
      | cons outcome more => exact .repeated valid outcome (holds.repeats outcome more repeated)
      | nil =>
          have once := holds.once repeated
          have last := holds.dispatcher
          have queued := holds.connected
          cases dispatched : wiring.dispatcher with
          | none => exact .undispatched valid once (last.symm.trans dispatched)
          | some dispatcher =>
              have last := last.symm.trans dispatched
              cases connected : wiring.queueConnected with
              | false => exact .unqueued valid once dispatcher last (queued.symm.trans connected)
              | true =>
                  have queued := queued.symm.trans connected
                  cases known : dispatcher.contains (defaultGiven settings dispatcher) with
                  | false =>
                      have unknown := Assembles.unknown valid once dispatcher last queued known
                      rw [defaultGiven] at known unknown
                      simp only [pure_bind, known]
                      exact unknown
                  | true =>
                      have made := Assembles.made valid once dispatcher last queued known
                      rw [← holds.policy, ← holds.onSuccess, ← holds.onFailure] at made
                      rw [defaultGiven] at known made
                      simp only [pure_bind, known]
                      exact made

/-- What was given makes an authenticator just if it is consistent. -/
theorem Assembles.ok_iff {outcome : Except Error (Authenticator σ)}
    (assembles : Assembles settings given outcome) :
    (∃ auth, outcome = .ok auth) ↔ Consistent settings given := by
  constructor
  · rintro ⟨auth, rfl⟩
    cases assembles with
    | made valid once dispatcher last queued known =>
        exact ⟨valid, once, queued, dispatcher, last, known⟩
  · rintro ⟨valid, once, queued, dispatcher, last, known⟩
    cases assembles with
    | unfit error invalid => cases invalid.symm.trans valid
    | repeated _ outcome repeats => exact absurd once repeats.not_nodup
    | undispatched _ _ missing => cases missing.symm.trans last
    | unqueued _ _ _ _ missing => cases missing.symm.trans queued
    | unknown _ _ other last' _ missing =>
        cases last'.symm.trans last
        cases missing.symm.trans known
    | made => exact ⟨_, rfl⟩

/-! ## The order of giving -/

/-- For every collaborator the same parts were given in the same order, however the parts for
different collaborators lie between each other. -/
def Rearranges (given others : List (Supply σ)) : Prop :=
  ∀ collaborator, (given.filter fun supply => supply.collaborator = collaborator) =
    others.filter fun supply => supply.collaborator = collaborator

theorem Rearranges.filterMap_eq {α : Type} (rearranges : Rearranges given others)
    (pick : Supply σ → Option α) (collaborator : Collaborator)
    (only : ∀ supply, supply.collaborator ≠ collaborator → pick supply = none) :
    given.filterMap pick = others.filterMap pick := by
  have through (supplies : List (Supply σ)) : supplies.filterMap pick =
      (supplies.filter fun supply => supply.collaborator = collaborator).filterMap pick := by
    rw [List.filterMap_filter]
    refine List.filterMap_congr fun supply _ => ?_
    by_cases same : supply.collaborator = collaborator
    · simp [same]
    · simp [same, only supply same]
  rw [through given, through others, rearranges collaborator]

theorem Rearranges.lastGiven_eq {α : Type} (rearranges : Rearranges given others)
    {pick : Supply σ → Option α} (collaborator : Collaborator)
    (only : ∀ supply, supply.collaborator ≠ collaborator → pick supply = none) :
    lastGiven pick given = lastGiven pick others := by
  rw [lastGiven, lastGiven, rearranges.filterMap_eq pick collaborator only]

theorem Rearranges.queueGiven_eq (rearranges : Rearranges given others) :
    queueGiven given = queueGiven others := by
  have through (supplies : List (Supply σ)) : queueGiven supplies =
      !(supplies.filter fun supply => supply.collaborator = .queue).isEmpty := by
    induction supplies with
    | nil => rfl
    | cons supply rest ih =>
        unfold queueGiven at ih ⊢
        by_cases queue : supply.collaborator = .queue <;> simp [queue, ih]
  rw [through given, through others, rearranges .queue]

/-- Callbacks for an outcome are counted with the parts for it. -/
theorem count_outcomesGiven (given : List (Supply σ)) (outcome : Outcome) :
    (outcomesGiven given).count outcome =
      (given.filter fun supply => supply.collaborator = .callback outcome).length := by
  have picks : (fun supply : Supply σ => supply.outcome? == some outcome) =
      fun supply => decide (supply.collaborator = .callback outcome) := by
    funext supply
    cases supply <;> cases outcome <;> rfl
  rw [outcomesGiven, List.count_filterMap, picks, List.countP_eq_length_filter]

theorem Rearranges.once (rearranges : Rearranges given others)
    (once : (outcomesGiven given).Nodup) : (outcomesGiven others).Nodup := by
  rw [List.nodup_iff_count_le_one] at once ⊢
  intro outcome
  rw [count_outcomesGiven, ← rearranges (.callback outcome), ← count_outcomesGiven]
  exact once outcome

/-- The same authenticator is made of parts that are given in another order. -/
theorem Rearranges.assembles (rearranges : Rearranges given others)
    (made : Assembles settings given (.ok auth)) {outcome : Except Error (Authenticator σ)}
    (assembles : Assembles settings others outcome) : outcome = .ok auth := by
  have dispatchers : lastGiven Supply.dispatcher? given = lastGiven Supply.dispatcher? others :=
    rearranges.lastGiven_eq .dispatcher fun supply other => by
      cases supply <;> first | rfl | exact absurd rfl other
  have policies : lastGiven Supply.policy? given = lastGiven Supply.policy? others :=
    rearranges.lastGiven_eq .policy fun supply other => by
      cases supply <;> first | rfl | exact absurd rfl other
  have successes : lastGiven Supply.success? given = lastGiven Supply.success? others :=
    rearranges.lastGiven_eq (.callback .success) fun supply other => by
      cases supply <;> first | rfl | exact absurd rfl other
  have failures : lastGiven Supply.failure? given = lastGiven Supply.failure? others :=
    rearranges.lastGiven_eq (.callback .failure) fun supply other => by
      cases supply <;> first | rfl | exact absurd rfl other
  cases made with
  | made valid once dispatcher last queued known =>
      obtain ⟨auth, rfl⟩ := assembles.ok_iff.mpr ⟨valid, rearranges.once once,
        rearranges.queueGiven_eq ▸ queued, dispatcher, dispatchers ▸ last, known⟩
      cases assembles with
      | made _ _ other last' =>
          cases (dispatchers.trans last').symm.trans last
          rw [policies, successes, failures]

end

/-! ## The gate of an authenticator that was made -/

/-- What a turn that would begin a flow of the default handler may come upon: it was cancelled, the
dispatcher fails, an access is refused, or a report is not taken. -/
inductive Authenticator.Stumbles (auth : Authenticator σ) (services : Services σ) (turn : Turn)
    (cancelled : Bool) : Error → Prop where
  | halted (late : cancelled = true) : Stumbles auth services turn cancelled .cancelled
  | faulted (error : Error) (faults : auth.Faults turn ⟨auth.defaultHandler, true, none⟩ error) :
      Stumbles auth services turn cancelled error
  | refused (access : Access) (error : Error) (refuses : services.Refuses access error) :
      Stumbles auth services turn cancelled error
  | muted (failure : Failure) (error : Error) (mutes : auth.Mutes services turn failure error) :
      Stumbles auth services turn cancelled error

section

variable {auth : Authenticator σ} {services : Services σ} {turn : Turn} {view after : View}
  {error : Error}

theorem Services.Writes.stumbles {α : Type} {flow : Flow} {value : α} (cancelled : Bool)
    (writes : services.Writes turn flow value view (.error error) after) :
    auth.Stumbles services turn cancelled error := by
  cases writes with
  | refused access error storage refuses => exact .refused access error refuses

/-- Without a flow in progress nothing is handed on, and all that can fail is a write or a
report. -/
theorem Authenticator.Settles.stumbles {handler : String} {response : Response} (cancelled : Bool)
    (settles : auth.Settles services turn .idle handler response view (.error error) after) :
    auth.Stumbles services turn cancelled error := by
  cases settles with
  | begins idle pending writes => exact writes.stumbles cancelled
  | handsOn banked holds => cases holds
  | sticks failed ends error writes => exact writes.stumbles cancelled
  | reports failed ends writes now outcome told =>
      rcases told with done | ⟨error', same, mutes⟩
      · cases done
      · cases same
        exact .muted _ _ mutes
  | goesOn complete ends writes => exact writes.stumbles cancelled

/-- Where the default handler is known, the gate does not fail for want of it. -/
theorem Authenticator.stumbles_startOrContinue
    (known : auth.dispatcher.contains auth.defaultHandler = true) {scope : Scope σ}
    (idle : Flow.load scope.state = .ok .idle)
    (failed : told (auth.startOrContinue services turn none scope) = .error error) :
    auth.Stumbles services turn scope.cancelled error := by
  have found : auth.requestedHandler none = .ok auth.defaultHandler := if_pos known
  have yields : Yields _ scope.blank _ := auth.yields_startOrContinue services turn none
  have comes := yields.comes
  rw [← (auth.mirrors_startOrContinue services turn .gate none).told_eq scope, failed] at comes
  have same : (scope.blank.view).state = scope.state := rfl
  generalize (remains ((auth.recorded .gate).startOrContinue (services.recorded turn) turn none
    scope.blank)).view = after at comes
  cases comes with
  | halted late => exact .halted late
  | garbled timely error unread =>
      rw [same, idle] at unread
      cases unread
  | unknown timely error idle missing => cases missing.symm.trans found
  | faulted timely flow handler loaded chosen error faults =>
      rw [same, idle] at loaded
      cases loaded
      cases chosen.symm.trans found
      exact .faulted error faults
  | answered timely flow handler loaded chosen answer settles =>
      rw [same, idle] at loaded
      cases loaded
      exact settles.stumbles scope.cancelled

end

/-- Of any settings and any parts, given in any order: they make an authenticator just if they are
consistent, and otherwise the first requirement that is not met is told.  In another order for
different collaborators they make the same.  At the gate of an authenticator that was made, a turn
without a flow that asks for no handler finds the default one, and fails only because it was
cancelled, the dispatcher fails, an access is refused or a report is not taken. -/
theorem consistent_parts_assemble (settings : Settings) (given : List (Supply σ)) :
    let build := fun given => (Wiring.ofSupplies settings given).build
    ((∃ auth, build given = .ok auth) ↔ Consistent settings given) ∧
    Assembles settings given (build given) ∧
    (∀ others, Rearranges given others → ∀ auth,
      build given = .ok auth ↔ build others = .ok auth) ∧
    ∀ auth, build given = .ok auth →
      auth.requestedHandler none = .ok auth.defaultHandler ∧
      ∀ services turn (scope : Scope σ) error, Flow.load scope.state = .ok .idle →
        told (auth.startOrContinue services turn none scope) = .error error →
        auth.Stumbles services turn scope.cancelled error := by
  intro build
  have assembles (given : List (Supply σ)) : Assembles settings given (build given) :=
    (Wiring.holds_ofSupplies settings given).assembles
  refine ⟨(assembles given).ok_iff, assembles given, ?_, ?_⟩
  · intro others rearranges auth
    constructor
    · intro made
      exact rearranges.assembles (made ▸ assembles given) (assembles others)
    · intro made
      exact Rearranges.assembles (fun collaborator => (rearranges collaborator).symm)
        (made ▸ assembles others) (assembles given)
  · intro auth made
    have known : auth.dispatcher.contains auth.defaultHandler = true := by
      have assembles := made ▸ assembles given
      cases assembles with
      | made _ _ dispatcher _ _ known => exact known
    exact ⟨if_pos known, fun services turn scope error idle failed =>
      Authenticator.stumbles_startOrContinue known idle failed⟩

/-- A queue, the dispatcher of two handlers and a callback make an authenticator in one order and
the same in another, and its gate finds the default handler. -/
theorem consistent_parts_assemble_desk :
    let heed : Turn → Success → HostCall Unit Unit := fun _ _ => pure ()
    ∃ auth,
      (Wiring.ofSupplies .standard [.queue, .dispatcher Registry.desk.toDispatcher,
        .success heed]).build = .ok auth ∧
      (Wiring.ofSupplies .standard [.success heed, .dispatcher Registry.desk.toDispatcher,
        .queue]).build = .ok auth ∧
      auth.requestedHandler none = .ok auth.defaultHandler := by
  intro heed
  let given : List (Supply Unit) :=
    [.queue, .dispatcher Registry.desk.toDispatcher, .success heed]
  have consistent : Consistent .standard given :=
    ⟨rfl, by decide, rfl, Registry.desk.toDispatcher, rfl, rfl⟩
  have rearranges : Rearranges given [.success heed, .dispatcher Registry.desk.toDispatcher,
      .queue] := by
    intro collaborator
    rcases collaborator with _ | _ | _ | _ | _ <;> rfl
  obtain ⟨made, -, orders, gate⟩ := consistent_parts_assemble .standard given
  obtain ⟨auth, made⟩ := made.mpr consistent
  exact ⟨auth, made, (orders _ rearranges auth).mp made, (gate auth made).1⟩

end SignInFlow
