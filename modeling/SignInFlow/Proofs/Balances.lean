import SignInFlow.Proofs.Counters

/-!
# Flows and their conclusions

Turns may overlap, be cancelled, call the authenticator as often as they like and go on after a
failure, and storage, the queue and the handlers may fail whenever they like.  A conclusion of a
flow in progress is paid for by a flow that was started and is not stored any more.  What is not
paid for in that way is counted where a deed has failed with its flow still stored, or where a turn
acts on a state that storage does not agree with.
-/

namespace SignInFlow

variable {σ : Type}

/-! ## Deeds -/

/-- What is done within a turn: a call of the authenticator, a change to a property, or writing the
state back. -/
inductive Deed where
  | call (operation : Operation)
  | set (name : String) (value : Json)
  | remove (name : String)
  | save

/-- What was done, what it came to, and the scope of its turn before and after. -/
structure Done (σ : Type) where
  deed : Deed
  before : Scope σ
  outcome : Except Error Bool
  after : Scope σ

namespace Deed

/-- Carries out a deed. -/
def perform (auth : Authenticator σ) (services : Services σ) (turn : Turn) :
    Deed → TurnAction σ Bool
  | call operation => operation.perform auth services turn
  | set name value => do
      TurnAction.modifyState fun state => state.set name value
      pure false
  | remove name => do
      TurnAction.modifyState fun state => state.remove name
      pure false
  | save => do
      TurnAction.save services
      pure false

/-- A deed, done. -/
def done (auth : Authenticator σ) (services : Services σ) (turn : Turn) (scope : Scope σ)
    (deed : Deed) : Done σ :=
  let result := deed.perform auth services turn scope
  ⟨deed, scope, told result, remains result⟩

theorem ends_perform_reckons (auth : Authenticator σ) (services : Services σ) (turn : Turn)
    (scope : Scope σ) (deed : Deed) :
    Ends (deed.perform auth services turn) scope (fun _ after => scope.Reckons false after)
      (fun _ after => scope.Reckons true after) := by
  cases deed with
  | call operation =>
      cases operation with
      | gate requested => exact auth.ends_startOrContinue_reckons services turn requested scope
      | signIn handler exchange =>
          simp only [perform, Operation.perform, ends_bind, ends_pure]
          exact auth.ends_signIn_reckons services turn handler exchange scope
      | signOut handler | reset handler =>
          simp only [perform, Operation.perform, Authenticator.signOut, Authenticator.reset,
            ends_bind, ends_ofExcept, ends_pure]
          refine ⟨fun names found => ?_, fun error missing => (Scope.Counts.refl scope).idly true⟩
          exact (Authenticator.ends_forgetEach_loses services turn _ names scope).mono
            (fun _ _ loses => loses.reckons false) (fun _ _ loses => loses.reckons true)
      | completion =>
          simp only [perform, Operation.perform, ends_bind, ends_pure]
          exact (auth.ends_handleCompletion_counts services turn scope).mono
            (fun _ _ counts => counts.idly false) (fun _ _ counts => counts.idly true)
  | set name value =>
      exact ⟨[], ⟨rfl, fun _ _ => rfl, (List.append_nil _).symm, rfl⟩, .kept [] fun _ _ => rfl⟩
  | remove name =>
      have own : (scope.state.remove name).key = _ := UserState.remove_key scope.state
      exact ⟨[], ⟨own, fun _ _ => rfl, (List.append_nil _).symm, rfl⟩, .kept [] fun _ _ => rfl⟩
  | save =>
      simp only [perform, ends_bind, ends_pure]
      refine (TurnAction.ends_save_tallies services scope).mono ?_
        fun _ _ counts => counts.idly true
      rintro _ after ⟨tallies, owner⟩
      refine ⟨[], tallies, ?_⟩
      rw [owner]
      split
      · exact .written
      · exact .kept [] fun _ _ => rfl

end Deed

namespace Done

/-- What was added to the metrics. -/
def added (done : Done σ) : List Metric :=
  done.after.world.metrics.drop done.before.world.metrics.length

theorem added_eq {done : Done σ} {added : List Metric}
    (metrics : done.after.world.metrics = done.before.world.metrics ++ added) :
    done.added = added := by
  rw [Done.added, metrics, List.drop_left]

/-- The handler of the flow that the turn sees. -/
def sees (done : Done σ) : Option String := done.before.state.owner

/-- The handler of the flow that was stored before. -/
def holds (done : Done σ) : Option String := done.before.world.owner done.before.state.key

/-- The handler of the flow that is stored after. -/
def leaves (done : Done σ) : Option String := done.after.world.owner done.before.state.key

/-- The deed was a passage of the gate with a flow in progress. -/
def continues (done : Done σ) : Bool :=
  match done.deed with
  | .call (.gate _) => done.sees.isSome
  | _ => false

theorem sees_of_continues (done : Done σ) (continued : done.continues = true) :
    done.sees ≠ none := by
  unfold continues at continued
  split at continued
  · exact Option.isSome_iff_ne_none.mp continued
  · cases continued

/-- How many conclusions of a handler the deed has counted for a flow in progress. -/
def conclusions (done : Done σ) (name : String) : Nat :=
  if done.continues then done.added.countP (Metric.concludes name) else 0

/-- The deed has counted a conclusion but failed, and the flow is still stored. -/
def unfinished (done : Done σ) (name : String) : Bool :=
  decide (0 < done.conclusions name) && !done.outcome.isOk && done.leaves == some name

/-- The turn sees another flow than the one that was stored, and the deed has counted a conclusion
of the one that it sees, or has stored a flow. -/
def astray (done : Done σ) (name : String) : Bool :=
  done.sees != done.holds &&
    (decide (0 < done.conclusions name) || done.leaves == some name && done.holds != some name)

/-- The deed may have counted something that nothing was started for. -/
def exceeds (done : Done σ) (name : String) : Bool := done.unfinished name || done.astray name

theorem reckons (auth : Authenticator σ) (services : Services σ) (turn : Turn) (scope : Scope σ)
    (deed : Deed) :
    let done := deed.done auth services turn scope
    done.before.Reckons (!done.outcome.isOk) done.after := by
  have ends := deed.ends_perform_reckons auth services turn scope
  simp only [Deed.done]
  cases result : deed.perform auth services turn scope with
  | ok value after => exact ends.of_ok result
  | error error after => exact ends.of_error result

/-- A deed right after loading acts on what is stored, so that it can exceed only by failing. -/
theorem exceeds_of_loaded (auth : Authenticator σ) {services : Services σ} {turn : Turn}
    {world loaded : World σ} {state : UserState}
    (loads : UserState.load services turn.activity world = .ok state loaded) (cancelled : Bool)
    (deed : Deed) (name : String) :
    let done := deed.done auth services turn ⟨loaded, state, cancelled⟩
    done.exceeds name = done.unfinished name := by
  intro done
  obtain ⟨-, held, kept⟩ := (ends_loadStored services turn.activity world).of_ok loads
  have agrees : done.sees = done.holds := by
    change state.owner = loaded.owner state.key
    rw [UserState.owner, World.owner, kept, Flow.load_eq_stored held]
  rw [exceeds, astray, agrees, bne_self_eq_false, Bool.false_and, Bool.or_false]

/-- What is counted as concluded, and what is stored then, is paid for by what was stored before, by
what has started, or by an excess. -/
theorem conclusions_add_le (done : Done σ)
    (reckons : done.before.Reckons (!done.outcome.isOk) done.after) (name : String) :
    done.conclusions name + (done.leaves == some name).toNat ≤
      (done.holds == some name).toNat + done.added.countP (Metric.starts name) +
        (done.exceeds name).toNat := by
  obtain ⟨added, tallies, counted⟩ := reckons
  rw [added_eq tallies.metrics]
  refine counted.balance name ?_
  rw [conclusions, added_eq tallies.metrics]
  split
  · rename_i continued
    exact Nat.le_of_eq (if_neg (done.sees_of_continues continued)).symm
  · exact Nat.zero_le _

/-- What deeds have counted at the gate for flows in progress. -/
def continued (deeds : List (Done σ)) : List Metric :=
  (deeds.filter continues).flatMap added

theorem continued_append (deeds more : List (Done σ)) :
    continued (deeds ++ more) = continued deeds ++ continued more := by
  rw [continued, List.filter_append, List.flatMap_append]
  rfl

theorem countP_continued_singleton (done : Done σ) (name : String) :
    (continued [done]).countP (Metric.concludes name) = done.conclusions name := by
  unfold continued conclusions
  cases continues : done.continues with
  | true => simp [continues]
  | false => simp [continues]

end Done

/-! ## The flows of a handler -/

namespace World

/-- The users for whom a flow of a handler is stored. -/
def flowsOf (world : World σ) (name : String) : Finset String :=
  (Flow.running world.documents).filter fun key => world.owner key = some name

theorem mem_flowsOf {world : World σ} {name key : String} :
    key ∈ world.flowsOf name ↔ world.owner key = some name := by
  rw [flowsOf, Finset.mem_filter, and_iff_right_iff_imp, Flow.mem_running, owner, Flow.runs]
  intro owned
  cases stored : Flow.stored world.documents key with
  | error error => simp [stored, Flow.owner] at owned
  | ok flow =>
      rw [stored] at owned
      cases flow with
      | idle => cases owned
      | active handler banked => rfl

theorem card_flowsOf (world : World σ) (name key : String) :
    ((world.flowsOf name).erase key).card + (world.owner key == some name).toNat =
      (world.flowsOf name).card := by
  by_cases owned : world.owner key = some name
  · rw [owned, beq_self_eq_true]
    exact Finset.card_erase_add_one (mem_flowsOf.mpr owned)
  · rw [beq_eq_false_iff_ne.mpr owned, Finset.erase_eq_of_notMem (owned ∘ mem_flowsOf.mp)]
    rfl

theorem erase_flowsOf_eq {before after : World σ} {key : String}
    (others : ∀ other, other ≠ key → after.owner other = before.owner other) (name : String) :
    (after.flowsOf name).erase key = (before.flowsOf name).erase key := by
  ext other
  rw [Finset.mem_erase, Finset.mem_erase, and_congr_right_iff]
  intro differs
  rw [mem_flowsOf, mem_flowsOf, others other differs]

/-- The conclusions that deeds have counted, and the flows that are stored after them, are paid for
by the flows that were stored before, by what was started, or by excesses.  The deeds have counted
whatever was counted, and the queue has accepted as many submissions as the metrics tell. -/
structure Balances (name : String) (before : World σ) (deeds : List (Done σ))
    (after : World σ) : Prop where
  metrics : after.metrics = before.metrics ++ deeds.flatMap Done.added
  flows : (Done.continued deeds).countP (Metric.concludes name) + (after.flowsOf name).card ≤
    (before.flowsOf name).card + (deeds.flatMap Done.added).countP (Metric.starts name) +
      deeds.countP fun done => done.exceeds name
  accepted : after.queue.tally.submitted =
    before.queue.tally.submitted + (deeds.flatMap Done.added).countP Metric.submits

namespace Balances

variable {name : String} {before middle after : World σ} {deeds more : List (Done σ)}

/-- Nothing is done, and all that counts stays. -/
theorem of_idle (documents : after.documents = before.documents)
    (metrics : after.metrics = before.metrics)
    (accepted : after.queue.tally.submitted = before.queue.tally.submitted) :
    before.Balances name [] after where
  metrics := by rw [metrics, List.flatMap_nil, List.append_nil]
  flows := by
    have same : after.flowsOf name = before.flowsOf name := by
      ext key
      rw [mem_flowsOf, mem_flowsOf, owner, owner, documents]
    rw [same]
    exact Nat.le_of_eq (Nat.add_comm _ _)
  accepted := accepted

theorem trans (first : before.Balances name deeds middle)
    (second : middle.Balances name more after) : before.Balances name (deeds ++ more) after where
  metrics := by rw [second.metrics, first.metrics, List.flatMap_append, List.append_assoc]
  flows := by
    have paid := first.flows
    have paid' := second.flows
    rw [Done.continued_append, List.countP_append, List.flatMap_append, List.countP_append,
      List.countP_append]
    omega
  accepted := by
    rw [second.accepted, first.accepted, List.flatMap_append, List.countP_append, Nat.add_assoc]

end Balances
end World

/-- Only the flow of the turn's own user can change with a deed. -/
theorem Done.balances (done : Done σ)
    (reckons : done.before.Reckons (!done.outcome.isOk) done.after) (name : String) :
    done.before.world.Balances name [done] done.after.world := by
  have paid := done.conclusions_add_le reckons name
  obtain ⟨added, tallies, -⟩ := reckons
  have same := added_eq tallies.metrics
  have rest := World.erase_flowsOf_eq tallies.others name
  have before := done.before.world.card_flowsOf name done.before.state.key
  have after := done.after.world.card_flowsOf name done.before.state.key
  rw [leaves, holds] at paid
  refine ⟨?_, ?_, ?_⟩
  · rw [List.flatMap_singleton, same, tallies.metrics]
  · have exceeding : [done].countP (fun done => done.exceeds name) = (done.exceeds name).toNat := by
      rw [List.countP_singleton]
      cases done.exceeds name <;> rfl
    rw [exceeding, countP_continued_singleton, List.flatMap_singleton]
    rw [rest] at after
    omega
  · rw [List.flatMap_singleton, same, tallies.accepted]

/-! ## Whole courses -/

/-- What happens next among the turns in progress. -/
inductive Happening (σ : Type) where
  /-- A turn begins, and loads the state of its user. -/
  | begin (turn : Turn) (cancelled : Bool)
  /-- One of the turns does something. -/
  | act (index : Nat) (deed : Deed)
  /-- One of the turns is cancelled. -/
  | cancel (index : Nat)
  /-- The queue is drained or gone, tokens go, the host moves on. -/
  | elsewhere (tokens : TokenCache) (queue : ReplayQueue) (host : σ)

namespace Sessions

/-- What becomes of the turns and the world, and what has been done for it.  Nobody but the turns
submits anything to the queue. -/
def happen (auth : Authenticator σ) (services : Services σ) (sessions : Sessions σ) :
    Happening σ → Sessions σ × List (Done σ)
  | .begin turn cancelled => (sessions.advance auth services (.begin turn cancelled), [])
  | .act index deed =>
      match sessions.turns[index]? with
      | none => (sessions, [])
      | some session =>
          let done := deed.done auth services session.turn
            ⟨sessions.world, session.state, session.cancelled⟩
          (⟨done.after.world,
            sessions.turns.set index ⟨session.turn, done.after.state, done.after.cancelled⟩⟩,
            [done])
  | .cancel index =>
      ({ sessions with
          turns := sessions.turns.modify index fun session => { session with cancelled := true } },
        [])
  | .elsewhere tokens queue host =>
      let submitted := sessions.world.queue.tally.submitted
      let left : ReplayQueue := { queue with tally := { queue.tally with submitted := submitted } }
      ({ sessions with
          world := { sessions.world with tokens := tokens, queue := left, host := host } }, [])

/-- What becomes of the turns and the world when several things happen, and what has been done. -/
def course (auth : Authenticator σ) (services : Services σ) :
    Sessions σ → List (Happening σ) → Sessions σ × List (Done σ)
  | sessions, [] => (sessions, [])
  | sessions, happening :: rest =>
      let next := sessions.happen auth services happening
      let last := course auth services next.1 rest
      (last.1, next.2 ++ last.2)

variable (auth : Authenticator σ) (services : Services σ)

/-- Whatever happens next keeps the balance. -/
theorem balances_happen (sessions : Sessions σ) (happening : Happening σ) (name : String) :
    let next := sessions.happen auth services happening
    sessions.world.Balances name next.2 next.1.world := by
  cases happening with
  | begin turn cancelled =>
      have loads := ends_loadAlone services turn.activity sessions.world
      simp only [happen, advance]
      cases result : UserState.load services turn.activity sessions.world with
      | ok state world =>
          obtain ⟨host, rfl⟩ := loads.of_ok result
          exact .of_idle rfl rfl rfl
      | error error world =>
          obtain ⟨host, rfl⟩ := loads.of_error result
          exact .of_idle rfl rfl rfl
  | act index deed =>
      simp only [happen]
      cases sessions.turns[index]? with
      | none => exact .of_idle rfl rfl rfl
      | some session =>
          let done := deed.done auth services session.turn
            ⟨sessions.world, session.state, session.cancelled⟩
          exact done.balances (Done.reckons auth services session.turn done.before deed) name
  | cancel index => exact .of_idle rfl rfl rfl
  | elsewhere tokens queue host => exact .of_idle rfl rfl rfl

/-- However long the turns go on, the balance is kept. -/
theorem balances_course (sessions : Sessions σ) (happenings : List (Happening σ)) (name : String) :
    let last := sessions.course auth services happenings
    sessions.world.Balances name last.2 last.1.world := by
  induction happenings generalizing sessions with
  | nil => exact .of_idle rfl rfl rfl
  | cons happening rest ih =>
      exact (sessions.balances_happen auth services happening name).trans (ih _)

/-- From empty storage, no handler concludes more flows in progress than were started and are not
stored any more, but for a conclusion that is counted by a deed which fails with the flow still
stored, or by one which acts on a state that storage does not agree with.  The submissions counted
are those that the queue has accepted. -/
theorem conclusions_paid_for (host : σ) (happenings : List (Happening σ)) (name : String) :
    let last := course auth services ⟨World.initial host, []⟩ happenings
    let counted := last.1.world.metrics
    counted = last.2.flatMap Done.added ∧
      (Done.continued last.2).countP (Metric.concludes name) + (last.1.world.flowsOf name).card ≤
        counted.countP (Metric.starts name) + (last.2.countP fun done => done.exceeds name) ∧
      counted.countP Metric.submits = last.1.world.queue.tally.submitted := by
  intro last counted
  obtain ⟨metrics, flows, accepted⟩ :=
    balances_course auth services ⟨World.initial host, []⟩ happenings name
  have all : counted = last.2.flatMap Done.added := metrics
  have none_stored : ((World.initial host).flowsOf name).card = 0 := rfl
  refine ⟨all, ?_, ?_⟩
  · rw [none_stored, Nat.zero_add] at flows
    rw [all]
    exact flows
  · rw [all, accepted]
    exact (Nat.zero_add _).symm

/-- Services whose queue cannot be reached when the handler has been asked twice. -/
def interrupted : Services Nat :=
  { Services.lenient with
    permit := fun access asked =>
      match access with
      | .submit _ => if asked = 2 then .error (.deliveryFailed "queue unreachable") asked
          else .ok () asked
      | _ => .ok () asked }

/-- A user asks for a sign-in, and says the code twice. -/
def saidTwice : Sessions Nat × List (Done Nat) :=
  let turn (text : String) : Turn := ⟨.message "chat" "ada" "room" text, false⟩
  course Site.sample.auth interrupted ⟨World.initial 0, []⟩
    [.begin (turn "sign in") false, .act 0 (.call (.signIn "code" none)),
      .begin (turn "42") false, .act 1 (.call (.gate none)),
      .begin (turn "42 again") false, .act 2 (.call (.gate none))]

/-- One flow is started, and its conclusion is counted twice, because the queue could not be reached
the first time. -/
theorem conclusion_counted_twice :
    saidTwice.1.world.metrics =
        [.started "code", .completed "code", .completed "code", .submitted "code"] ∧
      (Done.continued saidTwice.2).countP (Metric.concludes "code") = 2 ∧
      saidTwice.1.world.metrics.countP (Metric.starts "code") = 1 ∧
      (saidTwice.2.map fun done => done.outcome.isOk) = [true, false, true] := by
  decide +kernel

end Sessions
end SignInFlow
