import SignInFlow.Proofs.Transition

/-!
# The documents as a record tells of them

Every access that has taken effect is in the record, so the documents of any moment can be told
from it.
-/

namespace SignInFlow

variable {σ : Type}

/-- The documents after an access. -/
def Access.apply (documents : Dictionary Json) : Access → Dictionary Json
  | .write changes =>
      changes.foldl (fun documents change => documents.put change.1 change.2) documents
  | .delete keys => keys.foldl (fun documents key => documents.drop key) documents
  | .read _ | .submit _ => documents

/-- How the user's state is written back. -/
def UserState.writing (state : UserState) : Access :=
  if state.properties.isEmpty then .delete [state.key]
  else .write [(state.key, .obj state.properties)]

namespace UserState

variable (state : UserState) (documents : Dictionary Json)

theorem lookup_writing_self : List.lookup state.key (state.writing.apply documents) =
    if state.properties.isEmpty then none else some (.obj state.properties) := by
  unfold writing
  cases state.properties.isEmpty with
  | true => exact Dictionary.lookup_drop_self _ _
  | false => exact Dictionary.lookup_put_self _ _ _

theorem lookup_writing_of_ne {key : String} (differs : key ≠ state.key) :
    List.lookup key (state.writing.apply documents) = List.lookup key documents := by
  unfold writing
  cases state.properties.isEmpty with
  | true => exact Dictionary.lookup_drop_of_ne differs _
  | false => exact Dictionary.lookup_put_of_ne differs _ _

/-- What is written back is stored. -/
theorem stored_writing_self :
    Flow.stored (state.writing.apply documents) state.key = Flow.load state := by
  simp only [Flow.stored, lookup_writing_self]
  cases empty : state.properties.isEmpty with
  | true =>
      have none : state.properties = [] := List.isEmpty_iff.mp empty
      change Flow.load ⟨state.key, [], false⟩ = Flow.load state
      exact Flow.load_congr (by rw [none]) (by rw [none])
  | false => exact Flow.load_congr rfl rfl

/-- Nobody else's flow is touched. -/
theorem stored_writing_of_ne {key : String} (differs : key ≠ state.key) :
    Flow.stored (state.writing.apply documents) key = Flow.stored documents key := by
  simp only [Flow.stored, lookup_writing_of_ne state documents differs]

end UserState

namespace Event

/-- The turn in which the host sees an event. -/
def turn : Event → Turn
  | accessed turn _ => turn
  | refused turn _ => turn
  | answered _ turn _ _ => turn
  | withdrew turn _ _ _ => turn
  | admitted turn => turn
  | succeeded turn _ => turn
  | failed turn _ => turn
  | sent turn _ => turn

/-- Whether an event tells somebody of an outcome. -/
def isReport : Event → Bool
  | succeeded _ _ | failed _ _ | sent _ _ => true
  | _ => false

/-- Whether an event is neither an access nor an answer of a handler. -/
def isNotice : Event → Bool
  | admitted _ | succeeded _ _ | failed _ _ | sent _ _ => true
  | _ => false

/-- Whether a handler was asked to sign a user in. -/
def isAnswer : Event → Bool
  | answered _ _ _ _ => true
  | _ => false

/-- The documents after an event. -/
def apply (documents : Dictionary Json) : Event → Dictionary Json
  | accessed _ access => access.apply documents
  | _ => documents

theorem apply_of_notice {event : Event} (notice : event.isNotice = true)
    (documents : Dictionary Json) : event.apply documents = documents := by
  cases event <;> first | rfl | cases notice

theorem isAnswer_of_notice {event : Event} (notice : event.isNotice = true) :
    event.isAnswer = false := by
  cases event <;> first | rfl | cases notice

theorem ne_answered {event : Event} (unasked : event.isAnswer = false) (asker : Asker)
    (turn : Turn) (request : Request) (answer : Except Error Response) :
    event ≠ answered asker turn request answer := by
  rintro rfl
  cases unasked

end Event

/-- The documents after a record, the latest first, from those before it. -/
def replay (documents : Dictionary Json) : List Event → Dictionary Json
  | [] => documents
  | event :: older => event.apply (replay documents older)

namespace View

variable (view : View) (turn : Turn)

/-- A clean state is not written back. -/
theorem saved_of_clean (clean : view.state.dirty = false) : view.saved turn = view := by
  simp [saved, clean]

theorem saved_eq_writing (dirty : view.state.dirty = true) :
    view.saved turn =
      { view with
        documents := view.state.writing.apply view.documents
        state := { view.state with dirty := false } }.see (.accessed turn view.state.writing) := by
  unfold saved UserState.writing
  rw [if_pos dirty]
  cases view.state.properties.isEmpty <;> rfl

/-- Writing back is one access to the document of the user. -/
theorem saved_of_dirty (dirty : view.state.dirty = true) :
    ∃ access : Access, (access = .write [(view.state.key, .obj view.state.properties)] ∨
        access = .delete [view.state.key]) ∧
      view.saved turn =
        { view with
          documents := access.apply view.documents
          state := { view.state with dirty := false } }.see (.accessed turn access) := by
  refine ⟨view.state.writing, ?_, saved_eq_writing view turn dirty⟩
  unfold UserState.writing
  cases view.state.properties.isEmpty with
  | true => exact .inr rfl
  | false => exact .inl rfl

/-- What is written back is stored. -/
theorem stored_saved_of_dirty (dirty : view.state.dirty = true) :
    Flow.stored (view.saved turn).documents view.state.key = Flow.load view.state := by
  rw [saved_eq_writing view turn dirty]
  exact view.state.stored_writing_self view.documents

/-- Nobody else's flow is touched. -/
theorem stored_saved_of_ne {key : String} (differs : key ≠ view.state.key) :
    Flow.stored (view.saved turn).documents key = Flow.stored view.documents key := by
  cases dirty : view.state.dirty with
  | false => rw [saved_of_clean view turn dirty]
  | true =>
      rw [saved_eq_writing view turn dirty]
      exact view.state.stored_writing_of_ne view.documents differs

/-- The flow stored for a user after writing back is the one from before, or that of the turn. -/
theorem stored_saved (key : String) :
    Flow.stored (view.saved turn).documents key = Flow.stored view.documents key ∨
      key = view.state.key ∧
        Flow.stored (view.saved turn).documents key = Flow.load view.state := by
  by_cases own : key = view.state.key
  · cases dirty : view.state.dirty with
    | true => exact .inr ⟨own, own ▸ stored_saved_of_dirty view turn dirty⟩
    | false =>
        left
        simp only [saved, dirty, Bool.false_eq_true, if_false]
  · exact .inl (stored_saved_of_ne view turn own)

/-- A view whose documents are what its record tells. -/
def Recalls (start : Dictionary Json) (view : View) : Prop := view.documents = replay start view.log

variable {view} {start : Dictionary Json}

theorem Recalls.see (recalls : view.Recalls start) {event : Event}
    (silent : event.apply view.documents = view.documents) : (view.see event).Recalls start := by
  unfold Recalls at recalls ⊢
  rw [see_documents, see_log, replay, ← recalls, silent]

theorem Recalls.saved (recalls : view.Recalls start) : (view.saved turn).Recalls start := by
  cases dirty : view.state.dirty with
  | false => rwa [saved_of_clean view turn dirty]
  | true =>
      obtain ⟨access, -, written⟩ := saved_of_dirty view turn dirty
      unfold Recalls at recalls ⊢
      rw [written, see_documents, see_log, replay, ← recalls]
      rfl

/-- Writing back is one more access in the record, and changes the flow of the user alone. -/
theorem written_of_dirty (recalls : view.Recalls start) (dirty : view.state.dirty = true) :
    ∃ access : Access, (∀ activity, access ≠ .submit activity) ∧
      (view.saved turn).log = .accessed turn access :: view.log ∧
      Flow.stored (replay start (.accessed turn access :: view.log)) view.state.key =
        Flow.load view.state ∧
      ∀ user, user ≠ view.state.key →
        Flow.stored (replay start (.accessed turn access :: view.log)) user =
          Flow.stored (replay start view.log) user := by
  obtain ⟨access, change, written⟩ := saved_of_dirty view turn dirty
  have log : (view.saved turn).log = .accessed turn access :: view.log := by
    rw [written]
    rfl
  have documents := Recalls.saved turn recalls
  unfold Recalls at documents
  rw [log] at documents
  refine ⟨access, ?_, log, ?_, ?_⟩
  · rintro activity rfl
    rcases change with write | delete
    · cases write
    · cases delete
  · rw [← documents]
    exact stored_saved_of_dirty view turn dirty
  · intro user other
    rw [← documents, ← recalls]
    exact stored_saved_of_ne view turn other

end View

/-! ## What a turn tells of -/

/-- A report of a turn, with nothing in it but notices of the turn. -/
def Notices (turn : Turn) (report : List Event) : Prop :=
  ∀ event ∈ report, event.turn = turn ∧ event.isNotice = true

theorem notices_nil (turn : Turn) : Notices turn [] := List.forall_mem_nil _

theorem notices_admitted (turn : Turn) : Notices turn [.admitted turn] :=
  List.forall_mem_singleton.mpr ⟨rfl, rfl⟩

namespace Authenticator

variable {auth : Authenticator σ} {turn : Turn}

theorem notice_failureEvent (auth : Authenticator σ) (turn : Turn) (failure : Failure)
    (now : Instant) : (auth.failureEvent turn failure now).turn = turn ∧
      (auth.failureEvent turn failure now).isNotice = true := by
  rcases auth.failureEvent_cases turn failure now with same | ⟨message, same⟩ <;>
  · rw [same]
    exact ⟨rfl, rfl⟩

theorem notices_failureEvent (auth : Authenticator σ) (turn : Turn) (failure : Failure)
    (now : Instant) : Notices turn [auth.failureEvent turn failure now] :=
  List.forall_mem_singleton.mpr (auth.notice_failureEvent turn failure now)

theorem Tells.notice {event : Completion} {response : Response} {report : Event}
    (tells : auth.Tells turn event response report) :
    report.turn = turn ∧ report.isNotice = true := by
  cases tells with
  | success => exact ⟨rfl, rfl⟩
  | failure failed now => exact auth.notice_failureEvent turn _ now

theorem Reports.notices {handler : String} {response : Response} {report : List Event}
    (reports : auth.Reports turn handler response report) : Notices turn report := by
  cases reports with
  | success => exact notices_nil turn
  | failure failed now => exact auth.notices_failureEvent turn _ now

end Authenticator

/-- What is true where a flow has been written back, and where that was refused, and stays true with
every event that is told then. -/
@[elab_as_elim]
theorem Persists.keeps {motive : View → Prop} {turn : Turn} {flow : Flow} {report : List Event}
    {view after : View} (persists : Persists turn flow report view after)
    (written : motive ((view.hold flow).saved turn))
    (refused : ∀ access, access.isStorage = true →
      motive ((view.hold flow).see (.refused turn access)))
    (told : ∀ event ∈ report, ∀ earlier, motive earlier → motive (earlier.see event)) :
    motive after := by
  cases persists with
  | refused access storage => exact refused access storage
  | kept =>
      induction report with
      | nil => exact written
      | cons event rest ih =>
          apply told event List.mem_cons_self
          exact ih fun other member => told other (List.mem_cons_of_mem _ member)

/-! ## The record only grows -/

/-- The record has grown by what a turn has seen. -/
def Adds (turn : Turn) (before after : List Event) : Prop :=
  ∃ seen, after = seen ++ before ∧ ∀ event ∈ seen, event.turn = turn

section

variable {turn : Turn} {before middle after : List Event}

theorem Adds.refl (turn : Turn) (log : List Event) : Adds turn log log :=
  ⟨[], rfl, List.forall_mem_nil _⟩

theorem Adds.cons (adds : Adds turn before after) {event : Event} (own : event.turn = turn) :
    Adds turn before (event :: after) := by
  obtain ⟨seen, rfl, owns⟩ := adds
  exact ⟨event :: seen, rfl, List.forall_mem_cons.mpr ⟨own, owns⟩⟩

theorem Adds.trans (adds : Adds turn before middle) (more : Adds turn middle after) :
    Adds turn before after := by
  obtain ⟨seen, rfl, owns⟩ := more
  induction seen with
  | nil => exact adds
  | cons event rest ih =>
      obtain ⟨own, owns⟩ := List.forall_mem_cons.mp owns
      exact (ih owns).cons own

theorem Adds.suffix (adds : Adds turn before after) : before <:+ after := by
  obtain ⟨seen, rfl, -⟩ := adds
  exact List.suffix_append seen before

end

/-- A record has grown, and no handler was asked to sign a user in. -/
def Quietly (before after : List Event) : Prop :=
  ∃ seen, after = seen ++ before ∧ ∀ event ∈ seen, event.isAnswer = false

namespace Quietly

theorem refl (log : List Event) : Quietly log log := ⟨[], rfl, List.forall_mem_nil _⟩

theorem cons {before after : List Event} (quietly : Quietly before after) {event : Event}
    (unasked : event.isAnswer = false) : Quietly before (event :: after) := by
  obtain ⟨seen, rfl, quiet⟩ := quietly
  exact ⟨event :: seen, rfl, List.forall_mem_cons.mpr ⟨unasked, quiet⟩⟩

theorem suffix {before after : List Event} (quietly : Quietly before after) :
    before <:+ after := by
  obtain ⟨seen, rfl, -⟩ := quietly
  exact List.suffix_append seen before

end Quietly

theorem Quietly.saved {view : View} {asked : List Event} (quietly : Quietly asked view.log)
    (turn : Turn) : Quietly asked (view.saved turn).log := by
  rcases View.saved_cases view turn with same | ⟨documents, access, written⟩
  · rwa [same]
  · rw [written]
    exact quietly.cons rfl

namespace View

variable {view : View} (turn : Turn)

theorem adds_see {event : Event} (own : event.turn = turn) :
    Adds turn view.log (view.see event).log := (Adds.refl turn view.log).cons own

theorem adds_hear (asker : Asker) (request : Request) (answer : Except Error Response) :
    Adds turn view.log (view.hear asker turn request answer).log := by
  rw [hear_log]
  exact adds_see turn rfl

theorem adds_part (way : Withdrawal) (handler : String) (outcome : Except Error Unit) :
    Adds turn view.log (view.part turn way handler outcome).log := by
  rw [part_log]
  exact adds_see turn rfl

theorem adds_saved : Adds turn view.log (view.saved turn).log := by
  rcases saved_cases view turn with same | ⟨documents, access, written⟩
  · rw [same]
    exact .refl turn _
  · rw [written]
    exact adds_see turn rfl

theorem adds_of_persists {flow : Flow} {report : List Event} {after : View}
    (notices : Notices turn report) (persists : Persists turn flow report view after) :
    Adds turn view.log after.log := by
  have written : Adds turn view.log ((view.hold flow).saved turn).log := adds_saved turn
  exact persists.keeps written (fun _ _ => adds_see turn rfl)
    fun event member _ adds => adds.cons (notices event member).1

theorem adds_of_step {auth : Authenticator σ} {after : View} (step : auth.Step turn view after) :
    Adds turn view.log after.log := by
  cases step with
  | heard asker request answer => exact adds_hear turn asker request answer
  | balked request answer => exact (adds_hear turn _ request answer).cons rfl
  | refused => exact adds_see turn rfl
  | disappointed request response => exact (adds_hear turn _ request _).cons rfl
  | admitted => exact adds_see turn rfl
  | told report => exact adds_see turn rfl
  | began asker request response _ _ _ _ persists =>
      exact (adds_hear turn _ _ _).trans (adds_of_persists turn (notices_nil turn) persists)
  | handedOn handler banked exchange response activity queue _ _ _ persists =>
      exact ((adds_hear turn _ _ _).cons rfl).trans
        (adds_of_persists turn (notices_nil turn) persists)
  | proceeded handler trigger exchange response _ _ _ persists =>
      exact (adds_hear turn _ _ _).trans (adds_of_persists turn (notices_admitted turn) persists)
  | gaveUp handler trigger exchange response now _ _ persists =>
      have notices := auth.notices_failureEvent turn ⟨handler, response.effective, trigger⟩ now
      exact (adds_hear turn _ _ _).trans (adds_of_persists turn notices persists)
  | settled flow request response report _ _ reports persists =>
      exact (adds_hear turn _ _ _).trans (adds_of_persists turn reports.notices persists)
  | parted way handler outcome => exact adds_part turn way handler outcome
  | withdrawn way handler banked _ persists =>
      exact (adds_part turn _ _ _).trans (adds_of_persists turn (notices_nil turn) persists)
  | set => exact .refl turn _
  | remove => exact .refl turn _
  | saved => exact adds_saved turn

theorem adds_of_reaches {auth : Authenticator σ} {after : View}
    (reaches : auth.Reaches turn view after) : Adds turn view.log after.log := by
  induction reaches with
  | refl => exact .refl turn _
  | tail _ step ih => exact ih.trans (adds_of_step turn step)

theorem adds_of_completes {auth : Authenticator σ} {after : View}
    (completes : auth.Completes turn view after) : Adds turn view.log after.log := by
  cases completes with
  | nothing => exact .refl turn _
  | reported event response report redelivered decoded carried tells =>
      exact adds_see turn tells.notice.1

end View
end SignInFlow
