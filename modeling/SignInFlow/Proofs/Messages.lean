import Mathlib.Tactic.LinearCombination
import SignInFlow.Settings

/-!
# The message of a failed flow

The failure template has places for the handler and for the cause.  The message should be the
template with both filled in at one go.  They are filled in one after the other, so it is, as long
as the handler does not make a place of the cause with what stands around it.
-/

namespace SignInFlow

/-! ## Replacing a pattern -/

section

variable {pattern replacement : List Char}

theorem substituteFrom_drop (skip : Nat) (text : List Char) :
    substituteFrom pattern replacement skip text =
      substituteFrom pattern replacement 0 (text.drop skip) := by
  induction skip generalizing text with
  | zero => rfl
  | succ skip ih =>
      cases text with
      | nil => simp [substituteFrom]
      | cons character rest => simpa [substituteFrom] using ih rest

theorem substituteFrom_of_not_isPrefixOf {character : Char} {rest : List Char}
    (plain : pattern.isPrefixOf (character :: rest) = false) :
    substituteFrom pattern replacement 0 (character :: rest) =
      character :: substituteFrom pattern replacement 0 rest := by
  simp [substituteFrom, plain]

/-- How often a pattern, which is not empty, occurs in a text. -/
def occurrences (pattern : List Char) : List Char → Nat
  | [] => 0
  | character :: rest =>
      (if pattern.isPrefixOf (character :: rest) then 1 else 0) + occurrences pattern rest

theorem occurrences_of_not_isPrefixOf {character : Char} {rest : List Char}
    (plain : pattern.isPrefixOf (character :: rest) = false) :
    occurrences pattern (character :: rest) = occurrences pattern rest := by
  simp [occurrences, plain]

end

/-! ## A pattern that does not overlap itself -/

section

variable {first : Char} {tail replacement : List Char}

theorem isPrefixOf_append (text : List Char) :
    (first :: tail).isPrefixOf (first :: (tail ++ text)) = true := by
  rw [List.isPrefixOf_iff_prefix, ← List.cons_append]
  exact List.prefix_append _ _

theorem not_isPrefixOf_of_ne {character : Char} (differs : character ≠ first) (text : List Char) :
    (first :: tail).isPrefixOf (character :: text) = false := by
  rw [List.isPrefixOf_cons_cons, beq_false_of_ne differs.symm, Bool.false_and]

theorem substituteFrom_append (text : List Char) :
    substituteFrom (first :: tail) replacement 0 (first :: (tail ++ text)) =
      replacement ++ substituteFrom (first :: tail) replacement 0 text := by
  rw [substituteFrom, if_pos (isPrefixOf_append text), substituteFrom_drop]
  simp

/-- No occurrence begins where the first character of the pattern does not stand. -/
theorem occurrences_append_of_not_mem {word : List Char} (clean : first ∉ word)
    (text : List Char) :
    occurrences (first :: tail) (word ++ text) = occurrences (first :: tail) text := by
  induction word with
  | nil => rfl
  | cons character rest ih =>
      obtain ⟨differs, clean⟩ := List.ne_and_not_mem_of_not_mem_cons clean
      rw [List.cons_append,
        occurrences_of_not_isPrefixOf (not_isPrefixOf_of_ne (Ne.symm differs) _), ih clean]

theorem substituteFrom_append_of_not_mem {word : List Char} (clean : first ∉ word)
    (text : List Char) :
    substituteFrom (first :: tail) replacement 0 (word ++ text) =
      word ++ substituteFrom (first :: tail) replacement 0 text := by
  induction word with
  | nil => rfl
  | cons character rest ih =>
      obtain ⟨differs, clean⟩ := List.ne_and_not_mem_of_not_mem_cons clean
      rw [List.cons_append,
        substituteFrom_of_not_isPrefixOf (not_isPrefixOf_of_ne (Ne.symm differs) _), ih clean]
      rfl

theorem occurrences_append (once : first ∉ tail) (text : List Char) :
    occurrences (first :: tail) (first :: (tail ++ text)) =
      occurrences (first :: tail) text + 1 := by
  rw [occurrences, if_pos (isPrefixOf_append text), occurrences_append_of_not_mem once,
    Nat.add_comm]

/-! ## Texts with marks -/

/-- A text some places of which are marked, with something filled in at every mark. -/
def fill (inserted : List Char) (text : List (Option Char)) : List Char :=
  text.flatMap fun
    | some character => [character]
    | none => inserted

@[simp] theorem fill_nil (inserted : List Char) : fill inserted [] = [] := rfl

@[simp] theorem fill_none (inserted : List Char) (text : List (Option Char)) :
    fill inserted (none :: text) = inserted ++ fill inserted text := rfl

@[simp] theorem fill_some (inserted : List Char) (character : Char) (text : List (Option Char)) :
    fill inserted (some character :: text) = character :: fill inserted text := rfl

@[simp] theorem fill_append (inserted : List Char) (front back : List (Option Char)) :
    fill inserted (front ++ back) = fill inserted front ++ fill inserted back :=
  List.flatMap_append

@[simp] theorem fill_map_some (inserted word : List Char) :
    fill inserted (word.map some) = word := by
  induction word with
  | nil => rfl
  | cons character rest ih => rw [List.map_cons, fill_some, ih]

@[simp] theorem count_none_map_some (word : List Char) : (word.map some).count none = 0 := by
  simp [List.count_eq_zero]

theorem length_fill (inserted other : List Char) (text : List (Option Char)) :
    ((fill inserted text).length : Int) =
      (fill other text).length + text.count none * (inserted.length - other.length) := by
  induction text with
  | nil => simp
  | cons mark text ih =>
      cases mark with
      | none =>
          simp only [fill_none, List.length_append, List.count_cons_self]
          push_cast
          linear_combination ih
      | some character =>
          simp only [fill_some, List.length_cons, List.count_cons_of_ne (Option.some_ne_none _)]
          push_cast
          linear_combination ih

/-- Where the pattern is filled in at the marks, a word without its first character stands in
between them. -/
theorem of_isPrefixOf_fill {word : List Char} (clean : first ∉ word) {text : List (Option Char)}
    (starts : word.isPrefixOf (fill (first :: tail) text) = true) :
    ∃ rest, text = word.map some ++ rest := by
  induction word generalizing text with
  | nil => exact ⟨text, rfl⟩
  | cons character word ih =>
      obtain ⟨differs, clean⟩ := List.ne_and_not_mem_of_not_mem_cons clean
      cases text with
      | nil => simp at starts
      | cons mark text =>
          cases mark with
          | none => simp [Ne.symm differs] at starts
          | some other =>
              simp only [fill_some, List.isPrefixOf_cons_cons, Bool.and_eq_true, beq_iff_eq]
                at starts
              obtain ⟨rfl, starts⟩ := starts
              obtain ⟨rest, rfl⟩ := ih clean starts
              exact ⟨rest, rfl⟩

/-- A text with marks at which the pattern is filled in: every occurrence of the pattern is a mark
or has come about between marks. -/
@[elab_as_elim]
theorem marks_induction (once : first ∉ tail) {motive : List (Option Char) → Prop}
    (nil : motive [])
    (mark : ∀ text, motive text → motive (none :: text))
    (fresh : ∀ text, motive text → motive ((first :: tail).map some ++ text))
    (plain : ∀ character text,
      (first :: tail).isPrefixOf (character :: fill (first :: tail) text) = false →
        motive text → motive (some character :: text))
    (text : List (Option Char)) : motive text := by
  induction size : text.length using Nat.strongRecOn generalizing text with
  | ind size ih =>
      subst size
      cases text with
      | nil => exact nil
      | cons head text =>
          cases head with
          | none => exact mark text (ih _ (by simp) text rfl)
          | some character =>
              cases occurs :
                  (first :: tail).isPrefixOf (character :: fill (first :: tail) text) with
              | false => exact plain character text occurs (ih _ (by simp) text rfl)
              | true =>
                  simp only [List.isPrefixOf_cons_cons, Bool.and_eq_true, beq_iff_eq] at occurs
                  obtain ⟨rfl, occurs⟩ := occurs
                  obtain ⟨rest, rfl⟩ := of_isPrefixOf_fill once occurs
                  refine fresh rest (ih _ ?_ rest rfl)
                  simp only [List.length_append, List.length_cons]
                  omega

/-! ## Filling in twice -/

section

variable (once : first ∉ tail) (text : List (Option Char))
include once

/-- Where the pattern stands, it takes its own place. -/
theorem substituteFrom_self :
    substituteFrom (first :: tail) (first :: tail) 0 (fill (first :: tail) text) =
      fill (first :: tail) text := by
  induction text using marks_induction once with
  | nil => rfl
  | mark text ih => rw [fill_none, List.cons_append, substituteFrom_append, ih, List.cons_append]
  | fresh text ih =>
      rw [fill_append, fill_map_some, List.cons_append, substituteFrom_append, ih, List.cons_append]
  | plain character text plain ih =>
      rw [fill_some, substituteFrom_of_not_isPrefixOf plain, ih]

/-- A mark at which the pattern is filled in is an occurrence. -/
theorem count_le_occurrences :
    text.count none ≤ occurrences (first :: tail) (fill (first :: tail) text) := by
  induction text using marks_induction once with
  | nil => simp
  | mark text ih =>
      rw [fill_none, List.cons_append, occurrences_append once, List.count_cons_self]
      omega
  | fresh text ih =>
      rw [fill_append, fill_map_some, List.cons_append, occurrences_append once,
        List.count_append, count_none_map_some]
      omega
  | plain character text plain ih =>
      rw [fill_some, occurrences_of_not_isPrefixOf plain]
      simpa using ih

/-- Every occurrence that is replaced makes the text longer by what the replacement is longer. -/
theorem length_substituteFrom :
    ((substituteFrom (first :: tail) replacement 0 (fill (first :: tail) text)).length : Int) =
      (fill (first :: tail) text).length +
        occurrences (first :: tail) (fill (first :: tail) text) *
          (replacement.length - (first :: tail).length) := by
  induction text using marks_induction once with
  | nil => simp [substituteFrom, occurrences]
  | mark text ih =>
      rw [fill_none, List.cons_append, occurrences_append once, substituteFrom_append]
      simp only [List.length_append, List.length_cons] at ih ⊢
      push_cast at ih ⊢
      linear_combination ih
  | fresh text ih =>
      rw [fill_append, fill_map_some, List.cons_append, occurrences_append once,
        substituteFrom_append]
      simp only [List.length_append, List.length_cons] at ih ⊢
      push_cast at ih ⊢
      linear_combination ih
  | plain character text plain ih =>
      rw [fill_some, substituteFrom_of_not_isPrefixOf plain, occurrences_of_not_isPrefixOf plain]
      simp only [List.length_cons] at ih ⊢
      push_cast at ih ⊢
      linear_combination ih

/-- Replacing a pattern that was filled in at the marks comes to filling in the replacement, unless
the pattern has come about elsewhere, too; and then only the pattern itself makes no difference. -/
theorem substituteFrom_fill_iff :
    substituteFrom (first :: tail) replacement 0 (fill (first :: tail) text) =
        fill replacement text ↔
      occurrences (first :: tail) (fill (first :: tail) text) = text.count none ∨
        replacement = first :: tail := by
  induction text using marks_induction once with
  | nil => simp [substituteFrom, occurrences]
  | mark text ih =>
      rw [fill_none, fill_none, List.cons_append, substituteFrom_append, occurrences_append once,
        List.count_cons_self, List.append_right_inj, ih, Nat.add_right_cancel_iff]
  | plain character text plain ih =>
      rw [fill_some, fill_some, substituteFrom_of_not_isPrefixOf plain,
        occurrences_of_not_isPrefixOf plain, List.cons_inj_right, ih,
        List.count_cons_of_ne (Option.some_ne_none _)]
  | fresh text ih =>
      have more := count_le_occurrences once text
      rw [fill_append, fill_append, fill_map_some, fill_map_some, List.cons_append,
        substituteFrom_append, occurrences_append once, List.count_append, count_none_map_some]
      constructor
      · intro same
        refine .inr ?_
        have lengths := congrArg (fun text => (List.length text : Int)) same
        simp only [List.length_append] at lengths
        push_cast at lengths
        rw [length_substituteFrom once text, length_fill replacement (first :: tail)] at lengths
        have level : ((replacement.length : Int) - (first :: tail).length) *
            (occurrences (first :: tail) (fill (first :: tail) text) + 1 - text.count none) =
              0 := by
          linear_combination lengths
        have long : replacement.length = (first :: tail).length := by
          rcases Int.mul_eq_zero.mp level with equal | equal <;> omega
        exact List.append_inj_left same long
      · rintro (same | rfl)
        · omega
        · rw [substituteFrom_self once]

end

end

namespace Settings

/-! ## Templates -/

/-- What a template consists of. -/
inductive Piece where
  /-- A character that stands for itself. -/
  | plain (character : Char)
  /-- A place of the handler. -/
  | handler
  /-- A place of the cause. -/
  | cause

namespace Piece

/-- What a piece becomes in the message. -/
def text (handlerText causeText : List Char) : Piece → List Char
  | plain character => [character]
  | handler => handlerText
  | cause => causeText

/-- What a piece becomes once the handler is filled in, with the places of the cause as marks. -/
def marked (handlerText : List Char) : Piece → List (Option Char)
  | plain character => [some character]
  | handler => handlerText.map some
  | cause => [none]

theorem fill_marked (handlerText causeText : List Char) (piece : Piece) :
    fill causeText (piece.marked handlerText) = piece.text handlerText causeText := by
  cases piece with
  | plain character => rfl
  | handler => exact fill_map_some causeText handlerText
  | cause => exact List.append_nil causeText

end Piece

/-- The pieces of a template, after `skip` characters that belong to a place already found. -/
def piecesFrom : Nat → List Char → List Piece
  | _, [] => []
  | 0, character :: rest =>
      if handlerPlace.toList.isPrefixOf (character :: rest) then
        .handler :: piecesFrom (handlerPlace.toList.length - 1) rest
      else if causePlace.toList.isPrefixOf (character :: rest) then
        .cause :: piecesFrom (causePlace.toList.length - 1) rest
      else .plain character :: piecesFrom 0 rest
  | skip + 1, _ :: rest => piecesFrom skip rest

/-- The template with the handler and the cause in all their places at one go. -/
def filled (settings : Settings) (handler cause : String) : String :=
  String.ofList ((piecesFrom 0 settings.failureTemplate.toList).flatMap
    (Piece.text handler.toList cause.toList))

/-- The place of the handler after its brace. -/
def handlerWord : List Char := "handler\x7d".toList

/-- The place of the cause after its brace. -/
def causeWord : List Char := "cause\x7d".toList

theorem toList_handlerPlace : handlerPlace.toList = '\x7b' :: handlerWord := rfl

theorem toList_causePlace : causePlace.toList = '\x7b' :: causeWord := rfl

theorem handlerWord_clean : '\x7b' ∉ handlerWord := by decide

theorem causeWord_clean : '\x7b' ∉ causeWord := by decide

theorem not_isPrefixOf_causePlace (rest : List Char) :
    causePlace.toList.isPrefixOf ('\x7b' :: (handlerWord ++ rest)) = false := rfl

theorem not_isPrefixOf_handlerPlace (rest : List Char) :
    handlerPlace.toList.isPrefixOf ('\x7b' :: (causeWord ++ rest)) = false := rfl

theorem piecesFrom_drop (skip : Nat) (text : List Char) :
    piecesFrom skip text = piecesFrom 0 (text.drop skip) := by
  induction skip generalizing text with
  | zero => rfl
  | succ skip ih =>
      cases text with
      | nil => simp [piecesFrom]
      | cons character rest => simpa [piecesFrom] using ih rest

theorem piecesFrom_handler (rest : List Char) :
    piecesFrom 0 ('\x7b' :: (handlerWord ++ rest)) = .handler :: piecesFrom 0 rest := by
  rw [piecesFrom, toList_handlerPlace, if_pos (isPrefixOf_append rest), piecesFrom_drop]
  rfl

theorem piecesFrom_cause (rest : List Char) :
    piecesFrom 0 ('\x7b' :: (causeWord ++ rest)) = .cause :: piecesFrom 0 rest := by
  rw [piecesFrom, not_isPrefixOf_handlerPlace, if_neg Bool.false_ne_true, toList_causePlace,
    if_pos (isPrefixOf_append rest), piecesFrom_drop]
  rfl

theorem piecesFrom_plain {character : Char} {rest : List Char}
    (noHandler : handlerPlace.toList.isPrefixOf (character :: rest) = false)
    (noCause : causePlace.toList.isPrefixOf (character :: rest) = false) :
    piecesFrom 0 (character :: rest) = .plain character :: piecesFrom 0 rest := by
  rw [piecesFrom, noHandler, noCause]
  rfl

/-- A template is read place by place, and character by character where there is none. -/
@[elab_as_elim]
theorem template_induction {motive : List Char → Prop} (nil : motive [])
    (handler : ∀ rest, motive rest → motive ('\x7b' :: (handlerWord ++ rest)))
    (cause : ∀ rest, motive rest → motive ('\x7b' :: (causeWord ++ rest)))
    (plain : ∀ character rest, handlerPlace.toList.isPrefixOf (character :: rest) = false →
      causePlace.toList.isPrefixOf (character :: rest) = false →
        motive rest → motive (character :: rest))
    (template : List Char) : motive template := by
  induction size : template.length using Nat.strongRecOn generalizing template with
  | ind size ih =>
      subst size
      cases template with
      | nil => exact nil
      | cons character rest =>
          cases atHandler : handlerPlace.toList.isPrefixOf (character :: rest) with
          | true =>
              obtain ⟨rest, same⟩ := List.isPrefixOf_iff_prefix.mp atHandler
              rw [toList_handlerPlace, List.cons_append] at same
              rw [← same] at ih ⊢
              refine handler rest (ih _ ?_ rest rfl)
              simp only [List.length_append, List.length_cons]
              omega
          | false =>
              cases atCause : causePlace.toList.isPrefixOf (character :: rest) with
              | true =>
                  obtain ⟨rest, same⟩ := List.isPrefixOf_iff_prefix.mp atCause
                  rw [toList_causePlace, List.cons_append] at same
                  rw [← same] at ih ⊢
                  refine cause rest (ih _ ?_ rest rfl)
                  simp only [List.length_append, List.length_cons]
                  omega
              | false => exact plain character rest atHandler atCause (ih _ (by simp) rest rfl)

/-- The template once the handler is filled in, with its own places of the cause as marks. -/
def marked (handlerText template : List Char) : List (Option Char) :=
  (piecesFrom 0 template).flatMap (Piece.marked handlerText)

/-- The handler is filled in at its places, and nowhere else. -/
theorem fill_causePlace_marked (handlerText template : List Char) :
    fill causePlace.toList (marked handlerText template) =
      substituteFrom handlerPlace.toList handlerText 0 template := by
  unfold marked
  induction template using template_induction with
  | nil => rfl
  | handler rest ih =>
      rw [piecesFrom_handler, List.flatMap_cons, fill_append, ih, Piece.fill_marked,
        toList_handlerPlace, substituteFrom_append]
      rfl
  | cause rest ih =>
      rw [piecesFrom_cause, List.flatMap_cons, fill_append, ih, Piece.fill_marked,
        substituteFrom_of_not_isPrefixOf (not_isPrefixOf_handlerPlace rest), toList_handlerPlace,
        substituteFrom_append_of_not_mem causeWord_clean]
      rfl
  | plain character rest noHandler noCause ih =>
      rw [piecesFrom_plain noHandler noCause, List.flatMap_cons, fill_append, ih,
        Piece.fill_marked, substituteFrom_of_not_isPrefixOf noHandler]
      rfl

theorem fill_marked (handlerText causeText template : List Char) :
    fill causeText (marked handlerText template) =
      (piecesFrom 0 template).flatMap (Piece.text handlerText causeText) := by
  unfold marked
  induction piecesFrom 0 template with
  | nil => rfl
  | cons piece rest ih =>
      rw [List.flatMap_cons, List.flatMap_cons, fill_append, Piece.fill_marked, ih]

/-- The marks are the places of the cause that the template has. -/
theorem count_marked (handlerText template : List Char) :
    (marked handlerText template).count none = occurrences causePlace.toList template := by
  unfold marked
  induction template using template_induction with
  | nil => rfl
  | handler rest ih =>
      rw [piecesFrom_handler, List.flatMap_cons, List.count_append, ih,
        occurrences_of_not_isPrefixOf (not_isPrefixOf_causePlace rest), toList_causePlace,
        occurrences_append_of_not_mem handlerWord_clean, Piece.marked, count_none_map_some,
        Nat.zero_add]
  | cause rest ih =>
      rw [piecesFrom_cause, List.flatMap_cons, List.count_append, ih, toList_causePlace,
        occurrences_append causeWord_clean, Nat.add_comm]
      rfl
  | plain character rest noHandler noCause ih =>
      rw [piecesFrom_plain noHandler noCause, List.flatMap_cons, List.count_append, ih,
        occurrences_of_not_isPrefixOf noCause]
      exact Nat.zero_add _

/-- Nothing of a template is lost in its pieces. -/
theorem flatMap_pieces (template : List Char) :
    (piecesFrom 0 template).flatMap (Piece.text handlerPlace.toList causePlace.toList) =
      template := by
  rw [← fill_marked, fill_causePlace_marked, toList_handlerPlace]
  simpa using substituteFrom_self handlerWord_clean (template.map some)

/-- A place of the handler that occurs is a piece. -/
theorem handler_mem_pieces {template : List Char}
    (occurs : occursIn handlerPlace.toList template = true) :
    Piece.handler ∈ piecesFrom 0 template := by
  induction template using template_induction with
  | nil => cases occurs
  | handler rest ih => simp [piecesFrom_handler]
  | cause rest ih =>
      rw [piecesFrom_cause]
      exact List.mem_cons_of_mem _ (ih occurs)
  | plain character rest noHandler noCause ih =>
      rw [occursIn, noHandler, Bool.false_or] at occurs
      rw [piecesFrom_plain noHandler noCause]
      exact List.mem_cons_of_mem _ (ih occurs)

/-! ## Messages -/

variable {settings : Settings} {handler cause : String}

/-- The handler makes a place of the cause with what stands around it in the template. -/
def Blends (settings : Settings) (handler : String) : Prop :=
  occurrences causePlace.toList
      (substitute handlerPlace handler settings.failureTemplate).toList ≠
    occurrences causePlace.toList settings.failureTemplate.toList

instance : Decidable (settings.Blends handler) := inferInstanceAs (Decidable (_ ≠ _))

theorem failureMessage_eq_filled_iff :
    settings.failureMessage handler cause = settings.filled handler cause ↔
      ¬settings.Blends handler ∨ cause = causePlace := by
  have marks := fill_causePlace_marked handler.toList settings.failureTemplate.toList
  have blends : ¬settings.Blends handler ↔
      occurrences causePlace.toList
          (fill causePlace.toList (marked handler.toList settings.failureTemplate.toList)) =
        (marked handler.toList settings.failureTemplate.toList).count none := by
    rw [Blends, not_not, substitute, String.toList_ofList, marks, count_marked]
  rw [blends, failureMessage, filled, substitute, String.ofList_inj, substitute,
    String.toList_ofList, ← marks, ← fill_marked, toList_causePlace,
    substituteFrom_fill_iff causeWord_clean, ← toList_causePlace, String.toList_inj]

theorem occursIn_of_validate (valid : settings.validate = .ok ()) :
    occursIn handlerPlace.toList settings.failureTemplate.toList = true := by
  unfold validate at valid
  split at valid
  · cases valid
  · rename_i fine
    unfold fault at fine
    grind

/-- What is filled in at a place stands in the message. -/
theorem infix_filled (valid : settings.validate = .ok ()) :
    handler.toList <:+: (settings.filled handler cause).toList := by
  obtain ⟨before, after, pieces⟩ :=
    List.append_of_mem (handler_mem_pieces (occursIn_of_validate valid))
  rw [filled, String.toList_ofList, pieces, List.flatMap_append, List.flatMap_cons]
  exact ⟨_, _, List.append_assoc _ _ _⟩

/-- The message of a failed flow is the template with the handler and the cause in all their places
at one go, just if the handler makes no place of the cause with what stands around it, or the cause
is that place itself.  What is in no place stays as it is in the template.  So settings that meet
the requirements give a message with the name of the handler in it. -/
theorem message_faithful (settings : Settings) (handler cause : String) :
    (settings.failureMessage handler cause = settings.filled handler cause ↔
      ¬settings.Blends handler ∨ cause = causePlace) ∧
    settings.filled handlerPlace causePlace = settings.failureTemplate ∧
    (settings.validate = .ok () → ¬settings.Blends handler →
      handler.toList <:+: (settings.failureMessage handler cause).toList) := by
  refine ⟨failureMessage_eq_filled_iff, ?_, fun valid apart => ?_⟩
  · rw [filled, flatMap_pieces, String.ofList_toList]
  · rw [failureMessage_eq_filled_iff.mpr (.inl apart)]
    exact infix_filled valid

/-- By default, a handler with a plain name is in the message as it is. -/
theorem plain_name_in_message : ¬standard.Blends "graph" ∧
    standard.failureMessage "graph" "Other" = standard.filled "graph" "Other" ∧
      "graph".toList <:+: (standard.failureMessage "graph" "Other").toList := by
  obtain ⟨faithful, -, named⟩ := message_faithful standard "graph" "Other"
  have apart : ¬standard.Blends "graph" := by decide +kernel
  have fine : standard.fault = none := by decide +kernel
  have valid : standard.validate = .ok () := by rw [validate, fine]
  exact ⟨apart, faithful.mpr (.inl apart), named valid apart⟩

/-- A handler that is named like the place of the cause is not in the message. -/
theorem message_without_handler :
    standard.filled causePlace "InvalidActivity" =
        "Sign in for '\x7bcause\x7d' completed without a token. Status=InvalidActivity" ∧
      standard.failureMessage causePlace "InvalidActivity" =
        "Sign in for 'InvalidActivity' completed without a token. Status=InvalidActivity" ∧
      ¬causePlace.toList <:+: (standard.failureMessage causePlace "InvalidActivity").toList := by
  decide +kernel

end Settings
end SignInFlow
