import Mathlib.Logic.Relation
import SignInFlow.Cancellation

/-!
# Cancellation follows the tree of tokens

A token counts as cancelled just if it, a clone of it, or an ancestor was cancelled before; and
whoever waits for it is ready just if it counts as cancelled, at whatever level that has happened
and however it lies between making the waiter and polling it.
-/

namespace SignInFlow

/-! ## What is done with tokens -/

/-- How a token, under its number, came about. -/
inductive Making where
  /-- As a token of its own. -/
  | new
  /-- As the child of another. -/
  | child (parent : Nat)
  /-- As another number for the same token. -/
  | clone (original : Nat)
deriving DecidableEq, Repr

/-- What is done with tokens and waiters. -/
inductive TokenAct where
  | make (making : Making)
  | cancel (token : Nat)
  | wait (token : Nat)
  /-- Polling a waiter, which looks at its levels in some order. -/
  | poll (order : List Bool) (waiter : Nat)
deriving DecidableEq, Repr

namespace TokenAct

/-- How tokens came about, by number, after acts that are listed with the latest first. -/
def made : List TokenAct → List Making
  | [] => []
  | .make making :: earlier => made earlier ++ [making]
  | _ :: earlier => made earlier

/-- The tokens that are waited for, by the number of the waiter. -/
def awaited : List TokenAct → List Nat
  | [] => []
  | .wait token :: earlier => awaited earlier ++ [token]
  | _ :: earlier => awaited earlier

/-- Whether an act is about tokens and waiters that are there, given how many there are. -/
def concerns (tokens waiters : Nat) : TokenAct → Bool
  | .make .new => true
  | .make (.child token) | .make (.clone token) | .cancel token | .wait token =>
      decide (token < tokens)
  | .poll _ waiter => decide (waiter < waiters)

/-- Whether every act is about tokens and waiters that are there. -/
def sound : List TokenAct → Bool
  | [] => true
  | act :: earlier =>
      act.concerns (made earlier).length (awaited earlier).length && sound earlier

end TokenAct

namespace TokenForest

/-- The forest after an act. -/
def perform (forest : TokenForest) : TokenAct → TokenForest
  | .make .new => forest.new.2
  | .make (.child parent) => (forest.child parent).2
  | .make (.clone original) => (forest.clone original).2
  | .cancel token => forest.cancel token
  | .wait token => (forest.wait token).2
  | .poll order waiter => (forest.pollIn order waiter).2

/-- The forest after acts that are listed with the latest first. -/
def after : List TokenAct → TokenForest
  | [] => .empty
  | act :: earlier => (after earlier).perform act

end TokenForest

/-- Where a cancellation is passed on: between a token and its clones, and to children. -/
inductive Passes (made : List Making) : Nat → Nat → Prop where
  | toClone {original clone : Nat} (cloned : made[clone]? = some (.clone original)) :
      Passes made original clone
  | toOriginal {original clone : Nat} (cloned : made[clone]? = some (.clone original)) :
      Passes made clone original
  | toChild {parent child : Nat} (born : made[child]? = some (.child parent)) :
      Passes made parent child

/-- A token is the same as another, or a descendant of it. -/
def Covers (made : List Making) : Nat → Nat → Prop := Relation.ReflTransGen (Passes made)

theorem Passes.append {made : List Making} {source target : Nat}
    (passes : Passes made source target) (more : List Making) :
    Passes (made ++ more) source target := by
  have still {number : Nat} {making : Making} (held : made[number]? = some making) :
      (made ++ more)[number]? = some making := by
    rw [List.getElem?_append_left (List.getElem?_eq_some_iff.mp held).1, held]
  cases passes with
  | toClone cloned => exact .toClone (still cloned)
  | toOriginal cloned => exact .toOriginal (still cloned)
  | toChild born => exact .toChild (still born)

theorem Covers.append {made : List Making} {source target : Nat}
    (covers : Covers made source target) (more : List Making) :
    Covers (made ++ more) source target :=
  Relation.ReflTransGen.mono (fun _ _ passes => Passes.append passes more) _ _ covers

/-! ## The lineage of a token -/

namespace TokenForest

/-- The node of an index. -/
def node? : List TokenNode → Nat → Option TokenNode
  | [], _ => none
  | node :: older, index => if index = older.length then some node else node? older index

/-- Parents are older than their children. -/
def Rooted (nodes : List TokenNode) : Prop :=
  ∀ index node parent, node? nodes index = some node → node.parent = some parent → parent < index

theorem lt_of_node? {nodes : List TokenNode} {index : Nat} {node : TokenNode}
    (found : node? nodes index = some node) : index < nodes.length := by
  induction nodes with
  | nil => cases found
  | cons first older ih =>
      by_cases last : index = older.length
      · simp [last]
      · rw [node?, if_neg last] at found
        exact Nat.lt_succ_of_lt (ih found)

theorem exists_node? {nodes : List TokenNode} {index : Nat} (within : index < nodes.length) :
    ∃ node, node? nodes index = some node := by
  induction nodes with
  | nil => simp at within
  | cons first older ih =>
      by_cases last : index = older.length
      · exact ⟨first, by rw [node?, if_pos last]⟩
      · obtain ⟨node, found⟩ := ih (by simp at within; omega)
        exact ⟨node, by rw [node?, if_neg last, found]⟩

theorem node?_cons_of_lt (node : TokenNode) {older : List TokenNode} {index : Nat}
    (within : index < older.length) : node? (node :: older) index = node? older index := by
  rw [node?, if_neg (by omega)]

theorem lineage_cons_of_lt (node : TokenNode) {older : List TokenNode} {index : Nat}
    (within : index < older.length) : lineage (node :: older) index = lineage older index := by
  rw [lineage, if_neg (by omega)]

theorem Rooted.older {node : TokenNode} {older : List TokenNode} (rooted : Rooted (node :: older)) :
    Rooted older := by
  intro index found parent held
  exact rooted index found parent ((node?_cons_of_lt node (lt_of_node? held)).trans held)

/-- The lineage of a token is its own level, and then the lineage of its parent. -/
theorem lineage_eq {nodes : List TokenNode} (rooted : Rooted nodes) {index : Nat} {node : TokenNode}
    (found : node? nodes index = some node) :
    lineage nodes index = node.cancels :: match node.parent with
      | some parent => lineage nodes parent
      | none => [] := by
  induction nodes with
  | nil => cases found
  | cons first older ih =>
      have older_parent (parent : Nat) (has : node.parent = some parent)
          (within : index ≤ older.length) :
          lineage (first :: older) parent = lineage older parent :=
        lineage_cons_of_lt first (by have := rooted index node parent found has; omega)
      by_cases last : index = older.length
      · rw [node?, if_pos last] at found
        cases found
        rw [lineage, if_pos last]
        cases has : node.parent with
        | none => rfl
        | some parent => simp only [older_parent parent has (Nat.le_of_eq last)]
      · rw [node?, if_neg last] at found
        have within := lt_of_node? found
        rw [lineage_cons_of_lt first within, ih rooted.older found]
        cases has : node.parent with
        | none => rfl
        | some parent =>
            have below : parent < index :=
              rooted index node parent ((node?_cons_of_lt first within).trans found) has
            simp only [lineage_cons_of_lt first (Nat.lt_trans below within)]

/-- Something in a lineage was cancelled. -/
def struck (levels : List Nat) : Bool := levels.any fun cancels => cancels != 0

theorem struck_lineage_iff {nodes : List TokenNode} (rooted : Rooted nodes) {index : Nat}
    {node : TokenNode} (found : node? nodes index = some node) :
    struck (lineage nodes index) = true ↔ node.cancels ≠ 0 ∨
      ∃ parent, node.parent = some parent ∧ struck (lineage nodes parent) = true := by
  rw [lineage_eq rooted found]
  cases node.parent with
  | none => simp [struck]
  | some parent => simp [struck]

/-! ### Cancelling -/

@[simp] theorem length_cancelNode (nodes : List TokenNode) (index : Nat) :
    (cancelNode nodes index).length = nodes.length := by
  induction nodes with
  | nil => rfl
  | cons node older ih =>
      rw [cancelNode]
      split
      · rfl
      · simp [ih]

/-- A cancellation is counted at the node itself and nowhere else. -/
theorem node?_cancelNode (nodes : List TokenNode) (struck index : Nat) :
    node? (cancelNode nodes struck) index = (node? nodes index).map fun node =>
      if index = struck then { node with cancels := node.cancels + 1 } else node := by
  induction nodes with
  | nil => rfl
  | cons node older ih =>
      rw [cancelNode]
      by_cases here : struck = older.length
      · rw [if_pos here]
        by_cases last : index = older.length
        · simp [node?, last, here]
        · have elsewhere : index ≠ struck := fun same => last (same.trans here)
          simp [node?, last, elsewhere]
      · rw [if_neg here]
        by_cases last : index = older.length
        · simp [node?, last, Ne.symm here]
        · simp [node?, last, ih]

theorem Rooted.cancelNode {nodes : List TokenNode} (rooted : Rooted nodes) (struck : Nat) :
    Rooted (cancelNode nodes struck) := by
  intro index node parent found has
  rw [node?_cancelNode] at found
  obtain ⟨before, held, rfl⟩ := Option.map_eq_some_iff.mp found
  refine rooted index before parent held ?_
  split at has <;> exact has

/-- A cancellation changes no lineage but in its counts. -/
theorem length_lineage_cancelNode (nodes : List TokenNode) (struck index : Nat) :
    (lineage (cancelNode nodes struck) index).length = (lineage nodes index).length := by
  induction nodes generalizing index with
  | nil => rfl
  | cons node older ih =>
      rw [cancelNode]
      by_cases here : struck = older.length
      · rw [if_pos here]
        by_cases last : index = older.length
        · simp [lineage, last]
        · simp [lineage, last]
      · rw [if_neg here]
        by_cases last : index = older.length
        · cases has : node.parent with
          | none => simp [lineage, last, has]
          | some parent => simp [lineage, last, has, ih]
        · simp [lineage, last, ih]

end TokenForest

/-! ## What the forest tells of the acts -/

open TokenAct TokenForest

theorem getElem?_concat_iff {α : Type} {list : List α} {last value : α} {index : Nat} :
    (list ++ [last])[index]? = some value ↔
      list[index]? = some value ∨ index = list.length ∧ last = value := by
  rcases Nat.lt_trichotomy index list.length with within | rfl | beyond
  · simp [List.getElem?_append_left within, Nat.ne_of_lt within]
  · simp
  · have past : (list ++ [last])[index]? = none := by
      rw [List.getElem?_eq_none_iff, List.length_append]
      exact beyond
    simp [past, Nat.le_of_lt beyond, Nat.ne_of_gt beyond]

theorem TokenAct.concerns_mono {act : TokenAct} {tokens tokens' waiters waiters' : Nat}
    (concerns : act.concerns tokens waiters = true) (moreTokens : tokens ≤ tokens')
    (moreWaiters : waiters ≤ waiters') : act.concerns tokens' waiters' = true := by
  cases act with
  | make making =>
      cases making with
      | new => rfl
      | child | clone =>
          exact decide_eq_true (Nat.lt_of_lt_of_le (of_decide_eq_true concerns) moreTokens)
  | cancel | wait =>
      exact decide_eq_true (Nat.lt_of_lt_of_le (of_decide_eq_true concerns) moreTokens)
  | poll => exact decide_eq_true (Nat.lt_of_lt_of_le (of_decide_eq_true concerns) moreWaiters)

/-- What an act was about is still there. -/
theorem concerns_of_mem {acts : List TokenAct} (sound : sound acts = true) {act : TokenAct}
    (member : act ∈ acts) : act.concerns (made acts).length (awaited acts).length = true := by
  induction acts with
  | nil => cases member
  | cons last earlier ih =>
      have tokens : (made earlier).length ≤ (made (last :: earlier)).length := by
        cases last <;> simp [made]
      have waiters : (awaited earlier).length ≤ (awaited (last :: earlier)).length := by
        cases last <;> simp [awaited]
      simp only [TokenAct.sound, Bool.and_eq_true] at sound
      obtain ⟨concerns, sound⟩ := sound
      rcases List.mem_cons.mp member with rfl | before
      · exact TokenAct.concerns_mono concerns tokens waiters
      · exact TokenAct.concerns_mono (ih sound before) tokens waiters

theorem lt_of_cancelled {acts : List TokenAct} (sound : sound acts = true) {token : Nat}
    (cancelled : .cancel token ∈ acts) : token < (made acts).length :=
  of_decide_eq_true (concerns_of_mem sound cancelled)

/-- The forest is as the acts have made it: which numbers share a token, whose child it is, and
whether it was cancelled. -/
structure Stands (acts : List TokenAct) (forest : TokenForest) : Prop where
  numbered : forest.handles.length = (made acts).length
  rooted : Rooted forest.nodes
  within : ∀ (token index : Nat), forest.handles[token]? = some index →
    index < forest.nodes.length
  shared : ∀ (token other index : Nat), forest.handles[token]? = some index →
    forest.handles[other]? = some index → Covers (made acts) token other
  cloned : ∀ (clone original : Nat), (made acts)[clone]? = some (.clone original) →
    ∃ index, forest.handles[clone]? = some index ∧ forest.handles[original]? = some index
  born : ∀ (child parent : Nat), (made acts)[child]? = some (.child parent) → ∃ index node above,
    forest.handles[child]? = some index ∧ node? forest.nodes index = some node ∧
      node.parent = some above ∧ forest.handles[parent]? = some above
  descends : ∀ index node above, node? forest.nodes index = some node → node.parent = some above →
    ∃ child parent : Nat, (made acts)[child]? = some (.child parent) ∧
      forest.handles[child]? = some index ∧ forest.handles[parent]? = some above
  cancelled : ∀ index node, node? forest.nodes index = some node →
    (node.cancels ≠ 0 ↔
      ∃ token : Nat, .cancel token ∈ acts ∧ forest.handles[token]? = some index)

namespace Stands

variable {acts : List TokenAct} {forest : TokenForest}

theorem exists_index (stands : Stands acts forest) {token : Nat}
    (there : token < (made acts).length) : ∃ index, forest.handles[token]? = some index :=
  ⟨_, List.getElem?_eq_getElem (stands.numbered ▸ there)⟩

theorem indexOf_eq {token index : Nat} (held : forest.handles[token]? = some index) :
    forest.indexOf token = index := by
  rw [indexOf, List.getD_eq_getElem?_getD, held]
  rfl

theorem empty : Stands [] .empty where
  numbered := rfl
  rooted := fun _ _ _ found => by cases found
  within := fun _ _ held => by cases held
  shared := fun _ _ _ held => by cases held
  cloned := fun _ _ held => by cases held
  born := fun _ _ held => by cases held
  descends := fun _ _ _ found => by cases found
  cancelled := fun _ _ found => by cases found

/-- Making waiters and polling them changes no token. -/
theorem of_waiters (stands : Stands acts forest) {act : TokenAct}
    (makes : made (act :: acts) = made acts) (spares : ∀ token, act ≠ .cancel token)
    (waiters : List Waiter) : Stands (act :: acts) { forest with waiters := waiters } where
  numbered := by rw [makes]; exact stands.numbered
  rooted := stands.rooted
  within := stands.within
  shared := by rw [makes]; exact stands.shared
  cloned := by rw [makes]; exact stands.cloned
  born := by rw [makes]; exact stands.born
  descends := by rw [makes]; exact stands.descends
  cancelled := by
    intro index node found
    have unsaid (token : Nat) : TokenAct.cancel token ≠ act := (spares token).symm
    simpa [List.mem_cons, unsaid] using stands.cancelled index node found

/-- What is known of the numbers so far stays true with one more. -/
theorem cancelled_concat (stands : Stands acts forest) (sound : sound acts = true)
    (making : Making) (last index : Nat) :
    (∃ token, .cancel token ∈ TokenAct.make making :: acts ∧
        (forest.handles ++ [last])[token]? = some index) ↔
      ∃ token, .cancel token ∈ acts ∧ forest.handles[token]? = some index := by
  constructor
  · rintro ⟨token, said, held⟩
    have earlier : .cancel token ∈ acts := by simpa using said
    have there := lt_of_cancelled sound earlier
    rcases getElem?_concat_iff.mp held with held | ⟨fresh, -⟩
    · exact ⟨token, earlier, held⟩
    · rw [fresh, stands.numbered] at there
      exact absurd there (Nat.lt_irrefl _)
  · rintro ⟨token, said, held⟩
    exact ⟨token, List.mem_cons_of_mem _ said, getElem?_concat_iff.mpr (.inl held)⟩

/-- A token of its own, or the child of another, is added. -/
theorem add (stands : Stands acts forest) (sound : sound acts = true) {making : Making}
    {above : Option Nat}
    (fits : making = .new ∧ above = none ∨ ∃ parent index, making = .child parent ∧
      above = some index ∧ forest.handles[parent]? = some index) :
    Stands (.make making :: acts) (forest.add above).2 where
  numbered := by simp [TokenForest.add, made, stands.numbered]
  rooted := by
    intro index node parent found has
    simp only [TokenForest.add, node?] at found
    split at found
    · rename_i last
      cases found
      rcases fits with ⟨-, none⟩ | ⟨parent', above', -, some, held⟩
      · cases none.symm.trans has
      · cases some.symm.trans has
        have := stands.within _ _ held
        omega
    · exact stands.rooted index node parent found has
  within := by
    intro token index held
    rcases getElem?_concat_iff.mp held with held | ⟨-, rfl⟩
    · have := stands.within token index held
      simp only [TokenForest.add, List.length_cons]
      omega
    · simp [TokenForest.add]
  shared := by
    intro token other index held held'
    rcases getElem?_concat_iff.mp held with held | ⟨rfl, rfl⟩
    · rcases getElem?_concat_iff.mp held' with held' | ⟨-, rfl⟩
      · exact (stands.shared token other index held held').append _
      · exact absurd (stands.within _ _ held) (Nat.lt_irrefl _)
    · rcases getElem?_concat_iff.mp held' with held' | ⟨rfl, -⟩
      · exact absurd (stands.within _ _ held') (Nat.lt_irrefl _)
      · exact .refl
  cloned := by
    intro clone original held
    rcases getElem?_concat_iff.mp held with held | ⟨-, same⟩
    · obtain ⟨index, cloned, originated⟩ := stands.cloned clone original held
      exact ⟨index, getElem?_concat_iff.mpr (.inl cloned),
        getElem?_concat_iff.mpr (.inl originated)⟩
    · rcases fits with ⟨rfl, -⟩ | ⟨parent, index, rfl, -⟩ <;> cases same
  born := by
    intro child parent held
    rcases getElem?_concat_iff.mp held with held | ⟨rfl, same⟩
    · obtain ⟨index, node, above', childed, found, has, parented⟩ := stands.born child parent held
      refine ⟨index, node, above', getElem?_concat_iff.mpr (.inl childed), ?_, has,
        getElem?_concat_iff.mpr (.inl parented)⟩
      exact (node?_cons_of_lt _ (lt_of_node? found)).trans found
    · rcases fits with ⟨rfl, -⟩ | ⟨parent', index, rfl, rfl, parented⟩
      · cases same
      · cases same
        refine ⟨forest.nodes.length, ⟨some index, 0⟩, index, ?_, ?_, rfl,
          getElem?_concat_iff.mpr (.inl parented)⟩
        · exact getElem?_concat_iff.mpr (.inr ⟨stands.numbered.symm, rfl⟩)
        · simp [TokenForest.add, node?]
  descends := by
    intro index node above' found has
    simp only [TokenForest.add, node?] at found
    split at found
    · rename_i last
      cases found
      rcases fits with ⟨-, none⟩ | ⟨parent, index', rfl, some, parented⟩
      · cases none.symm.trans has
      · cases some.symm.trans has
        refine ⟨(made acts).length, parent, getElem?_concat_iff.mpr (.inr ⟨rfl, rfl⟩), ?_,
          getElem?_concat_iff.mpr (.inl parented)⟩
        exact getElem?_concat_iff.mpr (.inr ⟨stands.numbered.symm, last.symm⟩)
    · obtain ⟨child, parent, held, childed, parented⟩ := stands.descends index node above' found has
      exact ⟨child, parent, getElem?_concat_iff.mpr (.inl held),
        getElem?_concat_iff.mpr (.inl childed), getElem?_concat_iff.mpr (.inl parented)⟩
  cancelled := by
    intro index node found
    refine Iff.trans ?_ (stands.cancelled_concat sound making forest.nodes.length index).symm
    simp only [TokenForest.add, node?] at found
    split at found
    · rename_i last
      cases found
      simp only [ne_eq, not_true_eq_false, false_iff]
      rintro ⟨token, -, held⟩
      exact absurd (stands.within token index held) (by omega)
    · exact stands.cancelled index node found

/-- A token gets another number. -/
theorem clone (stands : Stands acts forest) (sound : sound acts = true) {original index : Nat}
    (held : forest.handles[original]? = some index) :
    Stands (.make (.clone original) :: acts)
      { forest with handles := forest.handles ++ [index] } where
  numbered := by simp [made, stands.numbered]
  rooted := stands.rooted
  within := by
    intro token index' among
    rcases getElem?_concat_iff.mp among with among | ⟨-, rfl⟩
    · exact stands.within token index' among
    · exact stands.within original index held
  shared := by
    have named : (made (.make (.clone original) :: acts))[forest.handles.length]? =
        some (.clone original) := getElem?_concat_iff.mpr (.inr ⟨stands.numbered, rfl⟩)
    intro token other index' among among'
    rcases getElem?_concat_iff.mp among with among | ⟨rfl, rfl⟩
    · rcases getElem?_concat_iff.mp among' with among' | ⟨rfl, rfl⟩
      · exact (stands.shared token other index' among among').append _
      · exact ((stands.shared token original index among held).append _).tail (.toClone named)
    · rcases getElem?_concat_iff.mp among' with among' | ⟨rfl, -⟩
      · exact .head (.toOriginal named) ((stands.shared original other index held among').append _)
      · exact .refl
  cloned := by
    intro clone original' among
    rcases getElem?_concat_iff.mp among with among | ⟨rfl, same⟩
    · obtain ⟨index', cloned, originated⟩ := stands.cloned clone original' among
      exact ⟨index', getElem?_concat_iff.mpr (.inl cloned),
        getElem?_concat_iff.mpr (.inl originated)⟩
    · cases same
      exact ⟨index, getElem?_concat_iff.mpr (.inr ⟨stands.numbered.symm, rfl⟩),
        getElem?_concat_iff.mpr (.inl held)⟩
  born := by
    intro child parent among
    rcases getElem?_concat_iff.mp among with among | ⟨-, same⟩
    · obtain ⟨index', node, above, childed, found, has, parented⟩ := stands.born child parent among
      exact ⟨index', node, above, getElem?_concat_iff.mpr (.inl childed), found, has,
        getElem?_concat_iff.mpr (.inl parented)⟩
    · cases same
  descends := by
    intro index' node above found has
    obtain ⟨child, parent, among, childed, parented⟩ :=
      stands.descends index' node above found has
    exact ⟨child, parent, getElem?_concat_iff.mpr (.inl among),
      getElem?_concat_iff.mpr (.inl childed), getElem?_concat_iff.mpr (.inl parented)⟩
  cancelled := fun index' node found =>
    (stands.cancelled index' node found).trans
      (stands.cancelled_concat sound (.clone original) index index').symm

/-- A token is cancelled. -/
theorem cancel (stands : Stands acts forest) {token index : Nat}
    (held : forest.handles[token]? = some index) :
    Stands (.cancel token :: acts)
      { forest with nodes := cancelNode forest.nodes index } where
  numbered := stands.numbered
  rooted := stands.rooted.cancelNode index
  within := by
    intro other index' among
    rw [length_cancelNode]
    exact stands.within other index' among
  shared := stands.shared
  cloned := stands.cloned
  born := by
    intro child parent among
    obtain ⟨index', node, above, childed, found, has, parented⟩ := stands.born child parent among
    have counted : node? (cancelNode forest.nodes index) index' = some
        (if index' = index then { node with cancels := node.cancels + 1 } else node) := by
      rw [node?_cancelNode, found]
      rfl
    refine ⟨index', _, above, childed, counted, ?_, parented⟩
    split <;> exact has
  descends := by
    intro index' node above found has
    rw [node?_cancelNode] at found
    obtain ⟨before, uncounted, rfl⟩ := Option.map_eq_some_iff.mp found
    refine stands.descends index' before above uncounted ?_
    split at has <;> exact has
  cancelled := by
    intro index' node found
    rw [node?_cancelNode] at found
    obtain ⟨before, uncounted, rfl⟩ := Option.map_eq_some_iff.mp found
    have known := stands.cancelled index' before uncounted
    by_cases here : index' = index
    · subst here
      simp only [if_true]
      exact ⟨fun _ => ⟨token, List.mem_cons_self, held⟩, fun _ => Nat.succ_ne_zero _⟩
    · rw [if_neg here, known]
      constructor
      · rintro ⟨other, said, among⟩
        exact ⟨other, List.mem_cons_of_mem _ said, among⟩
      · rintro ⟨other, said, among⟩
        rcases List.mem_cons.mp said with same | said
        · cases same
          exact absurd (Option.some.inj (among.symm.trans held)) here
        · exact ⟨other, said, among⟩

end Stands

theorem stands_after {acts : List TokenAct} (sound : sound acts = true) :
    Stands acts (after acts) := by
  induction acts with
  | nil => exact .empty
  | cons act earlier ih =>
      simp only [TokenAct.sound, Bool.and_eq_true] at sound
      obtain ⟨concerns, sound⟩ := sound
      have stands := ih sound
      have there {token : Nat} (fits : token < (made earlier).length) :
          (after earlier).handles[token]? = some ((after earlier).indexOf token) := by
        obtain ⟨index, held⟩ := stands.exists_index fits
        rw [held, Stands.indexOf_eq held]
      cases act with
      | make making =>
          cases making with
          | new => exact stands.add sound (.inl ⟨rfl, rfl⟩)
          | child parent =>
              exact stands.add sound
                (.inr ⟨parent, _, rfl, rfl, there (of_decide_eq_true concerns)⟩)
          | clone original => exact stands.clone sound (there (of_decide_eq_true concerns))
      | cancel token => exact stands.cancel (there (of_decide_eq_true concerns))
      | wait token => exact stands.of_waiters rfl (fun _ same => by cases same) _
      | poll order waiter =>
          simp only [after, perform, pollIn]
          split
          · exact stands.of_waiters rfl (fun _ same => by cases same) _
          · exact stands.of_waiters rfl (fun _ same => by cases same) _

/-- What is known of the numbers so far is what is known of them later. -/
theorem exists_made_append (later acts : List TokenAct) :
    ∃ more, made (later ++ acts) = made acts ++ more := by
  induction later with
  | nil => exact ⟨[], (List.append_nil _).symm⟩
  | cons act rest ih =>
      obtain ⟨more, ih⟩ := ih
      cases act with
      | make making => exact ⟨more ++ [making], by simp [made, ih]⟩
      | cancel | wait | poll => exact ⟨more, ih⟩

namespace Stands

variable {acts : List TokenAct} {forest : TokenForest}

theorem struck_of_covers (stands : Stands acts forest) {cancelled token : Nat}
    (said : .cancel cancelled ∈ acts) (there : cancelled < (made acts).length)
    (covers : Covers (made acts) cancelled token) :
    ∃ index, forest.handles[token]? = some index ∧
      struck (lineage forest.nodes index) = true := by
  induction covers with
  | refl =>
      obtain ⟨index, held⟩ := stands.exists_index there
      obtain ⟨node, found⟩ := exists_node? (stands.within _ _ held)
      refine ⟨index, held, (struck_lineage_iff stands.rooted found).mpr (.inl ?_)⟩
      exact (stands.cancelled index node found).mpr ⟨cancelled, said, held⟩
  | tail _ passes ih =>
      obtain ⟨index, held, struck⟩ := ih
      cases passes with
      | toClone named =>
          obtain ⟨same, cloned, originated⟩ := stands.cloned _ _ named
          cases originated.symm.trans held
          exact ⟨_, cloned, struck⟩
      | toOriginal named =>
          obtain ⟨same, cloned, originated⟩ := stands.cloned _ _ named
          cases cloned.symm.trans held
          exact ⟨_, originated, struck⟩
      | toChild named =>
          obtain ⟨below, node, above, childed, found, has, parented⟩ := stands.born _ _ named
          cases parented.symm.trans held
          exact ⟨below, childed, (struck_lineage_iff stands.rooted found).mpr
            (.inr ⟨_, has, struck⟩)⟩

/-- Up the lineage of a token there is one that was cancelled, and the cancellation is passed on
from it down to the token. -/
theorem exists_covers (stands : Stands acts forest) {index : Nat}
    (struck : struck (lineage forest.nodes index) = true) {token : Nat}
    (held : forest.handles[token]? = some index) :
    ∃ cancelled, .cancel cancelled ∈ acts ∧ Covers (made acts) cancelled token := by
  induction index using Nat.strongRecOn generalizing token with
  | ind index ih =>
      obtain ⟨node, found⟩ := exists_node? (stands.within _ _ held)
      rcases (struck_lineage_iff stands.rooted found).mp struck with own | ⟨above, has, struck⟩
      · obtain ⟨cancelled, said, same⟩ := (stands.cancelled index node found).mp own
        exact ⟨cancelled, said, stands.shared cancelled token index same held⟩
      · obtain ⟨child, parent, named, childed, parented⟩ :=
          stands.descends index node above found has
        obtain ⟨cancelled, said, covers⟩ :=
          ih above (stands.rooted index node above found has) struck parented
        exact ⟨cancelled, said,
          (covers.tail (.toChild named)).trans (stands.shared child token index childed held)⟩

end Stands

theorem isCancelled_iff {acts : List TokenAct} (sound : sound acts = true) {token : Nat}
    (there : token < (made acts).length) : (after acts).isCancelled token = true ↔
      ∃ cancelled, .cancel cancelled ∈ acts ∧ Covers (made acts) cancelled token := by
  have stands := stands_after sound
  obtain ⟨index, held⟩ := stands.exists_index there
  rw [isCancelled, Stands.indexOf_eq held]
  constructor
  · intro struck
    exact stands.exists_covers struck held
  · rintro ⟨cancelled, said, covers⟩
    obtain ⟨same, among, struck⟩ :=
      stands.struck_of_covers said (lt_of_cancelled sound said) covers
    cases among.symm.trans held
    exact struck

/-- What is no cancellation changes nothing of a token that is there. -/
theorem isCancelled_perform_of_ne {acts : List TokenAct} (sound : sound acts = true)
    {act : TokenAct} (spares : ∀ token, act ≠ .cancel token) {token : Nat}
    (there : token < (made acts).length) :
    (after (act :: acts)).isCancelled token = (after acts).isCancelled token := by
  have stands := stands_after sound
  obtain ⟨index, held⟩ := stands.exists_index there
  have within := stands.within token index held
  -- whatever is added is newer, and so it is in no lineage that is there
  have of_append (nodes : List TokenNode) (more : List Nat) (waiters : List Waiter)
      (same : lineage nodes index = lineage (after acts).nodes index) :
      TokenForest.isCancelled ⟨nodes, (after acts).handles ++ more, waiters⟩ token =
        (after acts).isCancelled token := by
    let forest : TokenForest := ⟨nodes, (after acts).handles ++ more, waiters⟩
    have still : forest.handles[token]? = some index :=
      (List.getElem?_append_left (List.getElem?_eq_some_iff.mp held).1).trans held
    change forest.isCancelled token = _
    simp only [isCancelled, cancelledAt, Stands.indexOf_eq held, Stands.indexOf_eq still]
    rw [same]
  cases act with
  | make making =>
      cases making with
      | new | child => exact of_append _ _ _ (lineage_cons_of_lt _ within)
      | clone => exact of_append _ _ _ rfl
  | cancel token => exact absurd rfl (spares token)
  | wait => rfl
  | poll order waiter =>
      simp only [after, perform, pollIn]
      split <;> rfl

/-! ## Waiters -/

namespace TokenForest

/-- A waiter has to wait just if nothing is struck, and then it registers everywhere. -/
theorem enter_eq (levels : List Nat) :
    enter levels = if struck levels then none else some (List.replicate levels.length 0) := by
  induction levels with
  | nil => rfl
  | cons cancels above ih =>
      by_cases own : cancels = 0
      · subst own
        cases higher : struck above with
        | true => simp_all [enter, struck]
        | false =>
            rw [higher] at ih
            simp_all [enter, struck, List.replicate_succ]
      · simp [enter, struck, own]

/-- Looking again comes to the same in whichever order the levels are looked at. -/
theorem resume_eq (order : List Bool) (levels : List Nat) :
    resume order levels (List.replicate levels.length 0) =
      if struck levels then none else some (List.replicate levels.length 0) := by
  induction levels generalizing order with
  | nil => simp [resume, struck]
  | cons cancels above ih =>
      have split : struck (cancels :: above) = (cancels != 0 || struck above) := rfl
      simp only [List.length_cons, List.replicate_succ, resume, ih, enter_eq, split]
      cases order.headD true <;> cases own : (cancels != 0) <;> cases struck above <;> simp

/-- A waiter that has not been ready is ready just if its token is cancelled, and waits otherwise,
registered everywhere before anything was cancelled. -/
theorem pollWaiter_eq (forest : TokenForest) (order : List Bool) (waiter : Waiter)
    (waits : waiter.stage ≠ .finished)
    (unstruck : ∀ seen, waiter.stage = .registered seen →
      seen = List.replicate (lineage forest.nodes waiter.index).length 0) :
    let unstruck := List.replicate (lineage forest.nodes waiter.index).length 0
    forest.pollWaiter order waiter =
      if forest.cancelledAt waiter.index then (.ready, { waiter with stage := .finished })
      else (.pending, { waiter with stage := .registered unstruck }) := by
  have same : forest.cancelledAt waiter.index = struck (lineage forest.nodes waiter.index) := rfl
  unfold pollWaiter
  cases stage : waiter.stage with
  | finished => exact absurd stage waits
  | created =>
      simp only [enter_eq, same]
      cases struck (lineage forest.nodes waiter.index) <;> rfl
  | registered seen =>
      rw [unstruck seen stage]
      simp only [resume_eq, same]
      cases struck (lineage forest.nodes waiter.index) <;> rfl

end TokenForest

/-- What polling a waiter shows after some acts. -/
def TokenAct.shows (acts : List TokenAct) (order : List Bool) (waiter : Nat) : Poll :=
  ((after acts).pollIn order waiter).1

/-- A poll has shown that a waiter is ready. -/
def TokenAct.released (acts : List TokenAct) (waiter : Nat) : Prop :=
  ∃ order earlier, .poll order waiter :: earlier <:+ acts ∧ shows earlier order waiter = .ready

section

variable {acts : List TokenAct} {number : Nat}

theorem released_cons (act : TokenAct) : released (act :: acts) number ↔
    (∃ order, act = .poll order number ∧ shows acts order number = .ready) ∨
      released acts number := by
  constructor
  · rintro ⟨order, earlier, suffix, ready⟩
    rcases List.suffix_cons_iff.mp suffix with same | before
    · injection same with same rest
      subst rest
      exact .inl ⟨order, same.symm, ready⟩
    · exact .inr ⟨order, earlier, before, ready⟩
  · rintro (⟨order, rfl, ready⟩ | ⟨order, earlier, suffix, ready⟩)
    · exact ⟨order, acts, List.suffix_rfl, ready⟩
    · exact ⟨order, earlier, suffix.trans (List.suffix_cons _ _), ready⟩

/-- What is no poll lets nobody go. -/
theorem released_cons_of_ne {act : TokenAct} (other : ∀ order, act ≠ .poll order number) :
    released (act :: acts) number ↔ released acts number := by
  rw [released_cons, or_iff_right]
  rintro ⟨order, same, -⟩
  exact other order same

theorem lt_of_released (sound : sound acts = true) (gone : released acts number) :
    number < (awaited acts).length := by
  obtain ⟨order, earlier, suffix, -⟩ := gone
  exact of_decide_eq_true (concerns_of_mem sound (suffix.subset List.mem_cons_self))

end

/-- The waiters are as the acts have made them: what each waits for, that those who wait have
registered before anything was cancelled, and who was ready. -/
structure Attends (acts : List TokenAct) (forest : TokenForest) : Prop where
  numbered : forest.waiters.length = (awaited acts).length
  indexed : ∀ (number token : Nat) (waiter : Waiter), forest.waiters[number]? = some waiter →
    (awaited acts)[number]? = some token → forest.handles[token]? = some waiter.index
  within : ∀ waiter ∈ forest.waiters, waiter.index < forest.nodes.length
  unstruck : ∀ waiter ∈ forest.waiters, ∀ seen, waiter.stage = .registered seen →
    seen = List.replicate (lineage forest.nodes waiter.index).length 0
  gone : ∀ (number : Nat) (waiter : Waiter), forest.waiters[number]? = some waiter →
    (waiter.stage = .finished ↔ released acts number)

namespace Attends

variable {acts : List TokenAct} {forest : TokenForest}

/-- What is done with tokens changes no waiter, and no lineage but in its counts. -/
theorem of_tokens (attends : Attends acts forest) {act : TokenAct} {nodes : List TokenNode}
    {more : List Nat} (waits : awaited (act :: acts) = awaited acts)
    (other : ∀ order number, act ≠ .poll order number)
    (longer : forest.nodes.length ≤ nodes.length)
    (lineages : ∀ index < forest.nodes.length,
      (lineage nodes index).length = (lineage forest.nodes index).length) :
    Attends (act :: acts)
      { forest with nodes := nodes, handles := forest.handles ++ more } where
  numbered := by rw [waits]; exact attends.numbered
  indexed := by
    intro number token waiter found held
    rw [waits] at held
    have indexed := attends.indexed number token waiter found held
    exact (List.getElem?_append_left (List.getElem?_eq_some_iff.mp indexed).1).trans indexed
  within := fun waiter member => Nat.lt_of_lt_of_le (attends.within waiter member) longer
  unstruck := by
    intro waiter member seen registered
    rw [lineages _ (attends.within waiter member)]
    exact attends.unstruck waiter member seen registered
  gone := by
    intro number waiter found
    rw [released_cons_of_ne fun order => other order number]
    exact attends.gone number waiter found

/-- A waiter is made. -/
theorem wait (attends : Attends acts forest) (sound : sound acts = true) {token index : Nat}
    (held : forest.handles[token]? = some index) (within : index < forest.nodes.length) :
    Attends (.wait token :: acts)
      { forest with waiters := forest.waiters ++ [⟨index, .created⟩] } where
  numbered := by simp [awaited, attends.numbered]
  indexed := by
    intro number other waiter found among
    rcases getElem?_concat_iff.mp found with found | ⟨rfl, rfl⟩
    · have there := (List.getElem?_eq_some_iff.mp found).1
      rw [attends.numbered] at there
      rw [awaited, List.getElem?_append_left there] at among
      exact attends.indexed number other waiter found among
    · rw [awaited, attends.numbered, List.getElem?_concat_length] at among
      cases among
      exact held
  within := by
    intro waiter member
    rcases List.mem_append.mp member with member | last
    · exact attends.within waiter member
    · cases List.mem_singleton.mp last
      exact within
  unstruck := by
    intro waiter member seen registered
    rcases List.mem_append.mp member with member | last
    · exact attends.unstruck waiter member seen registered
    · cases List.mem_singleton.mp last
      cases registered
  gone := by
    intro number waiter found
    rw [released_cons_of_ne fun order same => by cases same]
    rcases getElem?_concat_iff.mp found with found | ⟨rfl, rfl⟩
    · exact attends.gone number waiter found
    · refine iff_of_false (fun same => by cases same) fun gone => ?_
      exact absurd (lt_of_released sound gone) (by rw [attends.numbered]; exact Nat.lt_irrefl _)

/-- What polling a waiter shows, by what has been done before. -/
theorem poll_eq (attends : Attends acts forest) {number : Nat} {waiter : Waiter}
    (found : forest.waiters[number]? = some waiter) (order : List Bool) :
    let unstruck := List.replicate (lineage forest.nodes waiter.index).length 0
    (released acts number → forest.pollWaiter order waiter = (.finished, waiter)) ∧
      (¬released acts number → forest.pollWaiter order waiter =
        if forest.cancelledAt waiter.index then (.ready, { waiter with stage := .finished })
        else (.pending, { waiter with stage := .registered unstruck })) := by
  have gone := attends.gone number waiter found
  constructor
  · intro released
    simp [pollWaiter, gone.mpr released]
  · intro waits
    exact pollWaiter_eq forest order waiter (fun finished => waits (gone.mp finished))
      (attends.unstruck waiter (List.mem_of_getElem? found))

/-- A waiter comes to another stage. -/
theorem set (attends : Attends acts forest) {number : Nat} {waiter : Waiter}
    (found : forest.waiters[number]? = some waiter) (order : List Bool) (stage : WaiterStage)
    (unstruck : ∀ seen, stage = .registered seen →
      seen = List.replicate (lineage forest.nodes waiter.index).length 0)
    (gone : stage = .finished ↔ released (.poll order number :: acts) number) :
    Attends (.poll order number :: acts)
      { forest with waiters := forest.waiters.set number { waiter with stage := stage } } where
  numbered := by simpa [awaited] using attends.numbered
  indexed := by
    intro other token waiter' among held
    by_cases same : number = other
    · subst same
      have there := (List.getElem?_eq_some_iff.mp found).1
      rw [List.getElem?_set_self there] at among
      cases among
      exact attends.indexed number token waiter found held
    · rw [List.getElem?_set_ne same] at among
      exact attends.indexed other token waiter' among held
  within := by
    intro waiter' member
    rcases List.mem_or_eq_of_mem_set member with member | rfl
    · exact attends.within waiter' member
    · exact attends.within waiter (List.mem_of_getElem? found)
  unstruck := by
    intro waiter' member seen registered
    rcases List.mem_or_eq_of_mem_set member with member | rfl
    · exact attends.unstruck waiter' member seen registered
    · exact unstruck seen registered
  gone := by
    intro other waiter' among
    by_cases same : number = other
    · subst same
      have there := (List.getElem?_eq_some_iff.mp found).1
      rw [List.getElem?_set_self there] at among
      cases among
      exact gone
    · rw [List.getElem?_set_ne same] at among
      rw [released_cons_of_ne fun order equal => by cases equal; exact same rfl]
      exact attends.gone other waiter' among

/-- A waiter is polled. -/
theorem poll (attends : Attends acts (after acts)) (order : List Bool) (number : Nat) :
    Attends (.poll order number :: acts) ((after acts).pollIn order number).2 := by
  have next : released (.poll order number :: acts) number ↔
      shows acts order number = .ready ∨ released acts number := by
    rw [released_cons]
    refine or_congr_left ⟨?_, fun ready => ⟨order, rfl, ready⟩⟩
    rintro ⟨_, same, ready⟩
    cases same
    exact ready
  unfold shows pollIn at next
  unfold pollIn
  cases found : (after acts).waiters[number]? with
  | none =>
      refine ⟨attends.numbered, attends.indexed, attends.within, attends.unstruck, ?_⟩
      intro other waiter among
      rw [released_cons_of_ne fun order same => by cases same; rw [found] at among; cases among]
      exact attends.gone other waiter among
  | some waiter =>
      have member := List.mem_of_getElem? found
      obtain ⟨woken, waits⟩ := attends.poll_eq found order
      by_cases gone : released acts number
      · simp only [found, woken gone, gone, or_true, iff_true] at next ⊢
        exact attends.set found order waiter.stage (attends.unstruck waiter member)
          (iff_of_true ((attends.gone number waiter found).mpr gone) next)
      · cases struck : (after acts).cancelledAt waiter.index with
        | true =>
            simp only [found, waits gone, struck, if_true, true_or, iff_true] at next ⊢
            exact attends.set found order .finished (fun _ same => by cases same)
              (iff_of_true rfl next)
        | false =>
            simp only [found, waits gone, struck, Bool.false_eq_true, if_false, reduceCtorEq,
              false_or, gone, iff_false] at next ⊢
            refine attends.set found order _ (fun seen same => ?_)
              (iff_of_false (fun same => by cases same) next)
            cases same
            rfl

end Attends

theorem attends_after {acts : List TokenAct} (sound : sound acts = true) :
    Attends acts (after acts) := by
  induction acts with
  | nil =>
      exact ⟨rfl, fun _ _ _ found => (by cases found), fun _ member => (by cases member),
        fun _ member => (by cases member), fun _ _ found => (by cases found)⟩
  | cons act earlier ih =>
      simp only [TokenAct.sound, Bool.and_eq_true] at sound
      obtain ⟨concerns, sound⟩ := sound
      have attends := ih sound
      have stands := stands_after sound
      cases act with
      | make making =>
          cases making with
          | new | child =>
              exact attends.of_tokens rfl (fun _ _ same => by cases same) (Nat.le_succ _)
                fun index within => by rw [lineage_cons_of_lt _ within]
          | clone original =>
              exact attends.of_tokens rfl (fun _ _ same => by cases same) (Nat.le_refl _)
                fun index within => rfl
      | cancel token =>
          have struck := length_cancelNode (after earlier).nodes ((after earlier).indexOf token)
          have cancelled : Attends (.cancel token :: earlier)
              ⟨_, (after earlier).handles ++ [], _⟩ :=
            attends.of_tokens rfl (fun _ _ same => by cases same) (Nat.le_of_eq struck.symm)
              fun index _ => length_lineage_cancelNode _ _ index
          rwa [List.append_nil] at cancelled
      | wait token =>
          obtain ⟨index, held⟩ := stands.exists_index (of_decide_eq_true concerns)
          have awaits := attends.wait sound held (stands.within token index held)
          rwa [← Stands.indexOf_eq held] at awaits
      | poll order number => exact attends.poll order number

/-! ## The tree -/

section

variable {acts : List TokenAct}

/-- A token that counts as cancelled does so ever after. -/
theorem isCancelled_append (sound : sound acts = true) {later : List TokenAct}
    (soundLater : TokenAct.sound (later ++ acts) = true) {token : Nat}
    (there : token < (made acts).length) (cancelled : (after acts).isCancelled token = true) :
    (after (later ++ acts)).isCancelled token = true := by
  obtain ⟨origin, said, covers⟩ := (isCancelled_iff sound there).mp cancelled
  obtain ⟨more, longer⟩ := exists_made_append later acts
  have still : token < (made (later ++ acts)).length := by
    rw [longer, List.length_append]
    omega
  refine (isCancelled_iff soundLater still).mpr ⟨origin, List.mem_append_right _ said, ?_⟩
  rw [longer]
  exact covers.append more

/-- Cancelling a token changes nothing of one that it is not passed on to. -/
theorem isCancelled_cancel_of_not_covers (sound : sound acts = true) {struck token : Nat}
    (known : struck < (made acts).length) (there : token < (made acts).length)
    (spared : ¬Covers (made acts) struck token) :
    (after (.cancel struck :: acts)).isCancelled token = (after acts).isCancelled token := by
  have soundNext : TokenAct.sound (.cancel struck :: acts) = true := by
    simp only [TokenAct.sound, TokenAct.concerns, known, decide_true, sound, Bool.and_self]
  have before := isCancelled_iff sound there
  have next := isCancelled_iff soundNext there
  refine Bool.eq_iff_iff.mpr (next.trans (Iff.trans ?_ before.symm))
  constructor
  · rintro ⟨origin, said, covers⟩
    rcases List.mem_cons.mp said with same | said
    · cases same
      exact absurd covers spared
    · exact ⟨origin, said, covers⟩
  · rintro ⟨origin, said, covers⟩
    exact ⟨origin, List.mem_cons_of_mem _ said, covers⟩

/-- If a token changes with an act, it was cancelled, or one that passes this on to it. -/
theorem covers_of_changed (sound : sound acts = true) {act : TokenAct}
    (concerns : act.concerns (made acts).length (awaited acts).length = true) {token : Nat}
    (there : token < (made acts).length)
    (changed : (after (act :: acts)).isCancelled token ≠ (after acts).isCancelled token) :
    ∃ cancelled, act = .cancel cancelled ∧ Covers (made acts) cancelled token := by
  by_cases strikes : ∃ struck, act = .cancel struck
  · obtain ⟨struck, rfl⟩ := strikes
    refine ⟨struck, rfl, Classical.byContradiction fun spared => changed ?_⟩
    exact isCancelled_cancel_of_not_covers sound (of_decide_eq_true concerns) there spared
  · have spares (struck : Nat) : act ≠ .cancel struck := fun same => strikes ⟨struck, same⟩
    exact absurd (isCancelled_perform_of_ne sound spares there) changed

/-- What a poll shows of a waiter, by the token that it waits for. -/
theorem shows_eq (sound : sound acts = true) {waiter token : Nat}
    (waited : (awaited acts)[waiter]? = some token) (order : List Bool) :
    (released acts waiter → shows acts order waiter = .finished) ∧
      (¬released acts waiter → shows acts order waiter =
        if (after acts).isCancelled token then .ready else .pending) := by
  have attends := attends_after sound
  have there : waiter < (after acts).waiters.length := by
    rw [attends.numbered]
    exact (List.getElem?_eq_some_iff.mp waited).1
  have found := List.getElem?_eq_getElem there
  have indexed := attends.indexed waiter token _ found waited
  obtain ⟨woken, waits⟩ := attends.poll_eq found order
  simp only [shows, pollIn, found, isCancelled, Stands.indexOf_eq indexed]
  refine ⟨fun gone => by rw [woken gone], fun still => ?_⟩
  rw [waits still]
  split <;> rfl

end

/-- Whatever is done with tokens and waiters: a token counts as cancelled just if it, a clone of it,
or an ancestor or a clone of one was cancelled before.  It stays so, and a cancellation changes
nothing of any other token.  A waiter that has not been ready yet is ready just if its token counts
as cancelled when it is polled, in whichever order it looks at the levels. -/
theorem cancellation_follows_tree {acts : List TokenAct} (sound : sound acts = true) :
    (∀ token < (made acts).length, (after acts).isCancelled token = true ↔
      ∃ cancelled, .cancel cancelled ∈ acts ∧ Covers (made acts) cancelled token) ∧
    (∀ later, TokenAct.sound (later ++ acts) = true → ∀ token < (made acts).length,
      (after acts).isCancelled token = true → (after (later ++ acts)).isCancelled token = true) ∧
    (∀ act, act.concerns (made acts).length (awaited acts).length = true →
      ∀ token < (made acts).length,
        (after (act :: acts)).isCancelled token ≠ (after acts).isCancelled token →
          ∃ cancelled, act = .cancel cancelled ∧ Covers (made acts) cancelled token) ∧
    ∀ (waiter token : Nat), (awaited acts)[waiter]? = some token → ∀ order,
      (released acts waiter → shows acts order waiter = .finished) ∧
      (¬released acts waiter → shows acts order waiter =
        if (after acts).isCancelled token then .ready else .pending) := by
  refine ⟨?_, ?_, ?_, ?_⟩
  · intro token there
    exact isCancelled_iff sound there
  · intro later soundLater token there cancelled
    exact isCancelled_append sound soundLater there cancelled
  · intro act concerns token there changed
    exact covers_of_changed sound concerns there changed
  · intro waiter token waited order
    exact shows_eq sound waited order

/-- The acts of the example: a token with a clone and, below the clone, a child; someone waits for
the child before the first token is cancelled, and is polled before and after. -/
def TokenAct.sample : List TokenAct :=
  [.poll [false] 0, .cancel 0, .poll [] 0, .wait 2, .make (.child 1), .make (.clone 0),
    .make .new]

/-- In the example the child is cancelled with the first token, its parent's clone, and the waiter
that had to wait before is ready. -/
theorem cancellation_follows_tree_sample :
    TokenAct.sound TokenAct.sample = true ∧
      (∃ cancelled, .cancel cancelled ∈ TokenAct.sample ∧
        Covers (made TokenAct.sample) cancelled 2) ∧
      shows (TokenAct.sample.drop 3) [] 0 = .pending ∧
      shows TokenAct.sample.tail [false] 0 = .ready ∧
      shows TokenAct.sample [] 0 = .finished := by
  refine ⟨by decide, ?_, by decide, by decide, ?_⟩
  · exact ((cancellation_follows_tree (by decide)).1 2 (by decide)).mp (by decide)
  · refine ((cancellation_follows_tree (by decide)).2.2.2 0 2 (by decide) []).1 ?_
    exact ⟨[false], TokenAct.sample.tail, List.suffix_rfl, by decide⟩

end SignInFlow
