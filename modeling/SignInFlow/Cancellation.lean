/-!
# Cancellation

Tokens form a forest: a token counts as cancelled once it or any of its ancestors was cancelled.  A
clone is the same token under another number.  A waiter registers with its token and all of its
ancestors when it is first polled.  Whenever it is polled after that it looks, level by level,
whether something was cancelled since; at each level it looks at the token itself or at the
ancestors first, as it happens.
-/

namespace SignInFlow

/-- One token of the forest. -/
structure TokenNode where
  /-- The index of the parent, which is older. -/
  parent : Option Nat
  /-- How often the token itself was cancelled; each time wakes those who wait for it. -/
  cancels : Nat
deriving DecidableEq, Repr

/-- What a waiter has come to. -/
inductive WaiterStage where
  /-- It was never polled. -/
  | created
  /-- It waits, with the number of cancellations that each level had when it registered there. -/
  | registered (seen : List Nat)
  /-- It was ready. -/
  | finished
deriving DecidableEq, Repr

/-- Something that waits for a token to be cancelled. -/
structure Waiter where
  /-- The index of the token. -/
  index : Nat
  /-- What it has come to. -/
  stage : WaiterStage
deriving DecidableEq, Repr

/-- What polling a waiter shows. -/
inductive Poll where
  | pending
  | ready
  | finished
deriving DecidableEq, Repr

/-- All tokens and waiters. -/
structure TokenForest where
  /-- The tokens, the newest first; the index of a token is the number of older ones. -/
  nodes : List TokenNode
  /-- The index of the token under each number. -/
  handles : List Nat
  /-- The waiters by number. -/
  waiters : List Waiter
deriving Repr

namespace TokenForest

/-- No tokens at all. -/
def empty : TokenForest := ⟨[], [], []⟩

/-- The cancellations at each level from a token up to its root. -/
def lineage : List TokenNode → Nat → List Nat
  | [], _ => []
  | node :: older, index =>
      if index = older.length then
        node.cancels :: match node.parent with
          | some parent => lineage older parent
          | none => []
      else lineage older index

/-- Whether the token of an index, or an ancestor, was cancelled. -/
def cancelledAt (forest : TokenForest) (index : Nat) : Bool :=
  (lineage forest.nodes index).any fun cancels => cancels != 0

/-- The index of the token under a number. -/
def indexOf (forest : TokenForest) (handle : Nat) : Nat := forest.handles.getD handle 0

/-- Whether the token under a number is cancelled. -/
def isCancelled (forest : TokenForest) (handle : Nat) : Bool :=
  forest.cancelledAt (forest.indexOf handle)

/-- Adds a token and gives it the next number. -/
def add (forest : TokenForest) (parent : Option Nat) : Nat × TokenForest :=
  (forest.handles.length, { forest with
    nodes := ⟨parent, 0⟩ :: forest.nodes
    handles := forest.handles ++ [forest.nodes.length] })

/-- A new token without a parent. -/
def new (forest : TokenForest) : Nat × TokenForest := forest.add none

/-- A new token that is cancelled with the one under a number. -/
def child (forest : TokenForest) (handle : Nat) : Nat × TokenForest :=
  forest.add (some (forest.indexOf handle))

/-- Another number for the same token. -/
def clone (forest : TokenForest) (handle : Nat) : Nat × TokenForest :=
  (forest.handles.length, { forest with handles := forest.handles ++ [forest.indexOf handle] })

/-- Counts a cancellation of the token of an index. -/
def cancelNode : List TokenNode → Nat → List TokenNode
  | [], _ => []
  | node :: older, index =>
      if index = older.length then { node with cancels := node.cancels + 1 } :: older
      else node :: cancelNode older index

/-- Cancels the token under a number. -/
def cancel (forest : TokenForest) (handle : Nat) : TokenForest :=
  { forest with nodes := cancelNode forest.nodes (forest.indexOf handle) }

/-- Makes a waiter for the token under a number. -/
def wait (forest : TokenForest) (handle : Nat) : Nat × TokenForest :=
  (forest.waiters.length, { forest with
    waiters := forest.waiters ++ [⟨forest.indexOf handle, .created⟩] })

/-- A waiter begins to wait at a token and all of its ancestors: at each level it registers and then
looks whether it has to wait at all.  What comes of it is what it has registered, or nothing if it
is ready. -/
def enter : List Nat → Option (List Nat)
  | [] => some []
  | cancels :: above =>
      if (cancels :: above).any fun cancels => cancels != 0 then none
      else (enter above).map (cancels :: ·)

/-- A waiter goes on waiting where it has registered before.  A cancellation of the token since then
sends it back to the beginning of its level, and it is ready once the level above is ready.  The
order says, level by level, whether it looks at the token itself first. -/
def resume : List Bool → List Nat → List Nat → Option (List Nat)
  | order, cancels :: above, seen :: rest =>
      if order.headD true then
        if cancels != seen then enter (cancels :: above)
        else (resume order.tail above rest).map (seen :: ·)
      else
        match resume order.tail above rest with
        | none => none
        | some rest => if cancels != seen then enter (cancels :: above) else some (seen :: rest)
  | _, _, _ => some []

/-- What a waiter comes to, and what a poll shows of it. -/
def settle (waiter : Waiter) : Option (List Nat) → Poll × Waiter
  | none => (.ready, { waiter with stage := .finished })
  | some seen => (.pending, { waiter with stage := .registered seen })

/-- Polls a waiter. -/
def pollWaiter (forest : TokenForest) (order : List Bool) (waiter : Waiter) : Poll × Waiter :=
  let levels := lineage forest.nodes waiter.index
  match waiter.stage with
  | .finished => (.finished, waiter)
  | .created => settle waiter (enter levels)
  | .registered seen => settle waiter (resume order levels seen)

/-- Polls the waiter of a number, which looks at its levels in a given order. -/
def pollIn (forest : TokenForest) (order : List Bool) (number : Nat) : Poll × TokenForest :=
  match forest.waiters[number]? with
  | none => (.finished, forest)
  | some waiter =>
      let (shown, waiter) := forest.pollWaiter order waiter
      (shown, { forest with waiters := forest.waiters.set number waiter })

/-- Polls the waiter of a number, which looks at tokens before their ancestors. -/
def poll (forest : TokenForest) (number : Nat) : Poll × TokenForest := forest.pollIn [] number

end TokenForest

namespace Poll

/-- The name of what a poll shows. -/
def name : Poll → String
  | pending => "pending"
  | ready => "ready"
  | finished => "finished"

end Poll
end SignInFlow
