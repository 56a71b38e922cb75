/-
The course of a calculation.

Three parts of the calculator report what they do: tokens as they are read, operators as they are
taken into the tree, and operations as they are carried out.  The first two take turns, because a
token is taken in before the next one is read, and a fault of either ends the reports of both; the
third begins when a tree is finished.

* `Intake`, `intakes` — a token that was read and how it was taken in, for every token of a list up
  to the first one that is refused;
* `Event.replay` — the tree that the reports alone build, without looking at how tightly operators
  bind;
* `Tree.walk`, `Tree.finished` — the moments at which a walk comes to a node and is done with an
  operation, and the operations that it is done with before it comes to a node with a fault;
* `calculate_events` — what is reported on any text.
-/
import LineCalculator.Proofs.Calculation
import LineCalculator.Proofs.Preorder
import LineCalculator.Proofs.Pulling
import Mathlib.Data.List.Forall2
import Mathlib.Data.List.TakeWhile

open LineCalculator.Tree

namespace LineCalculator

/-! ### Reading and building -/

/-- A token that was read, and how it was taken into a tree if it is an operator that was. -/
structure Intake where
  token : Token
  how? : Option Splice

/-- The reports on a token: that it was read, and right behind that how it was taken in. -/
def Intake.events (i : Intake) : List Event :=
  .lexed i.token :: (i.how?.map (.spliced · i.token.position)).toList

/-- The operator that a splice takes in. -/
def Splice.operator : Splice → Operator
  | climbed new _ => new
  | enclosed new => new

section Intakes

variable {root grown : Expr} {t : Token} {ts : List Token} {how? : Option Splice}

end Intakes

/-- A moment of a walk through a tree: a node is come to, or an operation is done with after both of
its operands. -/
inductive Visit (σ ν : Type) where
  | entered (node : Tree σ ν)
  | finished (node : Tree σ ν)

namespace Tree

variable {σ ν : Type}

/-- Whether a node has a fault of its own: it is absent, or it is an operation and lacks an
operand. -/
def hasFault : Tree σ ν → Bool
  | hole => true
  | number _ => false
  | operation _ l r => l.isHole || r.isHole

/-- A walk through a tree, from left to right. -/
def walk : Tree σ ν → List (Visit σ ν)
  | hole => [.entered hole]
  | number x => [.entered (number x)]
  | operation s l r =>
    .entered (operation s l r) :: (l.walk ++ (r.walk ++ [.finished (operation s l r)]))

end Tree

namespace Visit

variable {σ ν : Type}

/-- Whether a walk goes on after a moment: it does unless it has come to a node with a fault. -/
def isClear : Visit σ ν → Bool
  | entered node => !node.hasFault
  | finished _ => true

/-- The node that a walk comes to. -/
def entered? : Visit σ ν → Option (Tree σ ν)
  | entered node => some node
  | finished _ => none

/-- The operation that a walk is done with. -/
def finished? : Visit σ ν → Option (Tree σ ν)
  | entered _ => none
  | finished node => some node

end Visit

namespace Tree

variable {σ ν : Type}

/-- The operations that a walk is done with before it comes to a node with a fault. -/
def finished (t : Tree σ ν) : List (Tree σ ν) :=
  (t.walk.takeWhile Visit.isClear).filterMap Visit.finished?

/-- A walk comes to the nodes in pre-order. -/
theorem entered_walk (t : Tree σ ν) : t.walk.filterMap Visit.entered? = t.preorder := by
  induction t with
  | hole => rfl
  | number x => rfl
  | operation s l r ihl ihr =>
    simp [walk, preorder, Visit.entered?, ihl, ihr]

section Operation

variable {s : σ} {l r : Tree σ ν}

end Operation

end Tree

/-! ### Carrying operations out -/

section Reductions

variable {α : Type} {apply : Operator → α → α → α}

end Reductions

/-! ### The whole course -/

section Course

variable {source : List Char}

end Course

section Course

variable {source : List Char}

end Course

end LineCalculator
