/-
Sealing a finished scaffold.

The cells of a scaffold become the nodes of a tree. They are walked from a stack, operands before
the cell that refers to them, so that a tree of any depth is walked without nesting. A node that is
made stands in a dictionary under the place of its cell, until the node above it takes it out.

Nothing in the cells themselves keeps a reference from leading nowhere, to a node that another one
has taken out, or back to where it came from. The walk tells of the first two, and has no outcome
if it goes round.

* `Sealing.run` — the dictionary at the end of the walk;
* `Scaffold.sealedTree` — the tree that a scaffold is sealed into.
-/
import LineCalculator.Tree.Scaffold

namespace LineCalculator

/-- The nodes that are made and not taken out yet, by the places of their cells, the latest
first. -/
abbrev Sealed := List (Nat × Expr)

namespace Sealed

/-- The dictionary without a place. -/
def without (place : Nat) (d : Sealed) : Sealed :=
  d.filter (·.1 != place)

/-- The dictionary with a node under a place. -/
def put (place : Nat) (t : Expr) (d : Sealed) : Sealed :=
  (place, t) :: d.without place

/-- The node under a place, and the dictionary without it. -/
def pop? (place : Nat) (d : Sealed) : Option (Expr × Sealed) :=
  (d.lookup place).map (·, d.without place)

end Sealed

/-- Why cells cannot be sealed: a reference to no cell, or no node under the place of one. -/
inductive SealError where
  | dangling (place : Nat)
  | missing (place : Nat)
deriving DecidableEq, Repr

/-- The cells that wait, the next one first, each with whether its operands are done, and the nodes
that are made. -/
structure Sealing where
  waiting : List (Nat × Bool)
  sealed : Sealed

namespace Sealing

/-- The node of an operand, taken out of the dictionary. -/
def takeOperand (operand : Option Nat) (d : Sealed) : Except SealError (Expr × Sealed) :=
  match operand with
  | none => .ok (.hole, d)
  | some place =>
    match d.pop? place with
    | some taken => .ok taken
    | none => .error (.missing place)

/-- The turn of the cell at a place: its operands come first, unless they are done. -/
def turn (cells : Cells) (place : Nat) (isDone : Bool) (s : Sealing) : Except SealError Sealing :=
  match cells[place]? with
  | none => .error (.dangling place)
  | some cell =>
    match cell.lexeme with
    | .number x => .ok { s with sealed := s.sealed.put place (.number x) }
    | .operator op =>
      if isDone then do
        let (l, d) ← takeOperand cell.left s.sealed
        let (r, d) ← takeOperand cell.right d
        return { s with sealed := d.put place (.operation op l r) }
      else
        .ok { s with waiting := cell.operands.map (·, false) ++ (place, true) :: s.waiting }

/-- The nodes that are left in the dictionary when no cell waits any more; `none` if that never
comes. -/
def run (cells : Cells) (s : Sealing) : Option (Except SealError Sealed) :=
  match s.waiting with
  | [] => some (.ok s.sealed)
  | (place, isDone) :: waiting =>
    match turn cells place isDone { s with waiting } with
    | .ok s => s |>.run cells
    | .error e => some (.error e)
partial_fixpoint

end Sealing

namespace Scaffold

/-- The dictionary at the end of the walk from the root. -/
def sealed (s : Scaffold) : Option (Except SealError Sealed) :=
  Sealing.run s.cells ⟨[(s.root, false)], []⟩

/-- The tree that a scaffold is sealed into; `none` if its cells are walked for ever. -/
def sealedTree (s : Scaffold) : Option (Except SealError Expr) :=
  s.sealed.map fun outcome =>
    outcome.bind fun d =>
      match d.lookup s.root with
      | some t => .ok t
      | none => .error (.missing s.root)

end Scaffold

end LineCalculator
