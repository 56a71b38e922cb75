/-
Expression trees.

A tree is a number, an operation on two trees, or a hole where an operand is absent. Symbols and
numbers are parameters: `Expr` is the tree that an expression is read into, and `Candidate` the
looser one that may hold symbols and leaves with no meaning, which evaluation has to refuse.
-/
import LineCalculator.Operator

namespace LineCalculator

/-- A tree of binary operations with symbols `σ` and numbers `ν`. -/
inductive Tree (σ ν : Type) where
  | hole
  | number (value : ν)
  | operation (symbol : σ) (left right : Tree σ ν)
deriving DecidableEq, Repr

/-- The tree of an expression. -/
abbrev Expr := Tree Operator Float

namespace Tree

variable {σ ν : Type}

/-- Whether an operand is absent. -/
def isHole : Tree σ ν → Bool
  | hole => true
  | _ => false

@[simp] theorem isHole_hole : (hole : Tree σ ν).isHole = true := rfl

@[simp] theorem isHole_number (x : ν) : (number x : Tree σ ν).isHole = false := rfl

@[simp] theorem isHole_operation (s : σ) (l r : Tree σ ν) : (operation s l r).isHole = false := rfl

@[simp] theorem isHole_eq_true {t : Tree σ ν} : t.isHole = true ↔ t = hole := by
  cases t <;> simp

/-- Whether both operands of an operation are present; a number has none to miss. -/
def isComplete? : Tree σ ν → Option Bool
  | operation _ l r => some (!l.isHole && !r.isHole)
  | _ => none

/-- The number of nodes, holes included. -/
def size : Tree σ ν → Nat
  | hole => 1
  | number _ => 1
  | operation _ l r => l.size + r.size + 1

theorem size_pos (t : Tree σ ν) : 0 < t.size := by
  cases t <;> simp [size]

end Tree

/-- The leaf of a tree of unknown origin: a number, or an object of another type. -/
inductive Operand where
  | number (value : Float)
  | foreign (typeName : String)
deriving DecidableEq

/-- A tree of unknown origin, whose symbols are arbitrary texts. -/
abbrev Candidate := Tree String Operand

/-- The operator that a text is the symbol of. -/
def Operator.ofText? (text : String) : Option Operator :=
  match text.toList with
  | [c] => Operator.ofSymbol? c
  | _ => none

/-- The expression that a tree of unknown origin is, if all its symbols and leaves have a
meaning. -/
def Candidate.expr? : Candidate → Option Expr
  | .hole => some .hole
  | .number (.number x) => some (.number x)
  | .number (.foreign _) => none
  | .operation s l r => do
    let op ← Operator.ofText? s
    let l ← expr? l
    let r ← expr? r
    return .operation op l r

end LineCalculator
