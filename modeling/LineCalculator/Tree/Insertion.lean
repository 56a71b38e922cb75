/-
Taking tokens into a tree, one at a time.

An operator either climbs under the root, taking the root's right operand as its left one, or
encloses the whole tree as the new root. A number fills the free right slot of the root or of the
operator that stands in it. A token that finds no place is refused, and the tree that was built
stays as it was.
-/
import LineCalculator.Token
import LineCalculator.Tree

namespace LineCalculator

/-- How an operator was taken in. -/
inductive Splice where
  | climbed (new under : Operator)
  | enclosed (new : Operator)
deriving DecidableEq, Repr

namespace Tree

/-- The tree under a new root. -/
def enclose (op : Operator) (t : Expr) : Expr :=
  operation op t hole

/-- The tree with a new operator between its root and the root's right operand. -/
def climb (op : Operator) : Expr → Expr
  | operation root l r => operation root l (operation op r hole)
  | t => enclose op t

/-- The tree with a number in the free slot at the root or one level below it on the right. -/
def fill? (x : Float) : Expr → Option Expr
  | hole => some (number x)
  | operation op l hole => some (operation op l (number x))
  | operation op l (operation op' l' hole) => some (operation op l (operation op' l' (number x)))
  | _ => none

/-- The way in which a tree takes an operator in: `none` if it refuses it, `some none` if the
operator is the first token. -/
def splice? (op : Operator) : Expr → Option (Option Splice)
  | hole => some none
  | number _ => some (some (.enclosed op))
  | operation _ _ hole => none
  | operation root _ _ => some (some (if op.climbs root then .climbed op root else .enclosed op))

/-- A tree after an operator was taken in. -/
def spliced (op : Operator) (t : Expr) : Option Splice → Expr
  | some (.climbed ..) => t.climb op
  | _ => t.enclose op

/-- A tree after a token, with the way in which an operator other than the first token was taken in;
`none` if the token is refused. -/
def insert? (t : Expr) : Lexeme → Option (Expr × Option Splice)
  | .number x => (t.fill? x).map (·, none)
  | .operator op => (t.splice? op).map fun how => (t.spliced op how, how)

end Tree

end LineCalculator
