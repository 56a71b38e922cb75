/-
The text of a tree with all its parentheses.

Numbers stand as results do, an operation between parentheses with its symbol between its operands,
and a question mark for an absent operand. The text is written from a stack, so that a tree may be
of any depth.
-/
import LineCalculator.Number.Style
import LineCalculator.Text.Writer
import LineCalculator.Tree

namespace LineCalculator.Tree

/-- How the text of a tree is taken apart. -/
def textWriter : Text.Writer Expr where
  opening
    | hole => ['?']
    | number x => NumberStyle.result.write x
    | operation .. => ['(']
  items
    | operation op l r => [.part l, .text [' ', op.symbol, ' '], .part r, .text [')']]
    | _ => []
  weight t := 3 * t.size
  weight_items
    | hole => Nat.succ_pos _
    | number _ => Nat.succ_pos _
    | operation _ l r => by
      show 3 * l.size + (1 + (3 * r.size + 1)) < 3 * (l.size + r.size + 1)
      omega

/-- The text of a tree. -/
def text (t : Expr) : List Char :=
  textWriter.write t

end LineCalculator.Tree
