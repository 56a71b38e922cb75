/-
The indented text of a tree.

A tree is written as a JSON object with a field a line: its type, its value, and its operands where
present. It is the layout of the object of the tree (`Tree.toJson`), but is written from a stack
straight from the tree. The spaces in front of a line are a text of their own, and like all others
they have to find room.
-/
import LineCalculator.Text.Memory
import LineCalculator.Text.Writer
import LineCalculator.Tree.Objects

namespace LineCalculator.Tree

open Text

/-- The lines of a node's type and value. -/
def head (indent : Int) (depth : Nat) (kind : String) (value : List Char) : List Char :=
  '{' :: (Json.lineBreak indent (depth + 1) ++ Json.keyText "type" ++ Json.quotedWord kind ++
    ',' :: (Json.lineBreak indent (depth + 1) ++ Json.keyText "value" ++ value))

/-- The line of an operand, if it is present. -/
def operandItems (indent : Int) (depth : Nat) (key : String) (t : Expr) :
    List (Item (Expr × Nat)) :=
  if t.isHole then []
  else
    [.text (',' :: (Json.lineBreak indent (depth + 1) ++ Json.keyText key)), .part (t, depth + 1)]

/-- The line that ends a node. -/
def closing (indent : Int) (depth : Nat) : Item (Expr × Nat) :=
  .text (Json.lineBreak indent depth ++ ['}'])

theorem totalWeight_operandItems_le (indent : Int) (depth : Nat) (key : String) (t : Expr) :
    totalWeight (fun p => 4 * p.1.size) (operandItems indent depth key t) ≤ 4 * t.size + 1 := by
  unfold operandItems
  split
  · exact Nat.zero_le _
  · simp [totalWeight, Item.weight]
    omega

/-- How the indented text of a tree at a depth is taken apart. -/
def dumpWriter (indent : Int) : Writer (Expr × Nat) where
  opening
    | (hole, _) => ['{', '}']
    | (number x, depth) => head indent depth "number" (Json.ofFloat x).compact
    | (operation op _ _, depth) =>
      head indent depth "operator" (Json.quotedWord op.symbol.toString)
  items
    | (hole, _) => []
    | (number _, depth) => [closing indent depth]
    | (operation _ l r, depth) =>
      operandItems indent depth "left" l ++
        (operandItems indent depth "right" r ++ [closing indent depth])
  weight p := 4 * p.1.size
  weight_items
    | (hole, _) => by simp [totalWeight, size]
    | (number _, _) => by simp [totalWeight, Item.weight, closing, size]
    | (operation _ l r, depth) => by
      have hl := totalWeight_operandItems_le indent depth "left" l
      have hr := totalWeight_operandItems_le indent depth "right" r
      simp only [totalWeight_append, totalWeight, Item.weight, closing, size]
      omega

/-- Makes room for what a node at a depth adds to the text: the spaces in front of the lines in it,
and the lines. -/
def makeRoom (memory : Memory) (indent : Int) (p : Expr × Nat) (held : Nat) :
    Except Shortage Nat := do
  let held ← if p.1.isHole then .ok held else memory.hold (indent.toNat * (p.2 + 1)) held
  memory.holdAll ((dumpWriter indent).texts p) held

/-- The indented text of a tree. An indentation is a count, so it has to be in the bounds of one,
below zero as well. -/
def dump (memory : Memory) (indent : Int) (t : Expr) : Except Shortage (List Char) :=
  if indent < -lengthBound ∨ lengthBound ≤ indent then .error .overflow
  else do
    let held ← memory.hold indent.toNat 0
    let (texts, held) ←
      (dumpWriter indent).runWithin (makeRoom memory indent) [.part (t, 0)] [] held
    let text := texts.reverse.flatten
    let _ ← memory.hold text.length held
    return text

end LineCalculator.Tree
