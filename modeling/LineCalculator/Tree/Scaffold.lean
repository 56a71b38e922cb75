/-
Trees under construction, cell by cell.

While tokens arrive, a tree stands as cells that refer to one another by their places. Each token is
a new cell, and it is taken in by assignments to the references of cells that are there already: an
operator takes the place of the root, or comes between the root and its right operand, and a number
becomes the right operand of the root or of the cell below it.

* `Scaffold.insert?` — a scaffold after a token, and how an operator was taken in;
* `Cursor.scaffold` — the scaffold of the tokens that are left of a text.
-/
import LineCalculator.Cursor

namespace LineCalculator

/-- A node under construction: what it stands for, and the places of its operands where it has
them. -/
structure Cell where
  lexeme : Lexeme
  left : Option Nat
  right : Option Nat
deriving DecidableEq

namespace Cell

/-- A new cell, which has no operands yet. -/
def new (w : Lexeme) : Cell :=
  ⟨w, none, none⟩

/-- The operator of a cell, if it is not that of a number. -/
def symbol? (c : Cell) : Option Operator :=
  match c.lexeme with
  | .operator op => some op
  | .number _ => none

/-- The places that a cell refers to, from left to right. -/
def operands (c : Cell) : List Nat :=
  c.left.toList ++ c.right.toList

end Cell

/-- The cells of a tree, each at the place at which it was made. -/
abbrev Cells := Array Cell

namespace Cells

/-- The operator of the cell at a place. -/
def symbol? (cells : Cells) (place : Nat) : Option Operator :=
  cells[place]?.bind Cell.symbol?

/-- The place of the right operand of the cell at a place. -/
def right? (cells : Cells) (place : Nat) : Option Nat :=
  cells[place]?.bind Cell.right

/-- The cells with a new one, at the next place. -/
def add (cells : Cells) (w : Lexeme) : Cells :=
  cells.push (.new w)

/-- Assigns the left operand of the cell at a place. -/
def setLeft (cells : Cells) (place operand : Nat) : Cells :=
  cells.modify place fun c => { c with left := some operand }

/-- Assigns the right operand of the cell at a place. -/
def setRight (cells : Cells) (place operand : Nat) : Cells :=
  cells.modify place fun c => { c with right := some operand }

section Access

variable (cells : Cells) (w : Lexeme) (place operand p : Nat)

@[simp] theorem size_add : (cells.add w).size = cells.size + 1 :=
  Array.size_push ..

@[simp] theorem size_setLeft : (cells.setLeft place operand).size = cells.size :=
  Array.size_modify

@[simp] theorem size_setRight : (cells.setRight place operand).size = cells.size :=
  Array.size_modify

theorem getElem?_add : (cells.add w)[p]? = if p = cells.size then some (.new w) else cells[p]? :=
  Array.getElem?_push

theorem getElem?_setLeft :
    (cells.setLeft place operand)[p]? =
      if place = p then cells[p]?.map fun c => { c with left := some operand } else cells[p]? :=
  Array.getElem?_modify

theorem getElem?_setRight :
    (cells.setRight place operand)[p]? =
      if place = p then cells[p]?.map fun c => { c with right := some operand } else cells[p]? :=
  Array.getElem?_modify

end Access

end Cells

/-- A tree under construction: its cells, and the place of its root. -/
structure Scaffold where
  cells : Cells
  root : Nat
deriving DecidableEq

namespace Scaffold

/-- The scaffold of a first token. -/
def first (w : Lexeme) : Scaffold :=
  ⟨#[.new w], 0⟩

/-- The scaffold under a new root. -/
def enclose (op : Operator) (s : Scaffold) : Scaffold :=
  ⟨(s.cells.add (.operator op)).setLeft s.cells.size s.root, s.cells.size⟩

/-- The scaffold with a new cell between the root and its right operand. -/
def climb (op : Operator) (operand : Nat) (s : Scaffold) : Scaffold :=
  ⟨((s.cells.add (.operator op)).setLeft s.cells.size operand).setRight s.root s.cells.size,
    s.root⟩

/-- The scaffold with a number as the right operand of the cell at a place. -/
def fill (x : Float) (place : Nat) (s : Scaffold) : Scaffold :=
  ⟨(s.cells.add (.number x)).setRight place s.cells.size, s.root⟩

/-- A scaffold after an operator, and how it was taken in; `none` if it is refused. -/
def insertOperator? (op : Operator) (s : Scaffold) : Option (Scaffold × Splice) :=
  match s.cells.symbol? s.root with
  | none => some (s.enclose op, .enclosed op)
  | some root =>
    match s.cells.right? s.root with
    | none => none
    | some operand =>
      if op.climbs root then some (s.climb op operand, .climbed op root)
      else some (s.enclose op, .enclosed op)

/-- A scaffold after a number; `none` if it is refused. -/
def insertNumber? (x : Float) (s : Scaffold) : Option Scaffold :=
  if (s.cells.symbol? s.root).isSome then
    match s.cells.right? s.root with
    | none => some (s.fill x s.root)
    | some place =>
      if (s.cells.symbol? place).isSome && (s.cells.right? place).isNone then
        some (s.fill x place)
      else none
  else none

/-- A scaffold after a token, and how an operator was taken in; `none` if the token is refused. -/
def insert? (s : Scaffold) : Lexeme → Option (Scaffold × Option Splice)
  | .number x => (s.insertNumber? x).map (·, none)
  | .operator op => (s.insertOperator? op).map fun (grown, how) => (grown, some how)

end Scaffold

namespace Cursor

/-- The scaffold that the tokens that are left continue a scaffold to. A refused token is taken. -/
def extend (c : Cursor) (s : Scaffold) : Except ParseError Scaffold × Cursor :=
  match _h : c.nextToken with
  | (.ok (some t), after) =>
    match s.insert? t.lexeme with
    | some (grown, _) => after.extend grown
    | none => (.error (.malformed t.position), after)
  | (.ok none, after) => (.ok s, after)
  | (.error e, after) => (.error e, after)
termination_by c.remaining
decreasing_by exact (movesTo_of_nextToken _h).remaining_lt

/-- The scaffold of the tokens that are left. -/
def scaffold (c : Cursor) : Except ParseError Scaffold × Cursor :=
  match c.nextToken with
  | (.ok (some t), after) => after.extend (.first t.lexeme)
  | (.ok none, after) => (.error .empty, after)
  | (.error e, after) => (.error e, after)

end Cursor

end LineCalculator
