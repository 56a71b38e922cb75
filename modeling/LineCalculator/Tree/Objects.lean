/-
The object of a tree.

A tree becomes a JSON object with its type, its value, and its operands where present. The objects
of all nodes stand in a table, in which one holds another by its place, and each is filled when its
node has its turn: it is then linked already into the object above it. The nodes that wait for their
turn stand on a stack, so that a tree may be of any depth.

* `Objects.json` — the object at a place of the table, with the objects that it holds;
* `Tree.toJson` — the object of a tree.
-/
import LineCalculator.Json
import LineCalculator.Tree

namespace LineCalculator

/-- What an object of a table holds under a key: a value, or the object at a place. -/
inductive Content where
  | value (v : Json)
  | object (place : Nat)

/-- An object of a table, with its fields in order. -/
abbrev Contents := List (String × Content)

/-- The object with a field: in the place of the old one if there is one, otherwise at the end. -/
def Contents.put (key : String) (content : Content) : Contents → Contents
  | [] => [(key, content)]
  | (k, c) :: rest =>
    if k = key then (k, content) :: rest else (k, c) :: Contents.put key content rest

/-- A table of objects. -/
abbrev Objects := Array Contents

namespace Objects

mutual

/-- The object at a place of a table. -/
def json (objects : Objects) (place : Nat) : Json :=
  .object (objects.fields place (objects[place]?.getD []))
termination_by (objects.size - place, (objects[place]?.getD []).length + 1)

/-- The fields of the object at a place. What it holds stands at later places. -/
def fields (objects : Objects) (place : Nat) : Contents → Fields
  | [] => .nil
  | (key, .value v) :: rest => .cons key v (objects.fields place rest)
  | (key, .object inner) :: rest =>
    if place < inner ∧ inner < objects.size then
      .cons key (objects.json inner) (objects.fields place rest)
    else objects.fields place rest
termination_by contents => (objects.size - place, contents.length)

end

end Objects

namespace Tree

/-- The nodes that wait for their turn, each with the place of its object, and the table. -/
structure Filling where
  waiting : List (Expr × Nat)
  objects : Objects

namespace Filling

/-- The number of nodes that are still to have their turn, those below waiting nodes included. -/
def size : List (Expr × Nat) → Nat
  | [] => 0
  | (t, _) :: waiting => t.size + size waiting

/-- Puts a field into the object at a place. -/
def put (place : Nat) (key : String) (content : Content) (s : Filling) : Filling :=
  { s with objects := s.objects.modify place (Contents.put key content) }

/-- Puts the type and the value of a node into the object at a place. -/
def putScalar (place : Nat) (kind : String) (value : Json) (s : Filling) : Filling :=
  (s.put place "type" (.value (.word kind))).put place "value" (.value value)

/-- Links a new object for an operand into the object at a place, if the operand is present; it
then waits for its turn. -/
def putOperand (place : Nat) (key : String) (t : Expr) (s : Filling) : Filling :=
  if t.isHole then s
  else
    let new := s.objects.size
    let linked := s.put place key (.object new)
    ⟨(t, new) :: linked.waiting, linked.objects.push []⟩

/-- The turn of a node whose object stands at a place. -/
def turn (place : Nat) : Expr → Filling → Filling
  | hole, s => s
  | number x, s => s.putScalar place "number" (.ofFloat x)
  | operation op l r, s =>
    ((s.putScalar place "operator" (.word op.symbol.toString)).putOperand place "left"
      l).putOperand place "right" r

theorem size_putOperand_le (place : Nat) (key : String) (t : Expr) (s : Filling) :
    size (s.putOperand place key t).waiting ≤ t.size + size s.waiting := by
  unfold putOperand
  split
  · exact Nat.le_add_left ..
  · exact Nat.le_refl _

theorem size_turn_lt (place : Nat) (t : Expr) (s : Filling) :
    size (turn place t s).waiting < t.size + size s.waiting := by
  cases t with
  | hole => exact Nat.lt_add_of_pos_left (size_pos _)
  | number x => exact Nat.lt_add_of_pos_left (size_pos _)
  | operation op l r =>
    have hl := size_putOperand_le place "left" l
      (s.putScalar place "operator" (.word op.symbol.toString))
    have hr := size_putOperand_le place "right" r
      ((s.putScalar place "operator" (.word op.symbol.toString)).putOperand place "left" l)
    have hs : (s.putScalar place "operator" (.word op.symbol.toString)).waiting = s.waiting := rfl
    rw [hs] at hl
    simp only [turn, Tree.size]
    omega

/-- The table after all nodes have had their turn. -/
def run (s : Filling) : Objects :=
  match _h : s.waiting with
  | [] => s.objects
  | (t, place) :: waiting => (turn place t ⟨waiting, s.objects⟩).run
termination_by size s.waiting
decreasing_by
  rw [_h]
  exact size_turn_lt place t ⟨waiting, s.objects⟩

end Filling

/-- The object of a tree. -/
def toJson (t : Expr) : Json :=
  (Filling.run ⟨[(t, 0)], #[[]]⟩).json 0

end Tree

end LineCalculator
