/-
Evaluating trees.

A tree is evaluated by a machine with a list of tasks and a stack of values, so that a tree of any
depth is walked without nesting: to visit an operation is to visit its left operand, then its right
one, and then to reduce the two values on the stack. A fault of a node is met when the node is
visited, before its operands: an absent left operand, an absent right one, then a symbol without an
operation.

* `Machine.run_ne_stuck` — a reduction always finds its two values, and one value is left at the
  end;
* `evaluate` — the value of a tree or its first fault, and the reductions that were made.
-/
import LineCalculator.Arithmetic
import LineCalculator.Tree

namespace LineCalculator

/-- The side on which an operand stands. -/
inductive Side where
  | left
  | right
deriving DecidableEq, Repr

/-- The name of a side. -/
def Side.name : Side → String
  | left => "left"
  | right => "right"

/-- Why a tree has no value. -/
inductive EvalError where
  | missingOperand (symbol : String) (side : Side)
  | unknownOperator (symbol : String)
deriving DecidableEq, Repr

/-- What the symbols and the leaves of a tree mean, or why they mean nothing. -/
structure Meaning (σ ν α : Type) where
  symbolText : σ → String
  operand : ν → Except EvalError α
  operation : σ → Except EvalError (α → α → α)

/-- The meaning of expressions under an interpretation of the five operators. -/
def Meaning.ofOperators {α : Type} (apply : Operator → α → α → α) : Meaning Operator α α where
  symbolText op := op.symbol.toString
  operand := .ok
  operation op := .ok (apply op)

/-- The meaning of trees of unknown origin, where every symbol and every leaf may turn out to have
none. -/
def Meaning.candidate : Meaning String Operand Float where
  symbolText := id
  operand
    | .number x => .ok x
    | .foreign typeName => .error (.unknownOperator typeName)
  operation symbol :=
    match Operator.ofText? symbol with
    | some op => .ok op.apply
    | none => .error (.unknownOperator symbol)

/-- One operation that was carried out. -/
structure Reduction (σ α : Type) where
  left : α
  symbol : σ
  right : α
  result : α

namespace Machine

variable {σ ν α : Type}

/-- A thing to do: visit a tree, or apply an operation to the two values on top of the stack. -/
inductive Task (σ ν α : Type) where
  | visit (t : Tree σ ν)
  | reduce (symbol : σ) (apply : α → α → α)

/-- How a run ends. The machine is stuck if it lacks a value or has values left over. -/
inductive Halt (α : Type) where
  | value (a : α)
  | failed (e : EvalError)
  | stuck

/-- The name under which an absent tree is reported. -/
def absentName : String :=
  "NoneType"

/-- The fault of an operation on which its operands have no part, if it has one; otherwise what its
symbol means. -/
def check (m : Meaning σ ν α) (symbol : σ) (l r : Tree σ ν) : Except EvalError (α → α → α) :=
  if l.isHole then .error (.missingOperand (m.symbolText symbol) .left)
  else if r.isHole then .error (.missingOperand (m.symbolText symbol) .right)
  else m.operation symbol

/-- The number of steps that a task takes at most. -/
def cost : Task σ ν α → Nat
  | .visit t => 2 * t.size
  | .reduce .. => 1

/-- The number of steps that a list of tasks takes at most. -/
def totalCost : List (Task σ ν α) → Nat
  | [] => 0
  | task :: tasks => cost task + totalCost tasks

/-- Runs the tasks on a stack of values, after the reductions `done`, the latest of them first. -/
def run (m : Meaning σ ν α) (tasks : List (Task σ ν α)) (values : List α)
    (done : List (Reduction σ α)) : Halt α × List (Reduction σ α) :=
  match tasks with
  | [] =>
    match values with
    | [a] => (.value a, done)
    | _ => (.stuck, done)
  | .visit .hole :: _ => (.failed (.unknownOperator absentName), done)
  | .visit (.number x) :: tasks =>
    match m.operand x with
    | .ok a => run m tasks (a :: values) done
    | .error e => (.failed e, done)
  | .visit (.operation symbol l r) :: tasks =>
    match check m symbol l r with
    | .ok apply => run m (.visit l :: .visit r :: .reduce symbol apply :: tasks) values done
    | .error e => (.failed e, done)
  | .reduce symbol apply :: tasks =>
    match values with
    | right :: left :: values =>
      let result := apply left right
      run m tasks (result :: values) (⟨left, symbol, right, result⟩ :: done)
    | _ => (.stuck, done)
termination_by totalCost tasks
decreasing_by
  all_goals simp [totalCost, cost, Tree.size]
  omega

/-- Whether tasks that start on a stack of `n` values find the values they need and leave one. -/
def Balanced : List (Task σ ν α) → Nat → Prop
  | [], n => n = 1
  | .visit _ :: tasks, n => Balanced tasks (n + 1)
  | .reduce .. :: tasks, n => 2 ≤ n ∧ Balanced tasks (n - 1)

/-- Balanced tasks do not get stuck. -/
theorem run_ne_stuck (m : Meaning σ ν α) (tasks : List (Task σ ν α)) (values : List α)
    (done : List (Reduction σ α)) (h : Balanced tasks values.length) :
    (run m tasks values done).1 ≠ .stuck := by
  fun_induction run m tasks values done with
  | case1 => simp
  | case2 values _ hv =>
    match values, h with
    | [a], _ => exact absurd rfl (hv a)
  | case3 => simp
  | case4 _ _ _ _ _ _ ih => exact ih h
  | case5 => simp
  | case6 _ _ _ _ _ _ _ _ ih => exact ih (by simpa [Balanced] using h)
  | case7 => simp
  | case8 _ _ _ _ _ _ _ _ ih => exact ih (by simpa [Balanced] using h.2)
  | case9 values _ _ _ _ hv =>
    match values, h with
    | right :: left :: values, _ => exact absurd rfl (hv right left values)

end Machine

/-- The value of a tree or its first fault, and the reductions that were made, in their order. -/
structure Evaluation (σ α : Type) where
  outcome : Except EvalError α
  reductions : List (Reduction σ α)

/-- Evaluates a tree. -/
def evaluate {σ ν α : Type} (m : Meaning σ ν α) (t : Tree σ ν) : Evaluation σ α :=
  match h : Machine.run m [.visit t] [] [] with
  | (.value a, done) => ⟨.ok a, done.reverse⟩
  | (.failed e, done) => ⟨.error e, done.reverse⟩
  | (.stuck, _) =>
    absurd (congrArg Prod.fst h) (Machine.run_ne_stuck m [.visit t] [] [] rfl)

/-- Evaluates an expression in doubles. -/
def Tree.evaluate (t : Expr) : Evaluation Operator Float :=
  LineCalculator.evaluate (.ofOperators Operator.apply) t

end LineCalculator
