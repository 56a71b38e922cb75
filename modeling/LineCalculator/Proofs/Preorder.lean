/-
The first bad node of a tree.

The machine that evaluates a tree checks a node when it comes to it, so between two checks it may
have computed any number of values.  None of this shows in the answer: a tree of unknown origin has
the value that recursion gives it if all of its nodes are good, and otherwise the fault of the first
bad one in pre-order.

* `Tree.preorder`, `Candidate.fault?` — the nodes of a tree, and what is wrong with one of them;
* `value_candidate_cases` — a tree has the fault of its first bad node, or the value that plain
  recursion gives it;
* `value_candidate` — an expression is evaluated as the tree of unknown origin that it is;
* `evaluate_candidate_eq_recursion` — so it is for the machine, which always finds the values that
  it needs and ends with one.
-/
import LineCalculator.Proofs.Evaluation

open LineCalculator.Tree

namespace LineCalculator

/-- The nodes of a tree in pre-order, each as the tree that starts at it.  An absent operand counts
as a node; the operation that lacks it stands before it. -/
def Tree.preorder {σ ν : Type} : Tree σ ν → List (Tree σ ν)
  | hole => [hole]
  | number x => [number x]
  | operation s l r => operation s l r :: (l.preorder ++ r.preorder)

namespace Candidate

/-- What is wrong with a node, whatever its operands are like: an absent left operand comes before
an absent right one, and both before a symbol without an operation. -/
def fault? : Candidate → Option EvalError
  | .hole => some (.unknownOperator Machine.absentName)
  | .number (.number _) => none
  | .number (.foreign typeName) => some (.unknownOperator typeName)
  | .operation s .hole _ => some (.missingOperand s .left)
  | .operation s _ .hole => some (.missingOperand s .right)
  | .operation s _ _ => if (Operator.ofText? s).isSome then none else some (.unknownOperator s)

/-- The value of a tree by recursion: that of the left operand, that of the right one, and then the
operation on both. -/
def value? : Candidate → Option Float
  | .hole => none
  | .number (.number x) => some x
  | .number (.foreign _) => none
  | .operation s l r => do
    let a ← value? l
    let b ← value? r
    let op ← Operator.ofText? s
    return op.apply a b

section Check

variable {s : String} {l r : Candidate}

theorem fault?_of_right_hole (hl : l ≠ .hole) :
    fault? (.operation s l .hole) = some (.missingOperand s .right) := by
  cases l with
  | hole => exact absurd rfl hl
  | number x => rfl
  | operation s' l' r' => rfl

theorem fault?_of_ne_hole (hl : l ≠ .hole) (hr : r ≠ .hole) :
    fault? (.operation s l r) =
      if (Operator.ofText? s).isSome then none else some (.unknownOperator s) := by
  cases l with
  | hole => exact absurd rfl hl
  | number x =>
    cases r with
    | hole => exact absurd rfl hr
    | number y => rfl
    | operation s' l' r' => rfl
  | operation s' l' r' =>
    cases r with
    | hole => exact absurd rfl hr
    | number y => rfl
    | operation s'' l'' r'' => rfl

/-- The machine checks an operation for its fault, and finds its meaning if it has none. -/
theorem check_candidate (s : String) (l r : Candidate) :
    (∃ e, fault? (.operation s l r) = some e ∧ Machine.check .candidate s l r = .error e) ∨
      ∃ op, Operator.ofText? s = some op ∧ fault? (.operation s l r) = none ∧
        Machine.check .candidate s l r = .ok op.apply := by
  by_cases hl : l = .hole
  · subst hl
    exact .inl ⟨_, rfl, rfl⟩
  have hl' := mt Tree.isHole_eq_true.mp hl
  by_cases hr : r = .hole
  · subst hr
    refine .inl ⟨_, fault?_of_right_hole hl, ?_⟩
    rw [Machine.check, if_neg hl']
    rfl
  have hr' := mt Tree.isHole_eq_true.mp hr
  have hcheck : Machine.check .candidate s l r = Meaning.candidate.operation s := by
    rw [Machine.check, if_neg hl', if_neg hr']
  rw [fault?_of_ne_hole hl hr, hcheck]
  cases hs : Operator.ofText? s with
  | none => exact .inl ⟨_, rfl, by simp [Meaning.candidate, hs]⟩
  | some op => exact .inr ⟨op, rfl, rfl, by simp [Meaning.candidate, hs]⟩

end Check

end Candidate

open Candidate

/-- A tree has the fault of its first bad node, or if all are good the value by recursion. -/
theorem value_candidate_cases (t : Candidate) :
    (∃ e, t.preorder.findSome? fault? = some e ∧ t.value .candidate = .error e) ∨
      ∃ x, t.preorder.findSome? fault? = none ∧ value? t = some x ∧
        t.value .candidate = .ok x := by
  induction t with
  | hole => exact .inl ⟨_, rfl, rfl⟩
  | number x =>
    cases x with
    | number y => exact .inr ⟨y, rfl, rfl, rfl⟩
    | foreign typeName => exact .inl ⟨_, rfl, rfl⟩
  | operation s l r ihl ihr =>
    rw [preorder, List.findSome?_cons, List.findSome?_append, Tree.value]
    rcases check_candidate s l r with ⟨e, hfault, hcheck⟩ | ⟨op, hop, hfault, hcheck⟩
    · -- the node itself is the first bad one, and its operands are not looked at
      refine .inl ⟨e, ?_, ?_⟩
      · rw [hfault]
      · rw [hcheck]
    rw [hfault, hcheck]
    -- the left operand is done with before the right one is begun
    rcases ihl with ⟨e, hl, hlv⟩ | ⟨a, hl, hla, hlv⟩
    · refine .inl ⟨e, ?_, ?_⟩
      · simp [hl]
      · simp [hlv]
    rcases ihr with ⟨e, hr, hrv⟩ | ⟨b, hr, hrb, hrv⟩
    · refine .inl ⟨e, ?_, ?_⟩
      · simp [hl, hr]
      · simp [hlv, hrv, Except.map]
    · refine .inr ⟨op.apply a b, ?_, ?_, ?_⟩
      · simp [hl, hr]
      · simp [value?, hla, hrb, hop]
      · simp [hlv, hrv, Except.map]

/-! ### Expressions -/

/-- An expression as a tree of unknown origin. -/
def Tree.candidate : Expr → Candidate
  | hole => .hole
  | number x => .number (.number x)
  | operation op l r => .operation op.symbol.toString l.candidate r.candidate

theorem ofText?_symbol (op : Operator) : Operator.ofText? op.symbol.toString = some op := by
  cases op <;> rfl

theorem isHole_candidate (t : Expr) : t.candidate.isHole = t.isHole := by
  cases t <;> rfl

theorem check_candidate_symbol (op : Operator) (l r : Expr) :
    Machine.check .candidate op.symbol.toString l.candidate r.candidate =
      Machine.check (.ofOperators Operator.apply) op l r := by
  have hmeaning : Meaning.candidate.operation op.symbol.toString = .ok op.apply := by
    simp only [Meaning.candidate]
    rw [ofText?_symbol]
  rw [Machine.check, Machine.check, isHole_candidate, isHole_candidate, hmeaning]
  rfl

/-- An expression has the value or the fault of the tree of unknown origin that it is. -/
theorem value_candidate (t : Expr) :
    t.candidate.value .candidate = t.value (.ofOperators Operator.apply) := by
  induction t with
  | hole => rfl
  | number x => rfl
  | operation op l r ihl ihr =>
    rw [Tree.candidate, Tree.value, Tree.value, check_candidate_symbol, ihl, ihr]

/-! ### The machine -/

/-- **The machine agrees with recursion, faults included.**  It never lacks a value and ends with
exactly one unless it meets a fault.  If no node of a tree is bad, its answer is the value by
recursion; otherwise it is the fault of the first bad node in pre-order.  Expressions are evaluated
in the same way as the trees of unknown origin that they are. -/
theorem evaluate_candidate_eq_recursion (t : Candidate) :
    (Machine.run .candidate [.visit t] [] []).1 ≠ .stuck ∧
      ((∀ n ∈ t.preorder, fault? n = none) →
        ∃ x, value? t = some x ∧ (evaluate .candidate t).outcome = .ok x) ∧
      (∀ before n after e, t.preorder = before ++ n :: after →
        (∀ b ∈ before, fault? b = none) → fault? n = some e →
          (evaluate .candidate t).outcome = .error e) ∧
      ∀ u : Expr, u.candidate = t → u.evaluate.outcome = (evaluate .candidate t).outcome := by
  have hcases := value_candidate_cases t
  rw [evaluate_outcome]
  refine ⟨Machine.run_ne_stuck _ _ _ _ rfl, ?_, ?_, ?_⟩
  · intro hgood
    rcases hcases with ⟨e, hfirst, -⟩ | ⟨x, -, hx, hv⟩
    · obtain ⟨n, hn, he⟩ := List.exists_of_findSome?_eq_some hfirst
      rw [hgood n hn] at he
      cases he
    · exact ⟨x, hx, hv⟩
  · intro before n after e hsplit hbefore hn
    have hfirst : t.preorder.findSome? fault? = some e :=
      List.findSome?_eq_some_iff.mpr ⟨before, n, after, hsplit, hn, hbefore⟩
    rcases hcases with ⟨e', he', hv⟩ | ⟨x, hnone, -⟩
    · obtain rfl : e' = e := by rw [hfirst] at he'; exact (Option.some.inj he').symm
      exact hv
    · rw [hfirst] at hnone
      cases hnone
  · rintro u rfl
    rw [Tree.evaluate, evaluate_outcome, value_candidate]

/-- The tree `(1 % s) + (? * ?)`: its quotient has no operation and an object `s` that is no number
as its right operand, and the product behind it lacks both operands. -/
def spoiltTree : Candidate :=
  .operation "+" (.operation "%" (.number (.number 1)) (.number (.foreign "str")))
    (.operation "*" .hole .hole)

/-- The tree `7 - 2`. -/
def soundTree : Candidate := .operation "-" (.number (.number 7)) (.number (.number 2))

/-- The difference has a value, and the first bad node of the other tree is reported. -/
theorem evaluate_candidate_eq_recursion_spoiltTree_soundTree :
    (evaluate .candidate spoiltTree).outcome = .error (.unknownOperator "%") ∧
      (evaluate .candidate soundTree).outcome = .ok (7 - 2) := by
  refine ⟨?_, ?_⟩
  · have hfirst := (evaluate_candidate_eq_recursion spoiltTree).2.2.1
    refine hfirst [spoiltTree] _ _ _ rfl ?_ rfl
    intro b hb
    rw [List.mem_singleton.mp hb]
    rfl
  · have hgood : ∀ n ∈ soundTree.preorder, fault? n = none := by
      intro n hn
      simp only [soundTree, preorder, List.cons_append, List.nil_append, List.mem_cons,
        List.not_mem_nil, or_false] at hn
      rcases hn with rfl | rfl | rfl <;> rfl
    obtain ⟨x, hx, hv⟩ := (evaluate_candidate_eq_recursion soundTree).2.1 hgood
    have hdifference : value? soundTree = some (7 - 2) := rfl
    rw [hdifference, Option.some.injEq] at hx
    rw [hx]
    exact hv

end LineCalculator
