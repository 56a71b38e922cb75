/-
The value of a tree by recursion.

The machine that evaluates a tree keeps a list of tasks and a stack of values.  `Tree.value` says
what it computes: a node is checked first, then its left operand is evaluated, then its right one,
and then both values are combined.

* `Machine.run_visit` — visiting a tree on any stack, with any tasks to follow, puts the value of
  the tree on the stack or ends with its fault;
* `evaluate_eq` — evaluation gives the value of the tree or its fault, and the operations that were
  carried out on the way are those of the recursion;
* `value_of_isComplete`, `value_of_not_isComplete` — an expression has a value if it lacks no
  operand, and otherwise the fault is an absent operand.
-/
import LineCalculator.Evaluation
import LineCalculator.Proofs.Traversal

namespace LineCalculator

variable {σ ν α : Type}

/-- The value of a tree, or its first fault. -/
def Tree.value (m : Meaning σ ν α) : Tree σ ν → Except EvalError α
  | .hole => .error (.unknownOperator Machine.absentName)
  | .number x => m.operand x
  | .operation s l r =>
    match Machine.check m s l r with
    | .error e => .error e
    | .ok apply =>
      match l.value m with
      | .error e => .error e
      | .ok a => (r.value m).map (apply a)

/-- The operations that evaluating a tree carries out, in their order, up to its first fault. -/
def Tree.reductions (m : Meaning σ ν α) : Tree σ ν → List (Reduction σ α)
  | .hole | .number _ => []
  | .operation s l r =>
    match Machine.check m s l r with
    | .error _ => []
    | .ok apply =>
      match l.value m with
      | .error _ => l.reductions m
      | .ok a =>
        match r.value m with
        | .error _ => l.reductions m ++ r.reductions m
        | .ok b => l.reductions m ++ r.reductions m ++ [⟨a, s, b, apply a b⟩]

/-- Visiting a tree records its reductions, and puts its value on the stack and goes on or ends the
run with its fault. -/
theorem Machine.run_visit (m : Meaning σ ν α) (t : Tree σ ν) (tasks : List (Task σ ν α))
    (values : List α) (done : List (Reduction σ α)) :
    run m (.visit t :: tasks) values done =
      match t.value m with
      | .ok a => run m tasks (a :: values) ((t.reductions m).reverse ++ done)
      | .error e => (.failed e, (t.reductions m).reverse ++ done) := by
  induction t generalizing tasks values done with
  | hole =>
    rw [run]
    rfl
  | number x =>
    rw [run]
    cases hx : m.operand x <;> simp [Tree.value, Tree.reductions, hx]
  | operation s l r ihl ihr =>
    rw [run]
    cases hc : check m s l r with
    | error e => simp [Tree.value, Tree.reductions, hc]
    | ok apply =>
      -- the left visit goes before the right one, and the reduction waits behind both
      simp only [Tree.value, Tree.reductions, hc, ihl]
      cases hl : l.value m with
      | error e => rfl
      | ok a =>
        simp only [ihr]
        cases hr : r.value m with
        | error e => simp [Except.map]
        | ok b =>
          simp only [Except.map, run]
          simp

/-- Evaluation gives the value of a tree or its fault, and records its reductions. -/
theorem evaluate_eq (m : Meaning σ ν α) (t : Tree σ ν) :
    evaluate m t = ⟨t.value m, t.reductions m⟩ := by
  have hrun := Machine.run_visit m t [] [] []
  unfold evaluate
  cases hv : t.value m with
  | ok a =>
    have hend : Machine.run m [.visit t] [] [] = (.value a, (t.reductions m).reverse) := by
      simp [hrun, hv, Machine.run]
    split
    next h => rw [hend] at h; cases h; rw [List.reverse_reverse]
    next h => rw [hend] at h; cases h
    next h => rw [hend] at h; cases h
  | error e =>
    have hend : Machine.run m [.visit t] [] [] = (.failed e, (t.reductions m).reverse) := by
      simp [hrun, hv]
    split
    next h => rw [hend] at h; cases h
    next h => rw [hend] at h; cases h; rw [List.reverse_reverse]
    next h => rw [hend] at h; cases h

/-- Evaluation gives the value of a tree, or its fault. -/
theorem evaluate_outcome (m : Meaning σ ν α) (t : Tree σ ν) :
    (evaluate m t).outcome = t.value m := by
  rw [evaluate_eq]

/-! ### Expressions -/

section Expressions

variable {apply : Operator → α → α → α} {op : Operator} {l r : Tree Operator α}

theorem check_of_left_hole :
    Machine.check (.ofOperators apply) op .hole r =
      .error (.missingOperand op.symbol.toString .left) := rfl

theorem check_of_right_hole (hl : l ≠ .hole) :
    Machine.check (.ofOperators apply) op l .hole =
      .error (.missingOperand op.symbol.toString .right) := by
  rw [Machine.check, if_neg (mt Tree.isHole_eq_true.mp hl)]
  rfl

theorem check_of_ne_hole (hl : l ≠ .hole) (hr : r ≠ .hole) :
    Machine.check (.ofOperators apply) op l r = .ok (apply op) := by
  rw [Machine.check, if_neg (mt Tree.isHole_eq_true.mp hl),
    if_neg (mt Tree.isHole_eq_true.mp hr)]
  rfl

theorem eq_apply_of_check {f : α → α → α}
    (h : Machine.check (.ofOperators apply) op l r = .ok f) : f = apply op := by
  rw [Machine.check] at h
  split at h
  · cases h
  · split at h
    · cases h
    · cases h
      rfl

theorem ne_hole_of_value {m : Meaning σ ν α} {t : Tree σ ν} {a : α} (h : t.value m = .ok a) :
    t ≠ .hole := by
  rintro rfl
  cases h

/-- An operation has a value if both of its operands have one. -/
theorem value_operation_eq_ok_iff {x : α} :
    (Tree.operation op l r).value (.ofOperators apply) = .ok x ↔
      ∃ a b, l.value (.ofOperators apply) = .ok a ∧ r.value (.ofOperators apply) = .ok b ∧
        x = apply op a b := by
  constructor
  · intro h
    rw [Tree.value] at h
    split at h
    next => cases h
    next f hf =>
      obtain rfl := eq_apply_of_check hf
      split at h
      next => cases h
      next a ha =>
        cases hr : r.value (.ofOperators apply) with
        | error e =>
          rw [hr] at h
          cases h
        | ok b =>
          rw [hr] at h
          cases h
          exact ⟨a, b, ha, rfl, rfl⟩
  · rintro ⟨a, b, ha, hb, rfl⟩
    rw [Tree.value, check_of_ne_hole (ne_hole_of_value ha) (ne_hole_of_value hb), ha, hb]
    rfl

/-- The reductions of an operation are those of its operands, and one of their values. -/
theorem mem_reductions_operation {x : Reduction Operator α}
    (h : x ∈ (Tree.operation op l r).reductions (.ofOperators apply)) :
    x ∈ l.reductions (.ofOperators apply) ∨ x ∈ r.reductions (.ofOperators apply) ∨
      ∃ a b, l.value (.ofOperators apply) = .ok a ∧ r.value (.ofOperators apply) = .ok b ∧
        x = ⟨a, op, b, apply op a b⟩ := by
  rw [Tree.reductions] at h
  split at h
  next => cases h
  next f hf =>
    obtain rfl := eq_apply_of_check hf
    split at h
    next => exact .inl h
    next a ha =>
      split at h
      next => exact (List.mem_append.mp h).imp_right .inl
      next b hb =>
        rcases List.mem_append.mp h with h | h
        · exact (List.mem_append.mp h).imp_right .inl
        · exact .inr (.inr ⟨a, b, ha, hb, List.mem_singleton.mp h⟩)

/-- An expression that lacks no operand has a value. -/
theorem value_of_isComplete {t : Tree Operator α} (h : t.IsComplete) :
    ∃ a, t.value (.ofOperators apply) = .ok a := by
  induction t with
  | hole => exact h.elim
  | number x => exact ⟨x, rfl⟩
  | operation op l r ihl ihr =>
    obtain ⟨hl, hr⟩ := h
    obtain ⟨a, ha⟩ := ihl hl
    obtain ⟨b, hb⟩ := ihr hr
    exact ⟨apply op a b, value_operation_eq_ok_iff.mpr ⟨a, b, ha, hb, rfl⟩⟩

/-- An expression that lacks an operand somewhere has no value, and an absent operand is its
fault. -/
theorem value_of_not_isComplete {t : Tree Operator α} (h : ¬ t.IsComplete) (ht : t ≠ .hole) :
    ∃ symbol side, t.value (.ofOperators apply) = .error (.missingOperand symbol side) := by
  induction t with
  | hole => exact absurd rfl ht
  | number x => exact absurd trivial h
  | operation op l r ihl ihr =>
    by_cases hl : l = .hole
    · refine ⟨op.symbol.toString, .left, ?_⟩
      rw [Tree.value, hl, check_of_left_hole]
    by_cases hr : r = .hole
    · refine ⟨op.symbol.toString, .right, ?_⟩
      rw [Tree.value, hr, check_of_right_hole hl]
    rw [Tree.value, check_of_ne_hole hl hr]
    -- both operands are there, so one of them lacks an operand further down
    by_cases hc : l.IsComplete
    · obtain ⟨a, ha⟩ := @value_of_isComplete _ apply _ hc
      obtain ⟨symbol, side, he⟩ := ihr (fun hr' => h ⟨hc, hr'⟩) hr
      refine ⟨symbol, side, ?_⟩
      rw [ha, he]
      rfl
    · obtain ⟨symbol, side, he⟩ := ihl hc hl
      refine ⟨symbol, side, ?_⟩
      rw [he]

end Expressions

end LineCalculator
