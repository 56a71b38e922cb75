/-
Two registers in the place of a tree.

A tree under construction is open at its root alone: the next operator closes the root's right
operand with one operation, or else the whole tree.  So two finished operands and the operator
between them are all that has to be kept while an expression is read, whether the operands are
trees or numbers.

* `Registers.run` — the two registers run over an expression;
* `builtTree_eq_run` — run on trees, they give the tree that is built;
* `Registers.run_rel` — runs that combine related operands to related ones stay related;
* `parse_and_evaluate_eq_run` — building and then evaluating is one run on numbers.
-/
import LineCalculator.Proofs.Calculation
import LineCalculator.Proofs.Precedence

open LineCalculator.Tree

namespace LineCalculator

/-- Two operands and the operator between them. -/
structure Registers (α : Type) where
  left : α
  op : Operator
  right : α

namespace Registers

variable {α β ν : Type}

/-- The operation that the registers hold. -/
def close (combine : Operator → α → α → α) (s : Registers α) : α :=
  combine s.op s.left s.right

/-- One more operator and operand: an operator that climbs is carried out on the right register,
and any other one after the operation that the registers hold. -/
def step (combine : Operator → α → α → α) (s : Registers α) (op : Operator) (a : α) :
    Registers α :=
  if op.climbs s.op then { s with right := combine op s.right a }
  else ⟨s.close combine, op, a⟩

/-- Runs over a number, an operator and a number, and any further pairs. -/
def run (combine : Operator → α → α → α) (operand : ν → α) (x : ν) (op : Operator) (y : ν)
    (ps : List (Operator × ν)) : α :=
  let start : Registers α := ⟨operand x, op, operand y⟩
  (ps.foldl (fun s p => s.step combine p.1 (operand p.2)) start).close combine

theorem step_of_goesUnder {combine : Operator → α → α → α} {s : Registers α} {op : Operator}
    {a : α} (h : op.GoesUnder s.op) :
    s.step combine op a = { s with right := combine op s.right a } := by
  rw [step, if_pos (Operator.climbs_iff.mpr h)]

theorem step_of_not_goesUnder {combine : Operator → α → α → α} {s : Registers α} {op : Operator}
    {a : α} (h : ¬ op.GoesUnder s.op) : s.step combine op a = ⟨s.close combine, op, a⟩ := by
  rw [step, if_neg (mt Operator.climbs_iff.mp h)]

/-! ### Trees in the registers -/

/-- A step of the registers is a step of building. -/
theorem close_step (s : Registers Expr) (op : Operator) (x : Float) :
    (s.step operation op (number x)).close operation = (s.close operation).extend op x := by
  by_cases h : op.GoesUnder s.op
  · rw [step_of_goesUnder h, close, close, extend_of_goesUnder h]
  · rw [step_of_not_goesUnder h, close, close, extend_of_not_goesUnder]
    intro root hroot
    cases hroot
    exact h

end Registers

/-- The tree of an expression is what two registers with trees in them end at. -/
theorem builtTree_eq_run (x : Float) (op : Operator) (y : Float) (ps : List (Operator × Float)) :
    builtTree x ((op, y) :: ps) = Registers.run operation number x op y ps := by
  show ps.foldl (fun t p => t.extend p.1 p.2)
    (Registers.close operation ⟨number x, op, number y⟩) = _
  exact List.foldl_hom (Registers.close operation)
    fun s (p : Operator × Float) => (s.close_step p.1 p.2).symm

/-! ### Two runs side by side -/

namespace Registers

variable {α β ν : Type}

/-- Two pairs of registers with one operator and related operands. -/
structure Related (R : α → β → Prop) (s : Registers α) (s' : Registers β) : Prop where
  left : R s.left s'.left
  op : s.op = s'.op
  right : R s.right s'.right

section

variable {R : α → β → Prop} {f : Operator → α → α → α} {g : Operator → β → β → β}
  (hR : ∀ op a b a' b', R a a' → R b b' → R (f op a b) (g op a' b'))
include hR

theorem Related.close {s : Registers α} {s' : Registers β} (h : Related R s s') :
    R (s.close f) (s'.close g) := by
  rw [Registers.close, Registers.close, h.op]
  exact hR _ _ _ _ _ h.left h.right

theorem Related.step {s : Registers α} {s' : Registers β} (h : Related R s s') (op : Operator)
    {a : α} {b : β} (hab : R a b) : Related R (s.step f op a) (s'.step g op b) := by
  by_cases hg : op.GoesUnder s.op
  · rw [step_of_goesUnder hg, step_of_goesUnder (h.op ▸ hg)]
    exact ⟨h.left, h.op, hR _ _ _ _ _ h.right hab⟩
  · rw [step_of_not_goesUnder hg, step_of_not_goesUnder (h.op ▸ hg)]
    exact ⟨h.close hR, rfl, hab⟩

/-- Runs that combine related operands to related ones end at related ones. -/
theorem run_rel {ι : ν → α} {κ : ν → β} (hι : ∀ x, R (ι x) (κ x)) (x : ν) (op : Operator) (y : ν)
    (ps : List (Operator × ν)) : R (run f ι x op y ps) (run g κ x op y ps) := by
  have hstart : Related R (⟨ι x, op, ι y⟩ : Registers α) ⟨κ x, op, κ y⟩ := ⟨hι x, rfl, hι y⟩
  have hend := List.foldl_rel (l := ps) hstart fun p _ s s' h => h.step hR p.1 (hι p.2)
  exact hend.close hR

end

end Registers

/-! ### Evaluating what was built -/

/-- The registers with numbers in them follow the values of the registers with trees. -/
theorem value_run (apply : Operator → Float → Float → Float) (x : Float) (op : Operator) (y : Float)
    (ps : List (Operator × Float)) :
    (Registers.run operation number x op y ps).value (.ofOperators apply) =
      .ok (Registers.run apply id x op y ps) := by
  refine Registers.run_rel (R := fun (t : Expr) a => t.value (.ofOperators apply) = .ok a)
    ?_ ?_ x op y ps
  · intro op l r a b hl hr
    exact value_operation_eq_ok_iff.mpr ⟨a, b, hl, hr, rfl⟩
  · intro x
    rfl

/-- **Building and evaluating is one run of two registers**: an expression with an operator is read
into the tree that two registers end at, and under any meaning of the operators the value of that
tree is what the same run gives on numbers. -/
theorem parse_and_evaluate_eq_run {source : List Char} {ts : List Token} {x y : Float}
    {op : Operator} {ps : List (Operator × Float)} (h : tokenize source = .ok ts)
    (hts : ts.map Token.lexeme = chain x ((op, y) :: ps)) :
    ∃ t, parse source = .ok t ∧ t = Registers.run operation number x op y ps ∧
      (∀ apply : Operator → Float → Float → Float,
        (evaluate (.ofOperators apply) t).outcome = .ok (Registers.run apply id x op y ps)) ∧
      (calculate source).outcome = .ok (Registers.run Operator.apply id x op y ps) := by
  have hgrow := growTree_chain hts
  rw [builtTree_eq_run] at hgrow
  have hparse : parse source = .ok (Registers.run operation number x op y ps) := by
    refine parse_of_growTree h hgrow ?_
    -- the registers end at an operation
    intro hhole
    cases hhole
  refine ⟨_, hparse, rfl, ?_, ?_⟩
  · intro apply
    rw [evaluate_outcome, value_run]
  · rw [calculate_of_parse_ok hparse, value_run]
    rfl

/-- In `2+3*4^5` the power is carried out on the product of the right register. -/
theorem parse_and_evaluate_eq_run_raisedText :
    tokenize raisedText = .ok raisedTokens ∧
      raisedTokens.map Token.lexeme = chain (figureNumber '2') raisedPairs ∧
      ∃ t, parse raisedText = .ok t ∧
        t = operation .add (number (figureNumber '2'))
          (operation .pow (operation .mul (number (figureNumber '3')) (number (figureNumber '4')))
            (number (figureNumber '5'))) ∧
        ∀ apply : Operator → Float → Float → Float,
          (evaluate (.ofOperators apply) t).outcome =
            .ok (apply .add (figureNumber '2')
              (apply .pow (apply .mul (figureNumber '3') (figureNumber '4'))
                (figureNumber '5'))) := by
  refine ⟨tokenize_raisedText, rfl, ?_⟩
  obtain ⟨t, hparse, ht, hvalue, -⟩ := parse_and_evaluate_eq_run tokenize_raisedText
    (show raisedTokens.map Token.lexeme = chain (figureNumber '2')
      ((.add, figureNumber '3') :: [(.mul, figureNumber '4'), (.pow, figureNumber '5')]) from rfl)
  exact ⟨t, hparse, ht, hvalue⟩

end LineCalculator
