/-
The conventional reading of an expression.

The grammar here is the usual one, told by which tokens a tree is read from: a power is a number or
a number raised to a power (`IsPower`), a product is a row of powers (`IsProduct`), and a sum a row
of products (`IsSum`), where a row groups to the left (`LeftRow`).  It is independent of the way in
which trees are built.

* `isSum_unique` — the grammar is unambiguous;
* `isSum_chain_iff` — the numbers and operators of an expression have exactly one conventional
  tree, `conventional`, which is built by letting every new operator go down the right edge of the
  tree as far as it binds tighter;
* `IsSum.not_raisesOperation` — in a conventional tree only numbers are raised to a power.
-/
import LineCalculator.Proofs.Insertion
import Mathlib.Data.List.Induction

open LineCalculator.Tree

namespace LineCalculator

/-- Whether an operator is a sign of sums. -/
def Operator.IsAdditive (op : Operator) : Prop := op = .add ∨ op = .sub

/-- Whether an operator is a sign of products. -/
def Operator.IsMultiplicative (op : Operator) : Prop := op = .mul ∨ op = .div

instance (op : Operator) : Decidable op.IsAdditive := inferInstanceAs (Decidable (_ ∨ _))

instance (op : Operator) : Decidable op.IsMultiplicative := inferInstanceAs (Decidable (_ ∨ _))

namespace Operator

theorem isAdditive_or_isMultiplicative_or_eq_pow (op : Operator) :
    op.IsAdditive ∨ op.IsMultiplicative ∨ op = .pow := by
  cases op <;> decide

theorem IsAdditive.not_isMultiplicative {op : Operator} (h : op.IsAdditive) :
    ¬ op.IsMultiplicative := by
  rcases h with rfl | rfl <;> decide

theorem IsAdditive.not_goesUnder {op : Operator} (h : op.IsAdditive) (root : Operator) :
    ¬ op.GoesUnder root := by
  rcases h with rfl | rfl <;> cases root <;> decide

theorem IsMultiplicative.goesUnder_iff {op root : Operator} (h : op.IsMultiplicative) :
    op.GoesUnder root ↔ root.IsAdditive := by
  rcases h with rfl | rfl <;> cases root <;> decide

theorem pow_goesUnder (root : Operator) : pow.GoesUnder root := by
  cases root <;> decide

end Operator

/-! ### The grammar -/

/-- Rows of operands with operators of one kind between them, grouped to the left. -/
inductive LeftRow (P : Operator → Prop) (Operand : List Lexeme → Expr → Prop) :
    List Lexeme → Expr → Prop
  | single {w t} (h : Operand w t) : LeftRow P Operand w t
  | more {w v l r op} (hl : LeftRow P Operand w l) (hop : P op) (hr : Operand v r) :
      LeftRow P Operand (w ++ .operator op :: v) (.operation op l r)

/-- A number, or a number raised to a power. -/
inductive IsPower : List Lexeme → Expr → Prop
  | number (x : Float) : IsPower [.number x] (.number x)
  | raise (x : Float) {w t} (h : IsPower w t) :
      IsPower (.number x :: .operator .pow :: w) (.operation .pow (.number x) t)

/-- A row of powers. -/
def IsProduct : List Lexeme → Expr → Prop := LeftRow Operator.IsMultiplicative IsPower

/-- A row of products. -/
def IsSum : List Lexeme → Expr → Prop := LeftRow Operator.IsAdditive IsProduct

/-! ### The grammar is unambiguous -/

/-- Whether a list of tokens has no operator of a kind. -/
def Lacks (P : Operator → Prop) (w : List Lexeme) : Prop :=
  ∀ op, P op → .operator op ∉ w

/-- A list falls apart at its last operator of a kind in one way only. -/
theorem eq_of_append_operator_eq {P : Operator → Prop} {u u' v v' : List Lexeme}
    {op op' : Operator} (h : u ++ .operator op :: v = u' ++ .operator op' :: v') (hop : P op)
    (hop' : P op') (hv : Lacks P v) (hv' : Lacks P v') : u = u' ∧ op = op' ∧ v = v' := by
  -- the two splits stand at one place, or one of the operators stands in the other's last part
  rcases List.append_eq_append_iff.mp h with ⟨_ | ⟨a, s⟩, hu, hs⟩ | ⟨_ | ⟨a, s⟩, hu, hs⟩
  · cases hs
    exact ⟨by simpa using hu.symm, rfl, rfl⟩
  · cases hs
    exact absurd (by simp) (hv op' hop')
  · cases hs
    exact ⟨by simpa using hu, rfl, rfl⟩
  · cases hs
    exact absurd (by simp) (hv' op hop)

section LeftRow

variable {P : Operator → Prop} {Operand : List Lexeme → Expr → Prop}

theorem LeftRow.lacks {Q : Operator → Prop} (hPQ : ∀ op, P op → ¬ Q op)
    (hO : ∀ w t, Operand w t → Lacks Q w) {w : List Lexeme} {t : Expr}
    (h : LeftRow P Operand w t) : Lacks Q w := by
  induction h with
  | single h => exact hO _ _ h
  | more hl hop hr ih =>
    intro op' hop' hmem
    rcases List.mem_append.mp hmem with hmem | hmem
    · exact ih op' hop' hmem
    · rcases List.mem_cons.mp hmem with heq | hmem
      · cases heq
        exact hPQ _ hop hop'
      · exact hO _ _ hr op' hop' hmem

theorem LeftRow.unique (hO : ∀ w t, Operand w t → Lacks P w)
    (huniq : ∀ w t t', Operand w t → Operand w t' → t = t') {w : List Lexeme} {t t' : Expr}
    (h : LeftRow P Operand w t) (h' : LeftRow P Operand w t') : t = t' := by
  induction h generalizing t' with
  | single h =>
    cases h' with
    | single h' => exact huniq _ _ _ h h'
    | more hl hop hr => exact absurd (by simp) (hO _ _ h _ hop)
  | @more w v l r op hl hop hr ih =>
    -- the list of `h'` is not in the shape of a row, so it gets a name before the case split
    generalize hw : w ++ .operator op :: v = w' at h'
    cases h' with
    | single h' =>
      subst hw
      exact absurd (by simp) (hO _ _ h' _ hop)
    | more hl' hop' hr' =>
      obtain ⟨rfl, rfl, rfl⟩ := eq_of_append_operator_eq hw hop hop' (hO _ _ hr) (hO _ _ hr')
      rw [ih hl', huniq _ _ _ hr hr']

end LeftRow

theorem IsPower.lacks {P : Operator → Prop} (hP : ¬ P .pow) {w : List Lexeme} {t : Expr}
    (h : IsPower w t) : Lacks P w := by
  induction h with
  | number x =>
    intro op hop hmem
    simp at hmem
  | raise x h ih =>
    intro op hop hmem
    simp only [List.mem_cons, reduceCtorEq, Lexeme.operator.injEq, false_or] at hmem
    rcases hmem with rfl | hmem
    · exact hP hop
    · exact ih op hop hmem

theorem isPower_unique {w : List Lexeme} {t t' : Expr} (h : IsPower w t) (h' : IsPower w t') :
    t = t' := by
  induction h generalizing t' with
  | number x =>
    cases h'
    rfl
  | raise x h ih =>
    cases h' with
    | raise _ h' => rw [ih h']

theorem isProduct_unique {w : List Lexeme} {t t' : Expr} (h : IsProduct w t)
    (h' : IsProduct w t') : t = t' :=
  LeftRow.unique (fun _ _ => IsPower.lacks (by decide)) (fun _ _ _ => isPower_unique) h h'

theorem IsProduct.lacks_additive {w : List Lexeme} {t : Expr} (h : IsProduct w t) :
    Lacks Operator.IsAdditive w :=
  LeftRow.lacks (fun _ hm ha => ha.not_isMultiplicative hm)
    (fun _ _ => IsPower.lacks (by decide)) h

/-- No list of tokens has two conventional trees. -/
theorem isSum_unique {w : List Lexeme} {t t' : Expr} (h : IsSum w t) (h' : IsSum w t') : t = t' :=
  LeftRow.unique (fun _ _ => IsProduct.lacks_additive) (fun _ _ _ => isProduct_unique) h h'

/-! ### One more operator and number -/

namespace Tree

/-- The tree with an operator and a number at its right end: the operator goes down the right edge
as far as it binds tighter. -/
def attach (op : Operator) (x : Float) : Expr → Expr
  | operation root l r =>
    if op.GoesUnder root then operation root l (r.attach op x)
    else operation op (operation root l r) (number x)
  | t => operation op t (number x)

theorem attach_of_goesUnder {op root : Operator} {x : Float} {l r : Expr}
    (h : op.GoesUnder root) :
    (operation root l r).attach op x = operation root l (r.attach op x) := by
  rw [attach, if_pos h]

theorem attach_of_not_goesUnder {op : Operator} {x : Float} {t : Expr}
    (h : ∀ root, t.rootSymbol? = some root → ¬ op.GoesUnder root) :
    t.attach op x = operation op t (number x) := by
  cases t with
  | hole => rfl
  | number y => rfl
  | operation root l r => rw [attach, if_neg (h root rfl)]

end Tree

/-- An operator that goes under all signs of a row is attached to the last operand of the row. -/
theorem LeftRow.attach {P : Operator → Prop} {Operand : List Lexeme → Expr → Prop} {op : Operator}
    {x : Float} {v : List Lexeme} (hunder : ∀ root, P root → op.GoesUnder root)
    (hO : ∀ w t, Operand w t → Operand (w ++ v) (t.attach op x)) {w : List Lexeme} {t : Expr}
    (h : LeftRow P Operand w t) : LeftRow P Operand (w ++ v) (t.attach op x) := by
  cases h with
  | single h => exact .single (hO _ _ h)
  | more hl hop hr =>
    rw [attach_of_goesUnder (hunder _ hop), List.append_assoc]
    exact .more hl hop (hO _ _ hr)

theorem IsPower.rootSymbol {w : List Lexeme} {t : Expr} (h : IsPower w t) {root : Operator}
    (hroot : t.rootSymbol? = some root) : root = .pow := by
  cases h with
  | number x => cases hroot
  | raise x h =>
    cases hroot
    rfl

theorem IsProduct.rootSymbol {w : List Lexeme} {t : Expr} (h : IsProduct w t) {root : Operator}
    (hroot : t.rootSymbol? = some root) : ¬ root.IsAdditive := by
  cases h with
  | single h =>
    rw [h.rootSymbol hroot]
    decide
  | more hl hop hr =>
    cases hroot
    exact fun ha => ha.not_isMultiplicative hop

theorem IsPower.attach_pow {w : List Lexeme} {t : Expr} (h : IsPower w t) (x : Float) :
    IsPower (w ++ [.operator .pow, .number x]) (t.attach .pow x) := by
  induction h with
  | number y => exact .raise y (.number x)
  | raise y h ih =>
    rw [attach_of_goesUnder (Operator.pow_goesUnder _)]
    exact .raise y ih

theorem IsProduct.attach_of_isMultiplicative {w : List Lexeme} {t : Expr} (h : IsProduct w t)
    {op : Operator} (hop : op.IsMultiplicative) (x : Float) :
    IsProduct (w ++ [.operator op, .number x]) (t.attach op x) := by
  rw [attach_of_not_goesUnder fun root hroot => by
    rw [hop.goesUnder_iff]
    exact h.rootSymbol hroot]
  exact .more h hop (.number x)

/-- Attaching an operator and a number to a conventional tree leaves it conventional. -/
theorem IsSum.attach {w : List Lexeme} {t : Expr} (h : IsSum w t) (op : Operator) (x : Float) :
    IsSum (w ++ [.operator op, .number x]) (t.attach op x) := by
  -- a sign of sums stays on top, one of products goes to the last product, a power to the last power
  rcases op.isAdditive_or_isMultiplicative_or_eq_pow with hop | hop | rfl
  · rw [attach_of_not_goesUnder fun root _ => hop.not_goesUnder root]
    exact .more h hop (.single (.number x))
  · exact LeftRow.attach (fun root hroot => hop.goesUnder_iff.mpr hroot)
      (fun _ _ hp => IsProduct.attach_of_isMultiplicative hp hop x) h
  · exact LeftRow.attach (fun root _ => Operator.pow_goesUnder root)
      (fun _ _ hp => LeftRow.attach (fun root _ => Operator.pow_goesUnder root)
        (fun _ _ hq => hq.attach_pow x) hp) h

/-! ### The conventional tree -/

/-- The tokens of an expression: a number, and pairs of an operator and a number. -/
def chain (x : Float) (ps : List (Operator × Float)) : List Lexeme :=
  .number x :: ps.flatMap fun p => [.operator p.1, .number p.2]

theorem chain_snoc (x : Float) (ps : List (Operator × Float)) (p : Operator × Float) :
    chain x (ps ++ [p]) = chain x ps ++ [.operator p.1, .number p.2] := by
  simp [chain]

/-- The conventional tree of an expression. -/
def conventional (x : Float) (ps : List (Operator × Float)) : Expr :=
  ps.foldl (fun t p => t.attach p.1 p.2) (.number x)

theorem conventional_snoc (x : Float) (ps : List (Operator × Float)) (p : Operator × Float) :
    conventional x (ps ++ [p]) = (conventional x ps).attach p.1 p.2 := by
  rw [conventional, List.foldl_append]
  rfl

theorem isSum_conventional (x : Float) (ps : List (Operator × Float)) :
    IsSum (chain x ps) (conventional x ps) := by
  induction ps using List.reverseRecOn with
  | nil => exact .single (.single (.number x))
  | append_singleton ps p ih =>
    rw [chain_snoc, conventional_snoc]
    exact ih.attach p.1 p.2

/-- An expression has exactly one conventional tree. -/
theorem isSum_chain_iff {x : Float} {ps : List (Operator × Float)} {t : Expr} :
    IsSum (chain x ps) t ↔ t = conventional x ps := by
  constructor
  · intro h
    exact isSum_unique h (isSum_conventional x ps)
  · rintro rfl
    exact isSum_conventional x ps

/-! ### Raised operations -/

/-- Whether some power of a tree has an operation as its base. -/
def RaisesOperation : Expr → Prop
  | operation op l r =>
    (op = .pow ∧ l.rootSymbol?.isSome) ∨ RaisesOperation l ∨ RaisesOperation r
  | _ => False

theorem not_raisesOperation_operation {op : Operator} {l r : Expr} (hop : op ≠ .pow)
    (hl : ¬ RaisesOperation l) (hr : ¬ RaisesOperation r) :
    ¬ RaisesOperation (operation op l r) := by
  rintro (⟨h, -⟩ | h | h)
  · exact hop h
  · exact hl h
  · exact hr h

theorem LeftRow.not_raisesOperation {P : Operator → Prop} {Operand : List Lexeme → Expr → Prop}
    (hP : ¬ P .pow) (hO : ∀ w t, Operand w t → ¬ RaisesOperation t) {w : List Lexeme} {t : Expr}
    (h : LeftRow P Operand w t) : ¬ RaisesOperation t := by
  induction h with
  | single h => exact hO _ _ h
  | more hl hop hr ih =>
    refine not_raisesOperation_operation ?_ ih (hO _ _ hr)
    rintro rfl
    exact hP hop

theorem IsPower.not_raisesOperation {w : List Lexeme} {t : Expr} (h : IsPower w t) :
    ¬ RaisesOperation t := by
  induction h with
  | number x => exact id
  | raise x h ih =>
    rintro (⟨-, h⟩ | h | h)
    · cases h
    · exact h
    · exact ih h

/-- In a conventional tree only numbers are raised to a power. -/
theorem IsSum.not_raisesOperation {w : List Lexeme} {t : Expr} (h : IsSum w t) :
    ¬ RaisesOperation t :=
  LeftRow.not_raisesOperation (by decide)
    (fun _ _ => LeftRow.not_raisesOperation (by decide) fun _ _ => IsPower.not_raisesOperation) h

end LineCalculator
