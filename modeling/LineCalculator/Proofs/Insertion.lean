/-
What one token does to a tree.

`Takes t w t'` lists the five ways in which a tree takes a token in; a proof about trees under
construction is one case for each of them.  Whether a tree takes a token at all depends on its
free slot alone (`Tree.slot`), and the slot after a token depends on that token and on the operator
at the root:

* `takes_iff` — the relation is what `Tree.insert?` computes;
* `insert?_number_eq_none`, `insert?_operator_eq_none` — a number is refused by a full tree, an
  operator by one whose root lacks its right operand;
* `Takes.slot_number`, `Takes.rootSymbol_number`, `Takes.slot_operator` — the slot and the root
  that a token leaves.
-/
import LineCalculator.Tree.Insertion

open LineCalculator.Tree

namespace LineCalculator

/-- Whether an operator binds tighter than the one at the root, or as tightly and to the right. -/
def Operator.GoesUnder (op root : Operator) : Prop :=
  root.precedence < op.precedence ∨ (op = .pow ∧ root = .pow)

instance (op root : Operator) : Decidable (op.GoesUnder root) :=
  inferInstanceAs (Decidable (_ ∨ _))

theorem Operator.climbs_iff {op root : Operator} :
    op.climbs root = true ↔ op.GoesUnder root := by
  cases op <;> cases root <;> decide

namespace Tree

variable {σ ν : Type}

/-- The operation at the root of a tree, if there is one. -/
def rootSymbol? : Tree σ ν → Option σ
  | operation s _ _ => some s
  | _ => none

@[simp] theorem rootSymbol?_hole : (hole : Tree σ ν).rootSymbol? = none := rfl

@[simp] theorem rootSymbol?_number (x : ν) : (number x : Tree σ ν).rootSymbol? = none := rfl

@[simp] theorem rootSymbol?_operation (s : σ) (l r : Tree σ ν) :
    (operation s l r).rootSymbol? = some s := rfl

end Tree

/-- Where a tree under construction has room for a number. -/
inductive Slot where
  | whole
  | root
  | below
  | full
deriving DecidableEq, Repr

namespace Tree

/-- The free slot of a tree: the whole tree, the right operand of its root, or the right operand of
the operation that stands there. -/
def slot : Expr → Slot
  | hole => .whole
  | operation _ _ hole => .root
  | operation _ _ (operation _ _ hole) => .below
  | _ => .full

@[simp] theorem slot_hole : (hole : Expr).slot = .whole := rfl

@[simp] theorem slot_number (x : Float) : (number x : Expr).slot = .full := rfl

@[simp] theorem slot_operation_hole (op : Operator) (l : Expr) :
    (operation op l hole).slot = .root := rfl

@[simp] theorem slot_operation_number (op : Operator) (l : Expr) (x : Float) :
    (operation op l (number x)).slot = .full := rfl

@[simp] theorem slot_operation_operation_hole (op op' : Operator) (l l' : Expr) :
    (operation op l (operation op' l' hole)).slot = .below := rfl

@[simp] theorem slot_operation_operation_number (op op' : Operator) (l l' : Expr) (x : Float) :
    (operation op l (operation op' l' (number x))).slot = .full := rfl

theorem slot_operation_ne_root {op : Operator} {l r : Expr} (h : r ≠ hole) :
    (operation op l r).slot ≠ .root := by
  unfold slot
  split
  next => simp
  next heq => exact absurd (by cases heq; rfl) h
  next => simp
  next => simp

end Tree

/-- The ways in which a tree takes a token in. -/
inductive Takes : Expr → Lexeme → Expr → Prop
  | first (x : Float) : Takes hole (.number x) (number x)
  | atRoot (op : Operator) (l : Expr) (x : Float) :
      Takes (operation op l hole) (.number x) (operation op l (number x))
  | belowRoot (op : Operator) (l : Expr) (op' : Operator) (l' : Expr) (x : Float) :
      Takes (operation op l (operation op' l' hole)) (.number x)
        (operation op l (operation op' l' (number x)))
  | climb {op root : Operator} {l r : Expr} (hr : r ≠ hole) (hc : op.GoesUnder root) :
      Takes (operation root l r) (.operator op) (operation root l (operation op r hole))
  | enclose {op : Operator} {t : Expr} (hs : t.slot ≠ .root)
      (hc : ∀ root, t.rootSymbol? = some root → ¬ op.GoesUnder root) :
      Takes t (.operator op) (operation op t hole)

theorem takes_of_fill {t t' : Expr} {x : Float} (h : t.fill? x = some t') :
    Takes t (.number x) t' := by
  unfold Tree.fill? at h
  split at h
  · cases h
    exact .first x
  · cases h
    exact .atRoot _ _ x
  · cases h
    exact .belowRoot _ _ _ _ x
  · cases h

theorem takes_of_splice {t : Expr} {op : Operator} {how : Option Splice}
    (h : t.splice? op = some how) : Takes t (.operator op) (t.spliced op how) := by
  unfold Tree.splice? at h
  split at h
  · cases h
    exact .enclose (by simp) (by simp)
  · cases h
    exact .enclose (by simp) (by simp)
  · cases h
  next root l r hr =>
    -- the only tree whose root is looked at: an operation with a right operand
    cases h
    by_cases hc : op.climbs root = true
    · rw [if_pos hc]
      exact .climb hr (Operator.climbs_iff.mp hc)
    · rw [if_neg hc]
      refine .enclose (slot_operation_ne_root hr) ?_
      intro root' h'
      cases h'
      exact mt Operator.climbs_iff.mpr hc

theorem splice_of_climb {op root : Operator} {l r : Expr} (hr : r ≠ hole)
    (hc : op.GoesUnder root) :
    (operation root l r).splice? op = some (some (.climbed op root)) := by
  have hc' := Operator.climbs_iff.mpr hc
  cases r with
  | hole => exact absurd rfl hr
  | number x => simp [splice?, hc']
  | operation op' l' r' => simp [splice?, hc']

theorem splice_of_enclose {op : Operator} {t : Expr} (hs : t.slot ≠ .root)
    (hc : ∀ root, t.rootSymbol? = some root → ¬ op.GoesUnder root) :
    t.splice? op = some none ∨ t.splice? op = some (some (.enclosed op)) := by
  match t with
  | hole => exact .inl rfl
  | number x => exact .inr rfl
  | operation root l r =>
    have hc' := mt Operator.climbs_iff.mp (hc root rfl)
    match r with
    | hole => exact absurd rfl hs
    | number x => exact .inr (by simp [splice?, hc'])
    | operation _ _ _ => exact .inr (by simp [splice?, hc'])

/-- The relation is what insertion computes. -/
theorem takes_iff {t t' : Expr} {w : Lexeme} :
    Takes t w t' ↔ ∃ how, t.insert? w = some (t', how) := by
  constructor
  · intro h
    cases h with
    | first x => exact ⟨none, rfl⟩
    | atRoot op l x => exact ⟨none, rfl⟩
    | belowRoot op l op' l' x => exact ⟨none, rfl⟩
    | climb hr hc => exact ⟨_, by rw [insert?, splice_of_climb hr hc]; rfl⟩
    | enclose hs hc =>
      rcases splice_of_enclose hs hc with h | h
      · exact ⟨none, by rw [insert?, h]; rfl⟩
      · exact ⟨_, by rw [insert?, h]; rfl⟩
  · rintro ⟨how, h⟩
    cases w with
    | number x =>
      obtain ⟨grown, hg, hp⟩ := Option.map_eq_some_iff.mp h
      cases hp
      exact takes_of_fill hg
    | operator op =>
      obtain ⟨how', hs, hp⟩ := Option.map_eq_some_iff.mp h
      cases hp
      exact takes_of_splice hs

/-- No token empties a tree. -/
theorem ne_hole_of_insert {t t' : Expr} {w : Lexeme} {how : Option Splice}
    (h : t.insert? w = some (t', how)) : t' ≠ hole := by
  have htakes : Takes t w t' := takes_iff.mpr ⟨how, h⟩
  cases htakes <;> simp

/-! ### Refused tokens -/

/-- A number is refused by a tree without a free slot. -/
theorem insert?_number_eq_none {t : Expr} {x : Float} :
    t.insert? (.number x) = none ↔ t.slot = .full := by
  show (t.fill? x).map _ = none ↔ _
  rw [Option.map_eq_none_iff]
  unfold Tree.fill? slot
  split <;> simp_all

/-- An operator is refused by a tree whose root waits for its right operand. -/
theorem insert?_operator_eq_none {t : Expr} {op : Operator} :
    t.insert? (.operator op) = none ↔ t.slot = .root := by
  show (t.splice? op).map _ = none ↔ _
  rw [Option.map_eq_none_iff]
  unfold Tree.splice?
  split
  next => simp
  next => simp
  next => simp
  next root l r hr => simpa using slot_operation_ne_root hr

/-! ### The tree after a token -/

theorem Takes.slot_number {t t' : Expr} {x : Float} (h : Takes t (.number x) t') :
    t'.slot = .full := by
  cases h <;> rfl

theorem Takes.rootSymbol_number {t t' : Expr} {x : Float} (h : Takes t (.number x) t') :
    t'.rootSymbol? = t.rootSymbol? := by
  cases h <;> rfl

/-- An operator that goes under the root leaves the slot below the root, and one that encloses the
tree the slot at it. -/
theorem Takes.slot_operator {t t' : Expr} {op : Operator} (h : Takes t (.operator op) t') :
    (t'.slot = .below ∧ ∃ root, t.rootSymbol? = some root ∧ op.GoesUnder root ∧
        t'.rootSymbol? = some root) ∨
      (t'.slot = .root ∧ (∀ root, t.rootSymbol? = some root → ¬ op.GoesUnder root) ∧
        t'.rootSymbol? = some op) := by
  cases h with
  | climb hr hc => exact .inl ⟨rfl, _, rfl, hc, rfl⟩
  | enclose hs hc => exact .inr ⟨rfl, hc, rfl⟩

end LineCalculator
