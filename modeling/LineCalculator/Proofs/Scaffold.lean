/-
Scaffolds and their trees.

A token changes a scaffold by a new cell and an assignment or two, and its tree by a new node.  The
two go together: what a scaffold builds takes the token in in the same way, or refuses it as well.
An operator that climbs moves the cells on the right of the root below the new one, whether they are
complete or not, and these are behind all others; so the new cell stands behind them in the tree as
it does in the scaffold.

* `Cells.Hangs.forms` — the tree of a cell that has come to refer to a new one;
* `Scaffold.Builds.insert` — a scaffold takes a token in as its tree does;
* `Scaffold.ofTokens_alike` — the scaffold of a list of tokens has the tree of the list;
* `Cursor.scaffold_alike` — a cursor builds a scaffold of the tree that it builds.
-/
import LineCalculator.Proofs.Ownership
import LineCalculator.Proofs.Pulling

open LineCalculator.Tree

namespace LineCalculator

namespace Tree

theorem insert?_operation {r : Expr} (hr : r ≠ hole) (root op : Operator) (l : Expr) :
    (operation root l r).insert? (.operator op) =
      some (if op.climbs root then
        (operation root l (operation op r hole), some (.climbed op root))
      else ((operation root l r).enclose op, some (.enclosed op))) := by
  have hsplice : (operation root l r).splice? op =
      some (some (if op.climbs root then .climbed op root else .enclosed op)) := by
    cases r with
    | hole => exact absurd rfl hr
    | number y => rfl
    | operation op' l' r' => rfl
  rw [Tree.insert?, hsplice]
  split <;> rfl

end Tree

namespace Cells

variable {cells cells' : Cells} {i : Option Nat} {ps : List Nat}

/-! ### A new cell -/

/-- Whether cells are those before with a new one behind them, to which the cell at a place has come
to refer as its right operand. -/
structure Hangs (cells : Cells) (place : Nat) (new : Cell) (cells' : Cells) : Prop where
  size_eq : cells'.size = cells.size + 1
  added : cells'[cells.size]? = some new
  changed : cells'[place]? = cells[place]?.map fun c => { c with right := some cells.size }
  kept : ∀ p < cells.size, p ≠ place → cells'[p]? = cells[p]?

theorem hangs_setRight {place : Nat} {c : Cell} (hplace : place < cells.size)
    (hsize : cells'.size = cells.size + 1) (hadded : cells'[cells.size]? = some c)
    (hkept : ∀ p < cells.size, cells'[p]? = cells[p]?) :
    cells.Hangs place c (cells'.setRight place cells.size) where
  size_eq := (size_setRight ..).trans hsize
  added := by rw [getElem?_setRight, if_neg (Nat.ne_of_lt hplace), hadded]
  changed := by rw [getElem?_setRight, if_pos rfl, hkept place hplace]
  kept p hp hne := by rw [getElem?_setRight, if_neg hne.symm, hkept p hp]

/-- What the new cell is the root of becomes the right operand. -/
theorem Hangs.forms {place : Nat} {c : Cell} {op : Operator} {j : Option Nat} {l u : Expr}
    {us : List Nat} (h : cells.Hangs place c cells')
    (hplace : cells[place]? = some ⟨.operator op, i, j⟩) (hl : cells.Forms i l ps)
    (hps : ∀ p ∈ ps, p < cells.size ∧ p ≠ place) (hu : cells'.Forms (some cells.size) u us) :
    cells'.Forms (some place) (operation op l u) (ps ++ place :: us) := by
  have hchanged : cells'[place]? = some ⟨.operator op, i, some cells.size⟩ := by
    rw [h.changed, hplace]
    rfl
  refine .operation hchanged (hl.congr ?_) hu
  intro p hp
  exact h.kept p (hps p hp).1 (hps p hp).2

end Cells

namespace Scaffold

section Builds

variable {s s' : Scaffold} {t : Expr}

/-! ### One token -/

theorem getElem?_enclose (op : Operator) (s : Scaffold) (p : Nat) :
    (s.enclose op).cells[p]? =
      if p = s.cells.size then some ⟨.operator op, some s.root, none⟩ else s.cells[p]? := by
  rw [Scaffold.enclose, Cells.getElem?_setLeft, Cells.getElem?_add]
  by_cases hp : p = s.cells.size
  · subst hp
    rw [if_pos rfl, if_pos rfl, if_pos rfl]
    rfl
  · rw [if_neg (Ne.symm hp), if_neg hp, if_neg hp]

theorem hangs_climb (h : s.root < s.cells.size) (op : Operator) (operand : Nat) :
    s.cells.Hangs s.root ⟨.operator op, some operand, none⟩ (s.climb op operand).cells := by
  refine Cells.hangs_setRight h (by simp) ?_ ?_
  · rw [Cells.getElem?_setLeft, if_pos rfl, Cells.getElem?_add, if_pos rfl]
    rfl
  · intro p hp
    rw [Cells.getElem?_setLeft, if_neg (Nat.ne_of_gt hp), Cells.getElem?_add,
      if_neg (Nat.ne_of_lt hp)]

theorem hangs_fill {place : Nat} (h : place < s.cells.size) (x : Float) :
    s.cells.Hangs place ⟨.number x, none, none⟩ (s.fill x place).cells := by
  refine Cells.hangs_setRight h (by simp) ?_ ?_
  · rw [Cells.getElem?_add, if_pos rfl]
    rfl
  · intro p hp
    rw [Cells.getElem?_add, if_neg (Nat.ne_of_lt hp)]

/-- The places on either side of one of the first places. -/
theorem apart_of_range_eq {n p : Nat} {ps qs : List Nat} (h : List.range n = ps ++ p :: qs) :
    (∀ q ∈ ps, q < n ∧ q ≠ p) ∧ p < n ∧ ∀ q ∈ qs, q < n ∧ q ≠ p := by
  have hlt : ∀ q ∈ ps ++ p :: qs, q < n := fun q hq => List.mem_range.mp (h ▸ hq)
  have hnodup : (ps ++ p :: qs).Nodup := h ▸ List.nodup_range
  obtain ⟨hp, -⟩ := List.nodup_cons.mp (List.perm_middle.nodup_iff.mp hnodup)
  rw [List.mem_append, not_or] at hp
  refine ⟨fun q hq => ⟨hlt q (by simp [hq]), ?_⟩, hlt p (by simp),
    fun q hq => ⟨hlt q (by simp [hq]), ?_⟩⟩
  · rintro rfl
    exact hp.1 hq
  · rintro rfl
    exact hp.2 hq

/-- The root of a scaffold that builds an operation, and its operands. -/
theorem Builds.cases_operation {op : Operator} {l r : Expr} (h : s.Builds (operation op l r)) :
    ∃ i j ps qs, s.cells[s.root]? = some ⟨.operator op, i, j⟩ ∧ s.cells.Forms i l ps ∧
      s.cells.Forms j r qs ∧ List.range s.cells.size = ps ++ s.root :: qs := by
  rw [Builds] at h
  generalize List.range s.cells.size = places at h ⊢
  cases h with
  | operation h hl hr => exact ⟨_, _, _, _, h, hl, hr, rfl⟩

theorem Builds.enclose (h : s.Builds t) (op : Operator) : (s.enclose op).Builds (t.enclose op) := by
  have hsize : (s.enclose op).cells.size = s.cells.size + 1 := by simp [Scaffold.enclose]
  have hnew : (s.enclose op).cells[s.cells.size]? = some ⟨.operator op, some s.root, none⟩ := by
    rw [getElem?_enclose, if_pos rfl]
  rw [Builds, hsize, List.range_succ]
  refine .operation hnew (Cells.Forms.congr h ?_) .absent
  intro p hp
  rw [getElem?_enclose, if_neg (Nat.ne_of_lt (List.mem_range.mp hp))]

/-- Climbing moves the right operand of the root below the new cell, be it complete or not. -/
theorem Builds.climb {root op : Operator} {l r : Expr} {i : Nat}
    (h : s.Builds (operation root l r)) (hi : s.cells.right? s.root = some i) :
    (s.climb op i).Builds (operation root l (operation op r hole)) := by
  obtain ⟨j, k, ps, qs, hroot, hl, hr, hrange⟩ := h.cases_operation
  obtain rfl : k = some i := by simpa [Cells.right?, hroot] using hi
  obtain ⟨hps, hlt, hqs⟩ := apart_of_range_eq hrange
  have hangs := hangs_climb hlt op i
  rw [Builds, hangs.size_eq, List.range_succ, hrange, List.append_assoc, List.cons_append]
  refine hangs.forms hroot hl hps (.operation hangs.added (hr.congr ?_) .absent)
  intro p hp
  exact hangs.kept p (hqs p hp).1 (hqs p hp).2

/-- A number becomes the right operand of the root. -/
theorem Builds.fill_root {op : Operator} {l : Expr} (h : s.Builds (operation op l hole))
    (x : Float) : (s.fill x s.root).Builds (operation op l (number x)) := by
  obtain ⟨i, j, ps, qs, hroot, hl, hr, hrange⟩ := h.cases_operation
  cases hr
  obtain ⟨hps, hlt, -⟩ := apart_of_range_eq hrange
  have hangs := hangs_fill hlt x
  rw [Builds, hangs.size_eq, List.range_succ, hrange, List.append_assoc, List.cons_append]
  exact hangs.forms hroot hl hps (.number hangs.added)

/-- A number becomes the right operand of the operation that stands on the right of the root. -/
theorem Builds.fill_below {op op' : Operator} {l l' : Expr} {i : Nat}
    (h : s.Builds (operation op l (operation op' l' hole)))
    (hi : s.cells.right? s.root = some i) (x : Float) :
    (s.fill x i).Builds (operation op l (operation op' l' (number x))) := by
  obtain ⟨j, k, ps, qs, hroot, hl, hr, hrange⟩ := h.cases_operation
  obtain rfl : k = some i := by simpa [Cells.right?, hroot] using hi
  cases hr with
  | @operation _ _ _ _ _ _ ps' qs' hp hl' hhole =>
    cases hhole
    -- the cell that is filled is the last one, so all others stand before it
    have hsplit : List.range s.cells.size = (ps ++ s.root :: ps') ++ i :: [] := by
      rw [hrange, List.append_assoc, List.cons_append]
    obtain ⟨hbefore, hlt, -⟩ := apart_of_range_eq hsplit
    have hangs := hangs_fill hlt x
    have hkeep : ∀ q ∈ ps ++ s.root :: ps', (s.fill x i).cells[q]? = s.cells[q]? := fun q hq =>
      hangs.kept q (hbefore q hq).1 (hbefore q hq).2
    have hbelow := hangs.forms hp hl' (fun q hq => hbefore q (by simp [hq])) (.number hangs.added)
    rw [Builds, hangs.size_eq, List.range_succ, hsplit, List.append_assoc, List.append_assoc,
      List.cons_append]
    exact .operation ((hkeep s.root (by simp)).trans hroot)
      (hl.congr fun q hq => hkeep q (by simp [hq])) hbelow

/-- Whether a scaffold and a tree have come out of the same insertion. -/
def Agrees (a : Scaffold × Option Splice) (b : Expr × Option Splice) : Prop :=
  a.1.Builds b.1 ∧ a.2 = b.2

theorem Builds.insert_operator (h : s.Builds t) (op : Operator) :
    Option.Rel Agrees (s.insert? (.operator op)) (t.insert? (.operator op)) := by
  have hsymbol : s.cells.symbol? s.root = t.rootSymbol? := Cells.Forms.symbol?_eq h
  have henclose := h.enclose op
  cases t with
  | hole => exact absurd rfl h.ne_hole
  | number y =>
    rw [insert?, insertOperator?, hsymbol]
    exact .some ⟨henclose, rfl⟩
  | operation root l r =>
    obtain ⟨j, qs, hright, hr⟩ := Cells.Forms.exists_right h
    rw [rootSymbol?_operation] at hsymbol
    rw [insert?, insertOperator?, hsymbol, hright]
    cases j with
    | none =>
      cases hr
      exact .none
    | some i =>
      rw [insert?_operation (mt hr.eq_none_iff.mpr (by simp)) root op l]
      by_cases hc : op.climbs root = true
      · simp only [hc, if_true]
        exact .some ⟨h.climb hright, rfl⟩
      · simp only [hc]
        exact .some ⟨henclose, rfl⟩

theorem Builds.insert_number (h : s.Builds t) (x : Float) :
    Option.Rel Agrees (s.insert? (.number x)) (t.insert? (.number x)) := by
  have hsymbol : s.cells.symbol? s.root = t.rootSymbol? := Cells.Forms.symbol?_eq h
  cases t with
  | hole => exact absurd rfl h.ne_hole
  | number y =>
    rw [insert?, insertNumber?, hsymbol]
    exact .none
  | operation op l r =>
    obtain ⟨j, qs, hright, hr⟩ := Cells.Forms.exists_right h
    rw [rootSymbol?_operation] at hsymbol
    rw [insert?, insertNumber?, hsymbol, hright]
    cases j with
    | none =>
      cases hr
      exact .some ⟨h.fill_root x, rfl⟩
    | some i =>
      have hbelow := hr.symbol?_eq
      cases r with
      | hole => exact absurd (hr.eq_none_iff.mpr rfl) (by simp)
      | number y =>
        simp only [hbelow]
        exact .none
      | operation op' l' r' =>
        obtain ⟨k, rs, hright', hr'⟩ := hr.exists_right
        simp only [hbelow, hright', rootSymbol?_operation]
        cases hr' with
        | absent => exact .some ⟨h.fill_below hright x, rfl⟩
        | number => exact .none
        | operation => exact .none

/-- **A scaffold takes a token in as its tree does**, or refuses it with it. -/
theorem Builds.insert (h : s.Builds t) (w : Lexeme) :
    Option.Rel Agrees (s.insert? w) (t.insert? w) := by
  cases w with
  | number x => exact h.insert_number x
  | operator op => exact h.insert_operator op

theorem Builds.exists_insert {w : Lexeme} {how : Option Splice} (h : s.Builds t)
    (hs : s.insert? w = some (s', how)) : ∃ t', t.insert? w = some (t', how) ∧ s'.Builds t' := by
  have hinsert := h.insert w
  rw [hs] at hinsert
  generalize t.insert? w = b at hinsert ⊢
  cases hinsert with
  | @some _ b hagrees =>
    obtain ⟨hgrown, rfl⟩ := hagrees
    exact ⟨b.1, rfl, hgrown⟩

theorem Builds.insert_eq_none {w : Lexeme} (h : s.Builds t) (hs : s.insert? w = none) :
    t.insert? w = none := by
  have hinsert := h.insert w
  rw [hs] at hinsert
  generalize t.insert? w = b at hinsert ⊢
  cases hinsert
  rfl

end Builds

/-! ### A row of tokens -/

/-- The scaffold that a list of tokens continues a scaffold to, or the fault at the first token that
it refuses. -/
def grow (s : Scaffold) : List Token → Except ParseError Scaffold
  | [] => .ok s
  | t :: ts =>
    match s.insert? t.lexeme with
    | some (grown, _) => grown.grow ts
    | none => .error (.malformed t.position)

/-- The scaffold of a finished list of tokens. -/
def ofTokens : List Token → Except ParseError Scaffold
  | [] => .error .empty
  | t :: ts => (first t.lexeme).grow ts

/-- Whether a scaffold and a tree have come out of the same tokens, or the same fault. -/
inductive Alike : Except ParseError Scaffold → Except ParseError Expr → Prop
  | ok {s : Scaffold} {t : Expr} (h : s.Builds t) : Alike (.ok s) (.ok t)
  | error (e : ParseError) : Alike (.error e) (.error e)

theorem Alike.exists_of_ok {s : Scaffold} {b : Except ParseError Expr} (h : Alike (.ok s) b) :
    ∃ t, b = .ok t ∧ s.Builds t := by
  cases h with
  | ok h => exact ⟨_, rfl, h⟩

theorem Alike.eq_of_error {e : ParseError} {b : Except ParseError Expr} (h : Alike (.error e) b) :
    b = .error e := by
  cases h
  rfl

/-- A first token is a scaffold of one cell. -/
theorem builds_first (w : Lexeme) :
    ∃ t how, (hole : Expr).insert? w = some (t, how) ∧ (first w).Builds t := by
  cases w with
  | number x => exact ⟨number x, none, rfl, .number rfl⟩
  | operator op => exact ⟨operation op hole hole, none, rfl, .operation rfl .absent .absent⟩

theorem Builds.grow {s : Scaffold} {t : Expr} (h : s.Builds t) (ts : List Token) :
    Alike (s.grow ts) (growTree t ts) := by
  induction ts generalizing s t with
  | nil => exact .ok h
  | cons u ts ih =>
    rw [Scaffold.grow]
    rcases hs : s.insert? u.lexeme with _ | ⟨grown, how⟩
    · rw [growTree_cons_of_refused (h.insert_eq_none hs)]
      exact .error _
    · obtain ⟨t', ht, hgrown⟩ := h.exists_insert hs
      rw [growTree_cons_of_insert ht]
      exact ih hgrown

/-- The scaffold of a list of tokens has the tree of the list, and is refused with it. -/
theorem ofTokens_alike (ts : List Token) : Alike (ofTokens ts) (build ts) := by
  cases ts with
  | nil => exact .error .empty
  | cons u ts =>
    obtain ⟨t, how, hinsert, hfirst⟩ := builds_first u.lexeme
    have hgrow := hfirst.grow ts
    rw [ofTokens, build, growTree_cons_of_insert hinsert]
    generalize (first u.lexeme).grow ts = a, growTree t ts = b at hgrow ⊢
    cases hgrow with
    | error e => exact .error e
    | @ok _ t' h =>
      show Alike _ (atEnd t')
      rw [atEnd_of_ne_hole h.ne_hole]
      exact .ok h

end Scaffold

/-! ### A cursor -/

namespace Cursor

open Scaffold

section Grow

variable {c after : Cursor} {root grown : Expr} {u : Token} {how : Option Splice}

theorem grow_of_insert (h : c.nextToken = (.ok (some u), after))
    (hi : root.insert? u.lexeme = some (grown, how)) : c.grow root = after.grow grown := by
  rw [grow]
  split
  next h' =>
    rw [h] at h'
    cases h'
    simp only [hi]
  next h' => rw [h] at h'; cases h'
  next h' => rw [h] at h'; cases h'

theorem grow_of_refused (h : c.nextToken = (.ok (some u), after))
    (hi : root.insert? u.lexeme = none) :
    c.grow root = (.error (.malformed u.position), after) := by
  rw [grow]
  split
  next h' =>
    rw [h] at h'
    cases h'
    simp only [hi]
  next h' => rw [h] at h'; cases h'
  next h' => rw [h] at h'; cases h'

theorem grow_of_finished (h : c.nextToken = (.ok none, after)) :
    c.grow root = (atEnd root, after) := by
  rw [grow]
  split
  next h' => rw [h] at h'; cases h'
  next h' =>
    rw [h] at h'
    cases h'
    rfl
  next h' => rw [h] at h'; cases h'

theorem grow_of_error {e : ParseError} (h : c.nextToken = (.error e, after)) :
    c.grow root = (.error e, after) := by
  rw [grow]
  split
  next h' => rw [h] at h'; cases h'
  next h' => rw [h] at h'; cases h'
  next h' =>
    rw [h] at h'
    cases h'
    rfl

end Grow

/-- A cursor continues a scaffold as it continues the tree of it, and stops at the same place. -/
theorem extend_alike (c : Cursor) {s : Scaffold} {t : Expr} (h : s.Builds t) :
    Alike (c.extend s).1 (c.grow t).1 ∧ (c.extend s).2 = (c.grow t).2 := by
  fun_induction extend c s generalizing t with
  | case1 c s u after hnext grown how hs ih =>
    obtain ⟨t', ht, hgrown⟩ := h.exists_insert hs
    rw [grow_of_insert hnext ht]
    exact ih hgrown
  | case2 c s u after hnext hs =>
    rw [grow_of_refused hnext (h.insert_eq_none hs)]
    exact ⟨.error _, rfl⟩
  | case3 c s after hnext =>
    rw [grow_of_finished hnext, atEnd_of_ne_hole h.ne_hole]
    exact ⟨.ok h, rfl⟩
  | case4 c s e after hnext =>
    rw [grow_of_error hnext]
    exact ⟨.error e, rfl⟩

/-- A cursor builds a scaffold of the tree that it builds, or meets the same fault, and stops at the
same place. -/
theorem scaffold_alike (c : Cursor) :
    Alike c.scaffold.1 c.build.1 ∧ c.scaffold.2 = c.build.2 := by
  rw [scaffold, build]
  split
  next u after hnext =>
    obtain ⟨t, how, hinsert, hfirst⟩ := builds_first u.lexeme
    rw [grow_of_insert hnext hinsert]
    exact after.extend_alike hfirst
  next after hnext =>
    rw [grow_of_finished hnext]
    exact ⟨.error _, rfl⟩
  next e after hnext =>
    rw [grow_of_error hnext]
    exact ⟨.error e, rfl⟩

end Cursor

end LineCalculator
