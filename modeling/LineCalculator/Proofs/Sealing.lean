/-
Sealing is exact.

A finished scaffold is walked from a stack, and its nodes wait in a dictionary under the places of
their cells.  Since the cells form a tree, no two operands stand under one place: what a cell that
waits leaves behind is its node alone, whatever waits below it and whatever else is in the
dictionary.  So the walk comes to an end, finds what it looks for, and makes the tree that recursion
makes.

* `Sealing.run_operand` — what the walk over an operand does;
* `Scaffold.Builds.sealed_eq` — at the end the node of the root is all that the dictionary holds;
* `owned_and_sealed` — what holds of the cells after every token, and what they are sealed into;
* `Cursor.build_eq_sealed` — a cursor builds what its scaffold is sealed into.
-/
import Mathlib.Data.List.Nodup
import LineCalculator.Proofs.Scaffold
import LineCalculator.Tree.Sealing

open LineCalculator.Tree

namespace LineCalculator

/-! ### The dictionary -/

namespace Sealed

/-- The places that have a node in the dictionary. -/
def places (d : Sealed) : List Nat :=
  d.map Prod.fst

/-- The node of an operand, if there is one. -/
def ofOperand (operand : Option Nat) (t : Expr) : Sealed :=
  operand.toList.map (·, t)

section Fresh

variable {place : Nat} {front d : Sealed}

theorem without_of_fresh (h : place ∉ d.places) : d.without place = d := by
  rw [without, List.filter_eq_self]
  intro e he
  rw [bne_iff_ne]
  rintro rfl
  exact h (List.mem_map_of_mem he)

theorem lookup_of_fresh (h : place ∉ d.places) : d.lookup place = none := by
  rw [List.lookup_eq_none_iff]
  intro e he
  rw [bne_iff_ne]
  rintro rfl
  exact h (List.mem_map_of_mem he)

theorem put_of_fresh (h : place ∉ d.places) (t : Expr) : d.put place t = (place, t) :: d := by
  rw [put, without_of_fresh h]

theorem pop?_of_fresh (hfront : place ∉ front.places) (h : place ∉ d.places) (t : Expr) :
    pop? place (front ++ (place, t) :: d) = some (t, front ++ d) := by
  have hlookup : (front ++ (place, t) :: d).lookup place = some t := by
    rw [List.lookup_append, lookup_of_fresh hfront, Option.none_or, List.lookup_cons_self]
  have hrest : without place (front ++ (place, t) :: d) = front ++ d := by
    rw [without, List.filter_append, List.filter_cons_of_neg (by simp)]
    exact congrArg₂ _ (without_of_fresh hfront) (without_of_fresh h)
  rw [pop?, hlookup, hrest]
  rfl

end Fresh

end Sealed

/-! ### The walk -/

namespace Sealing

variable {cells : Cells} {i : Option Nat} {t : Expr} {ps : List Nat} {d : Sealed}

theorem places_ofOperand_subset (h : cells.Forms i t ps) : (Sealed.ofOperand i t).places ⊆ ps := by
  cases i with
  | none => exact List.nil_subset ps
  | some p => exact List.cons_subset.mpr ⟨h.root_mem, List.nil_subset ps⟩

/-- The node of an operand is found wherever it stands in the dictionary. -/
theorem takeOperand_eq (h : cells.Forms i t ps) (front : Sealed)
    (hfront : ps.Disjoint front.places) (hd : ps.Disjoint d.places) :
    takeOperand i (front ++ (Sealed.ofOperand i t ++ d)) = .ok (t, front ++ d) := by
  cases i with
  | none =>
    obtain rfl := h.eq_none_iff.mp rfl
    rfl
  | some p =>
    have hpop := Sealed.pop?_of_fresh (hfront h.root_mem) (hd h.root_mem) t
    simp [takeOperand, Sealed.ofOperand, hpop]

theorem run_eq_of_turn {place : Nat} {isDone : Bool} {waiting : List (Nat × Bool)} {s : Sealing}
    (h : turn cells place isDone ⟨waiting, d⟩ = .ok s) :
    run cells ⟨(place, isDone) :: waiting, d⟩ = run cells s := by
  rw [run]
  simp only [h]

theorem turn_number {p : Nat} {x : Float} {s : Sealing} (isDone : Bool)
    (h : cells[p]? = some ⟨.number x, none, none⟩) :
    turn cells p isDone s = .ok { s with sealed := s.sealed.put p (number x) } := by
  rw [turn, h]

/-- The operands of a cell come before it, the left one first. -/
theorem turn_operands {p : Nat} {op : Operator} {j : Option Nat} {s : Sealing}
    (h : cells[p]? = some ⟨.operator op, i, j⟩) :
    turn cells p false s =
      .ok { s with
        waiting :=
          i.toList.map (·, false) ++ (j.toList.map (·, false) ++ (p, true) :: s.waiting) } := by
  rw [turn, h]
  simp [Cell.operands]

/-- When the operands of a cell are done, their nodes go below that of the cell. -/
theorem turn_operation {p : Nat} {op : Operator} {j : Option Nat} {l r : Expr} {s : Sealing}
    {d₁ d₂ : Sealed} (h : cells[p]? = some ⟨.operator op, i, j⟩)
    (hl : takeOperand i s.sealed = .ok (l, d₁)) (hr : takeOperand j d₁ = .ok (r, d₂)) :
    turn cells p true s = .ok { s with sealed := d₂.put p (operation op l r) } := by
  rw [turn, h]
  simp only [if_true, hl]
  show (takeOperand j d₁).bind _ = _
  rw [hr]
  rfl

/-- An operand that waits is walked, and its node is all that is left of it. -/
theorem run_operand (h : cells.Forms i t ps) (hnodup : ps.Nodup) (hd : ps.Disjoint d.places)
    (waiting : List (Nat × Bool)) :
    run cells ⟨i.toList.map (·, false) ++ waiting, d⟩ =
      run cells ⟨waiting, Sealed.ofOperand i t ++ d⟩ := by
  induction h generalizing waiting d with
  | absent => rfl
  | @number p x h =>
    have hturn := turn_number (s := ⟨waiting, d⟩) false h
    rw [Sealed.put_of_fresh (List.singleton_disjoint.mp hd)] at hturn
    exact run_eq_of_turn hturn
  | @operation p op i j l r ps qs h hl hr ihl ihr =>
    obtain ⟨hps, hqs, hapart⟩ := List.nodup_append'.mp hnodup
    obtain ⟨-, hapart⟩ := List.disjoint_cons_right.mp hapart
    obtain ⟨hdl, hdr⟩ := List.disjoint_append_left.mp hd
    obtain ⟨hdp, hdr⟩ := List.disjoint_cons_left.mp hdr
    -- the nodes of the two operands stand under different places
    have hright : ps.Disjoint (Sealed.ofOperand j r).places :=
      List.disjoint_of_subset_right (places_ofOperand_subset hr) hapart
    have hleft : qs.Disjoint (Sealed.ofOperand i l).places :=
      List.disjoint_of_subset_right (places_ofOperand_subset hl) (List.disjoint_symm hapart)
    have hboth : qs.Disjoint (Sealed.ofOperand i l ++ d).places := by
      rw [Sealed.places, List.map_append, List.disjoint_append_right]
      exact ⟨hleft, hdr⟩
    have htakeLeft := takeOperand_eq hl _ hright hdl
    have htakeRight := takeOperand_eq hr [] (List.disjoint_nil_right qs) hdr
    let rest := (p, true) :: waiting
    calc run cells ⟨(p, false) :: waiting, d⟩
        = run cells ⟨i.toList.map (·, false) ++ (j.toList.map (·, false) ++ rest), d⟩ :=
          run_eq_of_turn (turn_operands h)
      _ = run cells ⟨j.toList.map (·, false) ++ rest, Sealed.ofOperand i l ++ d⟩ :=
          ihl hps hdl _
      _ = run cells ⟨rest, Sealed.ofOperand j r ++ (Sealed.ofOperand i l ++ d)⟩ :=
          ihr hqs.of_cons hboth _
      _ = run cells ⟨waiting, d.put p (operation op l r)⟩ :=
          run_eq_of_turn (turn_operation h htakeLeft htakeRight)
      _ = run cells ⟨waiting, (p, operation op l r) :: d⟩ := by rw [Sealed.put_of_fresh hdp]

end Sealing

/-! ### Finished scaffolds -/

/-- The tree of the cell that a reference leads to, by recursion; `none` if a reference leads to no
cell, or the recursion never ends. -/
def Cells.tree? (cells : Cells) (operand : Option Nat) : Option Expr :=
  match operand with
  | none => return .hole
  | some place => do
    let cell ← cells[place]?
    match cell.lexeme with
    | .number x => return .number x
    | .operator op =>
      let l ← cells |>.tree? cell.left
      let r ← cells |>.tree? cell.right
      return .operation op l r
partial_fixpoint

/-- The tree that cells form is found by recursion. -/
theorem Cells.Forms.tree?_eq {cells : Cells} {i : Option Nat} {t : Expr} {ps : List Nat}
    (h : cells.Forms i t ps) : cells.tree? i = some t := by
  induction h with
  | absent => rw [tree?]; rfl
  | number h =>
    rw [tree?]
    simp [h]
  | operation h _ _ ihl ihr =>
    rw [tree?]
    simp [h, ihl, ihr]

namespace Scaffold

variable {s : Scaffold} {t : Expr}

/-- The walk over a scaffold ends with the node of its root in the dictionary, and no other one. -/
theorem Builds.sealed_eq (h : s.Builds t) : s.sealed = some (.ok [(s.root, t)]) := by
  have hrun := Sealing.run_operand (d := []) h List.nodup_range (List.disjoint_nil_right _) []
  rw [sealed]
  refine hrun.trans ?_
  rw [Sealing.run]
  rfl

theorem Builds.sealedTree_eq (h : s.Builds t) : s.sealedTree = some (.ok t) := by
  rw [sealedTree, h.sealed_eq]
  simp [Except.bind]

end Scaffold

/-- **Every cell has one owner, and sealing is exact.**  After any tokens at the front of a list, as
long as none is refused, there is a cell for each of them in their order, each cell has one owner,
and together they are the tree below the root.  If all tokens are taken in, the walk over the cells
comes to an end, finds every node that it looks for, and leaves that of the root alone in the
dictionary; it is the tree that recursion over the cells makes, and the tree of the list.  If a
token is refused, the list has the same fault. -/
theorem owned_and_sealed (ts : List Token) :
    (∀ us s, us <+: ts → Scaffold.ofTokens us = .ok s →
      s.cells.toList.map Cell.lexeme = us.map Token.lexeme ∧ s.IsOwned) ∧
    (∀ s, Scaffold.ofTokens ts = .ok s →
      ∃ t, s.sealed = some (.ok [(s.root, t)]) ∧ s.sealedTree = some (.ok t) ∧
        s.cells.tree? (some s.root) = some t ∧ build ts = .ok t) ∧
    ∀ e, Scaffold.ofTokens ts = .error e → build ts = .error e := by
  refine ⟨?_, ?_, ?_⟩
  · intro us s _ hs
    obtain ⟨t, hbuild, hbuilds⟩ := (hs ▸ Scaffold.ofTokens_alike us).exists_of_ok
    have htokens := inorder_of_growTree (growTree_of_build hbuild)
    exact ⟨hbuilds.lexemes_eq.trans htokens, hbuilds.isOwned⟩
  · intro s hs
    obtain ⟨t, hbuild, hbuilds⟩ := (hs ▸ Scaffold.ofTokens_alike ts).exists_of_ok
    exact ⟨t, hbuilds.sealed_eq, hbuilds.sealedTree_eq, Cells.Forms.tree?_eq hbuilds, hbuild⟩
  · intro e he
    exact (he ▸ Scaffold.ofTokens_alike ts).eq_of_error

/-- The cells of the crowded text: the product was moved below the quotient while it lacked its
right operand. -/
def crowdedScaffold : Scaffold :=
  ⟨#[⟨.number (figureNumber '1'), none, none⟩, ⟨.operator .add, some 0, some 4⟩,
    ⟨.number (figureNumber '2'), none, none⟩, ⟨.operator .mul, some 2, none⟩,
    ⟨.operator .div, some 3, some 5⟩, ⟨.number (figureNumber '3'), none, none⟩], 1⟩

theorem owned_and_sealed_crowdedTokens :
    Scaffold.ofTokens crowdedTokens = .ok crowdedScaffold ∧ crowdedScaffold.IsOwned ∧
      crowdedScaffold.sealedTree = some (.ok crowdedTree) ∧
      Scaffold.ofTokens (crowdedTokens ++ crowdedTokens) = .error (.malformed 0) ∧
      build (crowdedTokens ++ crowdedTokens) = .error (.malformed 0) := by
  have hs : Scaffold.ofTokens crowdedTokens = .ok crowdedScaffold := rfl
  have hbuild : build crowdedTokens = .ok crowdedTree := rfl
  have he : Scaffold.ofTokens (crowdedTokens ++ crowdedTokens) = .error (.malformed 0) := rfl
  obtain ⟨howned, hsealed, -⟩ := owned_and_sealed crowdedTokens
  obtain ⟨-, -, hrefused⟩ := owned_and_sealed (crowdedTokens ++ crowdedTokens)
  obtain ⟨t, -, htree, -, ht⟩ := hsealed crowdedScaffold hs
  rw [hbuild] at ht
  cases ht
  exact ⟨hs, (howned crowdedTokens _ List.prefix_rfl hs).2, htree, he, hrefused _ he⟩

/-- A cursor builds the tree that its scaffold is sealed into, or meets the same fault, and stops at
the same place. -/
theorem Cursor.build_eq_sealed (c : Cursor) :
    c.build.2 = c.scaffold.2 ∧
      (∀ s, c.scaffold.1 = .ok s → ∃ t, s.sealedTree = some (.ok t) ∧ c.build.1 = .ok t) ∧
      ∀ e, c.scaffold.1 = .error e → c.build.1 = .error e := by
  obtain ⟨halike, hplace⟩ := c.scaffold_alike
  refine ⟨hplace.symm, ?_, ?_⟩
  · intro s hs
    obtain ⟨t, hbuild, hbuilds⟩ := (hs ▸ halike).exists_of_ok
    exact ⟨t, hbuilds.sealedTree_eq, hbuild⟩
  · intro e he
    exact (he ▸ halike).eq_of_error

end LineCalculator
