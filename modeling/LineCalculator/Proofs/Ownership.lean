/-
Cells that have one owner each.

The cells of a scaffold refer to one another by their places.  Where the cells at certain places,
from left to right, form a tree (`Cells.Forms`), each of them is referred to once, by the cell above
it or as the root, and references lead to smaller and smaller trees.  A scaffold under construction
is in order if the tree takes up all its cells, in the order in which they were made
(`Scaffold.Builds`).

* `Cells.Forms.perm` — the references in a tree lead to each of its cells once;
* `Cells.Forms.reaches_iff`, `Cells.Forms.not_transGen` — the cells of a tree are those that can be
  reached from its root, and none is reached from itself;
* `Scaffold.Builds.isOwned` — every cell of a scaffold that builds a tree has one owner.
-/
import Mathlib.Data.List.Basic
import Mathlib.Data.Option.Basic
import Mathlib.Logic.Relation
import LineCalculator.Proofs.Traversal
import LineCalculator.Tree.Scaffold

open scoped List
open LineCalculator.Tree Relation

namespace LineCalculator

/-! ### Cells that form a tree -/

namespace Cells

/-- Whether the cells at some places, from left to right, form a tree whose root is where a
reference leads to. -/
inductive Forms (cells : Cells) : Option Nat → Expr → List Nat → Prop
  | absent : Forms cells none hole []
  | number {p : Nat} {x : Float} (h : cells[p]? = some ⟨.number x, none, none⟩) :
      Forms cells (some p) (number x) [p]
  | operation {p : Nat} {op : Operator} {i j : Option Nat} {l r : Expr} {ps qs : List Nat}
      (h : cells[p]? = some ⟨.operator op, i, j⟩) (hl : Forms cells i l ps)
      (hr : Forms cells j r qs) : Forms cells (some p) (operation op l r) (ps ++ p :: qs)

/-- The places that the cell at a place refers to. -/
def operandsAt (cells : Cells) (place : Nat) : List Nat :=
  (cells[place]?.map Cell.operands).getD []

/-- Whether the cell at a place refers to another place. -/
def Refers (cells : Cells) (p q : Nat) : Prop :=
  q ∈ cells.operandsAt p

/-- All references of cells to others, with those that occur more than once. -/
def references (cells : Cells) : List Nat :=
  (List.range cells.size).flatMap cells.operandsAt

section Forms

variable {cells cells' : Cells} {i : Option Nat} {t t' : Expr} {ps ps' : List Nat} {p q : Nat}

theorem operandsAt_of_getElem? {c : Cell} (h : cells[p]? = some c) :
    cells.operandsAt p = c.operands := by
  rw [operandsAt, h]
  rfl

/-- Cells that stay as they are form the same tree. -/
theorem Forms.congr (h : cells.Forms i t ps) (hkeep : ∀ p ∈ ps, cells'[p]? = cells[p]?) :
    cells'.Forms i t ps := by
  induction h with
  | absent => exact .absent
  | number h => exact .number ((hkeep _ (by simp)).trans h)
  | operation h _ _ ihl ihr =>
    refine .operation ((hkeep _ (by simp)).trans h) (ihl ?_) (ihr ?_)
    · intro p hp
      exact hkeep p (List.mem_append_left _ hp)
    · intro p hp
      exact hkeep p (List.mem_append_right _ (List.mem_cons_of_mem _ hp))

theorem Forms.root_mem (h : cells.Forms (some p) t ps) : p ∈ ps := by
  cases h <;> simp

theorem Forms.eq_none_iff (h : cells.Forms i t ps) : i = none ↔ t = hole := by
  cases h <;> simp

theorem Forms.symbol?_eq (h : cells.Forms (some p) t ps) : cells.symbol? p = t.rootSymbol? := by
  cases h with
  | number h => simp [symbol?, Cell.symbol?, h]
  | operation h => simp [symbol?, Cell.symbol?, h]

theorem Forms.exists_right {op : Operator} {l r : Expr}
    (h : cells.Forms (some p) (.operation op l r) ps) :
    ∃ j qs, cells.right? p = j ∧ cells.Forms j r qs := by
  cases h with
  | operation h _ hr => exact ⟨_, _, by simp [right?, h], hr⟩

/-- There is only one tree that the cells form below a reference. -/
theorem Forms.unique (h : cells.Forms i t ps) (h' : cells.Forms i t' ps') : t = t' := by
  induction h generalizing t' ps' with
  | absent =>
    cases h'
    rfl
  | number h =>
    cases h' with
    | number h' =>
      rw [h] at h'
      cases h'
      rfl
    | operation h' =>
      rw [h] at h'
      cases h'
  | operation h _ _ ihl ihr =>
    cases h' with
    | number h' =>
      rw [h] at h'
      cases h'
    | operation h' hl hr =>
      rw [h] at h'
      cases h'
      rw [ihl hl, ihr hr]

/-- The cells of a tree stand for what the tree holds from left to right. -/
theorem Forms.map_lexeme (h : cells.Forms i t ps) :
    ps.map (fun p => cells[p]?.map Cell.lexeme) = t.inorder.map some := by
  induction h with
  | absent => rfl
  | number h => simp [h]
  | operation h _ _ ihl ihr => simp [h, ihl, ihr]

/-! ### Who owns a cell -/

/-- The reference to the root and those between the cells of a tree lead to each of its cells
once. -/
theorem Forms.perm (h : cells.Forms i t ps) : i.toList ++ ps.flatMap cells.operandsAt ~ ps := by
  induction h with
  | absent => exact .refl _
  | number h => simp [operandsAt_of_getElem? h, Cell.operands]
  | @operation p op i j l r ps qs h _ _ ihl ihr =>
    have hoperands : cells.operandsAt p = i.toList ++ j.toList := operandsAt_of_getElem? h
    rw [List.flatMap_append, List.flatMap_cons, hoperands]
    refine (List.Perm.cons p ?_).trans List.perm_middle.symm
    calc ps.flatMap cells.operandsAt ++ (i.toList ++ j.toList ++ qs.flatMap cells.operandsAt)
        = ps.flatMap cells.operandsAt ++ i.toList ++
            (j.toList ++ qs.flatMap cells.operandsAt) := by simp only [List.append_assoc]
      _ ~ i.toList ++ ps.flatMap cells.operandsAt ++
            (j.toList ++ qs.flatMap cells.operandsAt) := List.perm_append_comm.append_right _
      _ ~ ps ++ qs := ihl.append ihr

/-- A cell of a tree refers to cells of the tree only. -/
theorem Forms.mem_of_refers (h : cells.Forms i t ps) (hp : p ∈ ps) (hq : cells.Refers p q) :
    q ∈ ps := by
  refine h.perm.subset (List.mem_append_right _ ?_)
  exact List.mem_flatMap.mpr ⟨p, hp, hq⟩

/-- Every cell of a tree can be reached from its root. -/
theorem Forms.reaches (h : cells.Forms i t ps) (hq : q ∈ ps) :
    ∃ p, i = some p ∧ ReflTransGen cells.Refers p q := by
  induction h with
  | absent => cases hq
  | number h =>
    obtain rfl := List.mem_singleton.mp hq
    exact ⟨_, rfl, .refl⟩
  | @operation p op i j l r ps qs h _ _ ihl ihr =>
    have hoperands : cells.operandsAt p = i.toList ++ j.toList := operandsAt_of_getElem? h
    refine ⟨p, rfl, ?_⟩
    rcases List.mem_append.mp hq with hq | hq
    · obtain ⟨p', rfl, hreach⟩ := ihl hq
      exact .head (show p' ∈ cells.operandsAt p by simp [hoperands]) hreach
    · rcases List.mem_cons.mp hq with rfl | hq
      · exact .refl
      · obtain ⟨p', rfl, hreach⟩ := ihr hq
        exact .head (show p' ∈ cells.operandsAt p by simp [hoperands]) hreach

theorem Forms.reaches_iff (h : cells.Forms (some p) t ps) :
    ReflTransGen cells.Refers p q ↔ q ∈ ps := by
  constructor
  · intro hreach
    induction hreach with
    | refl => exact h.root_mem
    | tail _ hrefers ih => exact h.mem_of_refers ih hrefers
  · intro hq
    obtain ⟨_, ⟨⟩, hreach⟩ := h.reaches hq
    exact hreach

/-- Below a cell of a tree there is a tree. -/
theorem Forms.exists_below (h : cells.Forms i t ps) (hp : p ∈ ps) :
    ∃ u us, cells.Forms (some p) u us := by
  induction h with
  | absent => cases hp
  | number h =>
    obtain rfl := List.mem_singleton.mp hp
    exact ⟨_, _, .number h⟩
  | operation h hl hr ihl ihr =>
    rcases List.mem_append.mp hp with hp | hp
    · exact ihl hp
    · rcases List.mem_cons.mp hp with rfl | hp
      · exact ⟨_, _, .operation h hl hr⟩
      · exact ihr hp

/-- What a cell refers to is the root of a smaller tree. -/
theorem Forms.below_of_refers (h : cells.Forms (some p) t ps) (hq : cells.Refers p q) :
    ∃ u us, cells.Forms (some q) u us ∧ u.size < t.size := by
  cases h with
  | number h => simp [Refers, operandsAt_of_getElem? h, Cell.operands] at hq
  | @operation _ op i j l r ps qs h hl hr =>
    rw [Refers, operandsAt_of_getElem? h, Cell.operands, List.mem_append, Option.mem_toList,
      Option.mem_toList] at hq
    rcases hq with rfl | rfl
    · exact ⟨l, ps, hl, by simp only [size]; omega⟩
    · exact ⟨r, qs, hr, by simp only [size]; omega⟩

/-- References lead to smaller and smaller trees. -/
theorem Forms.below_of_transGen (h : cells.Forms (some p) t ps)
    (hq : TransGen cells.Refers p q) : ∃ u us, cells.Forms (some q) u us ∧ u.size < t.size := by
  induction hq with
  | single hq => exact h.below_of_refers hq
  | tail _ hq ih =>
    obtain ⟨u, us, hu, hlt⟩ := ih
    obtain ⟨v, vs, hv, hlt'⟩ := hu.below_of_refers hq
    exact ⟨v, vs, hv, Nat.lt_trans hlt' hlt⟩

/-- No reference leads from a cell of a tree back to it. -/
theorem Forms.not_transGen (h : cells.Forms (some p) t ps) : ¬ TransGen cells.Refers p p := by
  intro hcycle
  obtain ⟨u, us, hu, hlt⟩ := h.below_of_transGen hcycle
  rw [hu.unique h] at hlt
  exact Nat.lt_irrefl _ hlt

theorem lt_size_of_refers (h : cells.Refers p q) : p < cells.size := by
  by_contra hle
  have hnone : cells[p]? = none := Array.getElem?_eq_none (Nat.le_of_not_lt hle)
  simp [Refers, operandsAt, hnone] at h

end Forms

end Cells

namespace Scaffold

/-- Whether every cell of a scaffold has one owner, and belongs to the tree below the root: the
references, that to the root among them, lead to each cell that there is once, all cells can be
reached from the root and nothing else can, and no reference leads back to where it came from. -/
structure IsOwned (s : Scaffold) : Prop where
  owned : s.root :: s.cells.references ~ List.range s.cells.size
  reached : ∀ p, ReflTransGen s.cells.Refers s.root p ↔ p < s.cells.size
  acyclic : ∀ p, ¬ TransGen s.cells.Refers p p

/-- Whether all cells of a scaffold, from left to right in the order in which they were made, form a
tree. -/
def Builds (s : Scaffold) (t : Expr) : Prop :=
  s.cells.Forms (some s.root) t (List.range s.cells.size)

section Builds

variable {s : Scaffold} {t : Expr}

theorem Builds.ne_hole (h : s.Builds t) : t ≠ hole :=
  mt (Cells.Forms.eq_none_iff h).mpr (by simp)

/-- The cells of a scaffold stand, in the order in which they were made, for what the tree holds
from left to right. -/
theorem Builds.lexemes_eq (h : s.Builds t) : s.cells.toList.map Cell.lexeme = t.inorder := by
  have hcells : (s.cells.toList.map Cell.lexeme).map some =
      (List.range s.cells.size).map fun p => s.cells[p]?.map Cell.lexeme := by
    refine List.ext_getElem (by simp) ?_
    intro k _ hk
    have hlt : k < s.cells.size := by simpa using hk
    simp [hlt]
  exact List.map_injective_iff.mpr (Option.some_injective _)
    (hcells.trans (Cells.Forms.map_lexeme h))

theorem Builds.isOwned (h : s.Builds t) : s.IsOwned where
  owned := Cells.Forms.perm h
  reached p := (Cells.Forms.reaches_iff h).trans List.mem_range
  acyclic p hcycle := by
    obtain ⟨q, hrefers, -⟩ := TransGen.head'_iff.mp hcycle
    have hp := List.mem_range.mpr (Cells.lt_size_of_refers hrefers)
    obtain ⟨u, us, hu⟩ := Cells.Forms.exists_below h hp
    exact hu.not_transGen hcycle

end Builds

end Scaffold

end LineCalculator
