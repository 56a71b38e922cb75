/-
Trees and the order of their tokens.

`Tree.inorder` reads a tree from left to right.  Taking a token in puts it behind all others, so
the tree of a text has the tokens of the text in their order, each once
(`inorder_of_parse`), wherever operands are absent.

Which operands are absent can be told from that order alone: a tree lacks none if and only if
numbers and operators alternate in it, a number at either end (`isComplete_iff_alternates`).
-/
import LineCalculator.Proofs.Building

open LineCalculator.Tree

namespace LineCalculator

namespace Tree

/-- The numbers and operators of a tree from left to right. -/
def inorder : Expr → List Lexeme
  | hole => []
  | number x => [.number x]
  | operation op l r => l.inorder ++ .operator op :: r.inorder

/-- Whether no operand is absent. -/
def IsComplete {σ ν : Type} : Tree σ ν → Prop
  | hole => False
  | number _ => True
  | operation _ l r => l.IsComplete ∧ r.IsComplete

@[simp] theorem inorder_hole : (hole : Expr).inorder = [] := rfl

@[simp] theorem inorder_number (x : Float) : (number x : Expr).inorder = [.number x] := rfl

@[simp] theorem inorder_operation (op : Operator) (l r : Expr) :
    (operation op l r).inorder = l.inorder ++ .operator op :: r.inorder := rfl

end Tree

/-- A token that is taken in stands behind all others. -/
theorem Takes.inorder_eq {t t' : Expr} {w : Lexeme} (h : Takes t w t') :
    t'.inorder = t.inorder ++ [w] := by
  cases h with
  | first x => rfl
  | atRoot op l x => simp
  | belowRoot op l op' l' x => simp
  | climb hr hc => simp
  | enclose hs hc => simp

theorem inorder_of_growTree {ts : List Token} {t : Expr} (h : growTree .hole ts = .ok t) :
    t.inorder = ts.map Token.lexeme := by
  refine growTree_induct (P := fun ws t => t.inorder = ws) rfl ?_ h
  intro ws t w t' hP hT
  rw [hT.inorder_eq, hP]

/-- **No token is lost, duplicated or reordered**: the tree that a text is read into, read from left
to right, is the list of the text's tokens. -/
theorem inorder_of_parse {source : List Char} {t : Expr} (h : parse source = .ok t) :
    ∃ ts, tokenize source = .ok ts ∧ t.inorder = ts.map Token.lexeme := by
  obtain ⟨ts, hts, hg, -⟩ := tokenize_of_parse h
  exact ⟨ts, hts, inorder_of_growTree hg⟩

theorem inorder_of_parse_crowdedText :
    parse crowdedText = .ok crowdedTree ∧ ¬ crowdedTree.IsComplete ∧
      ∃ ts, tokenize crowdedText = .ok ts ∧ crowdedTree.inorder = ts.map Token.lexeme :=
  ⟨parse_crowdedText, fun h => h.2.1.2, inorder_of_parse parse_crowdedText⟩

/-! ### Alternation -/

/-- Whether a list is a number followed by any number of pairs of an operator and a number. -/
inductive Alternates : List Lexeme → Prop
  | number (x : Float) : Alternates [.number x]
  | pair (x : Float) (op : Operator) {w : List Lexeme} (h : Alternates w) :
      Alternates (.number x :: .operator op :: w)

theorem Alternates.append {u v : List Lexeme} (hu : Alternates u) (op : Operator)
    (hv : Alternates v) : Alternates (u ++ .operator op :: v) := by
  induction hu with
  | number x => exact .pair x op hv
  | pair x op' h ih => exact .pair x op' ih

theorem Alternates.of_append {u v : List Lexeme} {op : Operator}
    (h : Alternates (u ++ .operator op :: v)) : Alternates u ∧ Alternates v := by
  match u, h with
  | [], h => cases h
  | [.operator _], h => cases h
  | [.number x], h =>
    cases h with
    | pair _ _ h => exact ⟨.number x, h⟩
  | .number x :: .operator op' :: u, h =>
    -- the first pair belongs to the left part as a whole
    cases h with
    | pair _ _ h =>
      obtain ⟨hu, hv⟩ := Alternates.of_append h
      exact ⟨.pair x op' hu, hv⟩

/-- A tree lacks no operand if and only if numbers and operators alternate in it. -/
theorem isComplete_iff_alternates (t : Expr) : t.IsComplete ↔ Alternates t.inorder := by
  induction t with
  | hole =>
    refine ⟨False.elim, ?_⟩
    intro h
    cases h
  | number x => exact ⟨fun _ => .number x, fun _ => trivial⟩
  | operation op l r ihl ihr =>
    constructor
    · rintro ⟨hl, hr⟩
      exact (ihl.mp hl).append op (ihr.mp hr)
    · intro h
      obtain ⟨hl, hr⟩ := Alternates.of_append h
      exact ⟨ihl.mpr hl, ihr.mpr hr⟩

end LineCalculator
