/-
Tokens of one kind next to each other.

Two numbers in a row are always refused.  Of two operators in a row the second is refused only if
the first one has enclosed the tree: an operator that has climbed under the root leaves its slot
below the root, and there nothing stops the next operator from moving it to the left with the slot
still open.

* `growTree_cases` — a list of tokens is refused at its first clash (`ClashAt`), or else it is
  taken in whole;
* `parse_cases` — the same for the text that the tokens come from;
* `refusedAtFirst_meetAt_iff` — the rule that no two tokens of one kind may meet holds for a text if
  and only if the first two tokens that meet are no operators of which the first climbs.
-/
import LineCalculator.Proofs.Traversal
import Mathlib.Data.List.Basic
import Mathlib.Order.Bounds.Basic
import Mathlib.Order.Nat

open LineCalculator.Tree

namespace LineCalculator

/-! ### The operator at the root -/

/-- The operator at the root after one more: one that does not go under it takes its place. -/
def nextRoot (root : Option Operator) (op : Operator) : Option Operator :=
  match root with
  | some r => if op.GoesUnder r then some r else some op
  | none => some op

/-- The operator at the root after a list of operators. -/
def rootOf (ops : List Operator) : Option Operator :=
  ops.foldl nextRoot none

@[simp] theorem rootOf_nil : rootOf [] = none := rfl

@[simp] theorem rootOf_snoc (ops : List Operator) (op : Operator) :
    rootOf (ops ++ [op]) = nextRoot (rootOf ops) op := by
  rw [rootOf, List.foldl_append]
  rfl

/-- Whether an operator that follows others goes under the root. -/
def ClimbsAfter (ops : List Operator) (op : Operator) : Prop :=
  ∃ root, rootOf ops = some root ∧ op.GoesUnder root

instance (ops : List Operator) (op : Operator) : Decidable (ClimbsAfter ops op) :=
  inferInstanceAs (Decidable (∃ root ∈ rootOf ops, op.GoesUnder root))

theorem nextRoot_of_climbsAfter {ops : List Operator} {op : Operator} (h : ClimbsAfter ops op) :
    nextRoot (rootOf ops) op = rootOf ops := by
  obtain ⟨root, hroot, hg⟩ := h
  rw [hroot, nextRoot, if_pos hg]

theorem nextRoot_of_not_climbsAfter {ops : List Operator} {op : Operator}
    (h : ¬ ClimbsAfter ops op) : nextRoot (rootOf ops) op = some op := by
  cases hroot : rootOf ops with
  | none => rfl
  | some root => rw [nextRoot, if_neg fun hg => h ⟨root, hroot, hg⟩]

/-- The operator of a token, if it is one. -/
def Lexeme.operator? : Lexeme → Option Operator
  | number _ => none
  | operator op => some op

/-- The operators among the tokens of a list. -/
def operatorsOf (w : List Lexeme) : List Operator :=
  w.filterMap Lexeme.operator?

@[simp] theorem operatorsOf_append (w v : List Lexeme) :
    operatorsOf (w ++ v) = operatorsOf w ++ operatorsOf v :=
  List.filterMap_append

@[simp] theorem operatorsOf_number (x : Float) : operatorsOf [.number x] = [] := rfl

@[simp] theorem operatorsOf_operator (op : Operator) : operatorsOf [.operator op] = [op] := rfl

/-- The slot that a token leaves after others. -/
def slotAfter (w : List Lexeme) : Lexeme → Slot
  | .number _ => .full
  | .operator op => if ClimbsAfter (operatorsOf w) op then .below else .root

theorem slotAfter_operator (w : List Lexeme) (op : Operator) :
    slotAfter w (.operator op) = .below ∨ slotAfter w (.operator op) = .root := by
  by_cases h : ClimbsAfter (operatorsOf w) op
  · exact .inl (if_pos h)
  · exact .inr (if_neg h)

/-- Whether the operator at a place of a list goes under the root. -/
def ClimbsAt (w : List Lexeme) (i : Nat) : Prop :=
  ∃ op, w[i]? = some (.operator op) ∧ ClimbsAfter (operatorsOf (w.take i)) op

/-- Whether a token and the one after it are of one kind. -/
def MeetAt (w : List Lexeme) (i : Nat) : Prop :=
  (∃ x y, w[i]? = some (.number x) ∧ w[i + 1]? = some (.number y)) ∨
    ∃ p q, w[i]? = some (.operator p) ∧ w[i + 1]? = some (.operator q)

/-- Whether a token cannot follow the one before it: both are numbers, or both are operators and
the first does not go under the root. -/
def ClashAt (w : List Lexeme) (i : Nat) : Prop :=
  MeetAt w i ∧ ¬ ClimbsAt w i

/-! ### Places in a longer list -/

theorem MeetAt.lt {w : List Lexeme} {i : Nat} (h : MeetAt w i) : i + 1 < w.length := by
  rcases h with ⟨x, y, -, h⟩ | ⟨p, q, -, h⟩
  · exact (List.getElem?_eq_some_iff.mp h).1
  · exact (List.getElem?_eq_some_iff.mp h).1

theorem meetAt_append {w v : List Lexeme} {i : Nat} (h : i + 1 < w.length) :
    MeetAt (w ++ v) i ↔ MeetAt w i := by
  rw [MeetAt, MeetAt, List.getElem?_append_left h, List.getElem?_append_left (by omega)]

theorem climbsAt_append {w v : List Lexeme} {i : Nat} (h : i < w.length) :
    ClimbsAt (w ++ v) i ↔ ClimbsAt w i := by
  rw [ClimbsAt, ClimbsAt, List.getElem?_append_left h, List.take_append_of_le_length (by omega)]

theorem clashAt_append {w v : List Lexeme} {i : Nat} (h : i + 1 < w.length) :
    ClashAt (w ++ v) i ↔ ClashAt w i := by
  rw [ClashAt, ClashAt, meetAt_append h, climbsAt_append (by omega)]

/-- The last place but one of a list is a meeting if its last two tokens are of one kind. -/
theorem meetAt_snoc_snoc {u : List Lexeme} {a b : Lexeme} :
    MeetAt (u ++ [a] ++ [b]) u.length ↔
      (∃ x y, a = .number x ∧ b = .number y) ∨ ∃ p q, a = .operator p ∧ b = .operator q := by
  simp [MeetAt]

theorem climbsAt_snoc {u v : List Lexeme} {a : Lexeme} :
    ClimbsAt (u ++ [a] ++ v) u.length ↔ slotAfter u a = .below := by
  rw [climbsAt_append (by simp)]
  cases a with
  | number x => simp [ClimbsAt, slotAfter]
  | operator op => simp [ClimbsAt, slotAfter]

/-! ### Building up to the first clash -/

/-- What the tokens of a tree under construction say of it: the operator at its root, and the slot
that the last of them left. -/
structure Fits (w : List Lexeme) (t : Expr) : Prop where
  root : t.rootSymbol? = rootOf (operatorsOf w)
  whole : w = [] → t.slot = .whole
  slot : ∀ u a, w = u ++ [a] → t.slot = slotAfter u a

theorem fits_nil : Fits [] .hole :=
  ⟨rfl, fun _ => rfl, fun u a h => by simp at h⟩

theorem Fits.climbsAfter_iff {w : List Lexeme} {t : Expr} (h : Fits w t) {op : Operator} :
    ClimbsAfter (operatorsOf w) op ↔ ∃ root, t.rootSymbol? = some root ∧ op.GoesUnder root := by
  rw [ClimbsAfter, h.root]

/-- A token that is taken in keeps the fit. -/
theorem Fits.snoc {w : List Lexeme} {a : Lexeme} {t t' : Expr} (h : Fits w t)
    (ht : Takes t a t') : Fits (w ++ [a]) t' := by
  suffices hs : t'.rootSymbol? = rootOf (operatorsOf (w ++ [a])) ∧ t'.slot = slotAfter w a by
    refine ⟨hs.1, fun h => by simp at h, ?_⟩
    intro u b hub
    obtain ⟨rfl, hb⟩ := List.append_inj' hub rfl
    cases hb
    exact hs.2
  rw [operatorsOf_append]
  cases a with
  | number x =>
    rw [operatorsOf_number, List.append_nil, ht.rootSymbol_number]
    exact ⟨h.root, ht.slot_number⟩
  | operator op =>
    rw [operatorsOf_operator, rootOf_snoc, slotAfter]
    -- the tree decides by its root, the list by its operators: the fit says that these agree
    rcases ht.slot_operator with ⟨hslot, root, hroot, hg, hroot'⟩ | ⟨hslot, hg, hroot'⟩
    · have hc := h.climbsAfter_iff.mpr ⟨root, hroot, hg⟩
      rw [nextRoot_of_climbsAfter hc, if_pos hc, ← h.root, hroot]
      exact ⟨hroot', hslot⟩
    · have hc : ¬ ClimbsAfter (operatorsOf w) op := by
        rw [h.climbsAfter_iff]
        rintro ⟨root, hroot, hu⟩
        exact hg root hroot hu
      rw [nextRoot_of_not_climbsAfter hc, if_neg hc]
      exact ⟨hroot', hslot⟩

theorem fits_of_growTree {ts : List Token} {t : Expr} (h : growTree .hole ts = .ok t) :
    Fits (ts.map Token.lexeme) t :=
  growTree_induct fits_nil Fits.snoc h

/-- A tree refuses a token if and only if the token clashes with the last one in the tree. -/
theorem Fits.refuses_iff {w : List Lexeme} {a : Lexeme} {t : Expr} (h : Fits w t) :
    t.insert? a = none ↔ ∃ i, i + 1 = w.length ∧ ClashAt (w ++ [a]) i := by
  rcases List.eq_nil_or_concat' w with rfl | ⟨u, b, rfl⟩
  · have hw := h.whole rfl
    cases a with
    | number x => simp [insert?_number_eq_none, hw]
    | operator op => simp [insert?_operator_eq_none, hw]
  · have hlast : (∃ i, i + 1 = (u ++ [b]).length ∧ ClashAt (u ++ [b] ++ [a]) i) ↔
        ClashAt (u ++ [b] ++ [a]) u.length := by
      simp
    -- both sides are now told by the slot that the last token has left
    rw [hlast, ClashAt, meetAt_snoc_snoc, climbsAt_snoc]
    have hslot := h.slot u b rfl
    cases a with
    | number x =>
      rw [insert?_number_eq_none, hslot]
      cases b with
      | number y => simp [slotAfter]
      | operator op => rcases slotAfter_operator u op with hs | hs <;> simp [hs]
    | operator op =>
      rw [insert?_operator_eq_none, hslot]
      cases b with
      | number y => simp [slotAfter]
      | operator op' => rcases slotAfter_operator u op' with hs | hs <;> simp [hs]

theorem ClashAt.of_snoc {w : List Lexeme} {a : Lexeme} {i : Nat} (h : ClashAt (w ++ [a]) i) :
    ClashAt w i ∨ i + 1 = w.length := by
  have hlt := h.1.lt
  rw [List.length_append, List.length_singleton] at hlt
  by_cases hi : i + 1 = w.length
  · exact .inr hi
  · exact .inl ((clashAt_append (by omega)).mp h)

/-- The first clash of a list stays the first whatever follows. -/
theorem isLeast_clashAt_append {w : List Lexeme} {i : Nat} (h : IsLeast {i | ClashAt w i} i)
    (v : List Lexeme) : IsLeast {i | ClashAt (w ++ v) i} i := by
  have hlt := h.1.1.lt
  refine ⟨(clashAt_append hlt).mpr h.1, ?_⟩
  intro j hj
  by_contra hji
  have hj' : ClashAt w j := (clashAt_append (by omega)).mp hj
  exact hji (h.2 hj')

/-- A list of tokens is taken in whole, or it is refused at its first clash. -/
theorem growTree_cases (ts : List Token) :
    (∃ t, growTree .hole ts = .ok t ∧ ∀ i, ¬ ClashAt (ts.map Token.lexeme) i) ∨
      ∃ i t, IsLeast {i | ClashAt (ts.map Token.lexeme) i} i ∧ ts[i + 1]? = some t ∧
        growTree .hole ts = .error (.malformed t.position) := by
  induction ts using List.reverseRecOn with
  | nil =>
    refine .inl ⟨.hole, rfl, ?_⟩
    rintro i ⟨h, -⟩
    exact absurd h.lt (by simp)
  | append_singleton ts u ih =>
    rw [List.map_append, List.map_singleton]
    rcases ih with ⟨t, ht, hno⟩ | ⟨i, t, hleast, hi, herr⟩
    · have hfits := fits_of_growTree ht
      -- without a clash so far, the new token can only clash with the one before it
      have hend : ∀ i, ClashAt (ts.map Token.lexeme ++ [u.lexeme]) i →
          i + 1 = (ts.map Token.lexeme).length :=
        fun i hi => hi.of_snoc.resolve_left (hno i)
      rcases hins : t.insert? u.lexeme with _ | ⟨grown, how⟩
      · obtain ⟨i, hi, hclash⟩ := hfits.refuses_iff.mp hins
        refine .inr ⟨i, u, ⟨hclash, ?_⟩, ?_, growTree_snoc_of_refused ht hins⟩
        · intro j hj
          have := hend j hj
          omega
        · rw [hi, List.length_map]
          simp
      · refine .inl ⟨grown, growTree_snoc_of_takes ht (takes_iff.mpr ⟨how, hins⟩), ?_⟩
        intro i hi
        have hnone := hfits.refuses_iff.mpr ⟨i, hend i hi, hi⟩
        rw [hnone] at hins
        cases hins
    · -- a token was refused before, and what follows it is not looked at
      have hlt := hleast.1.1.lt
      rw [List.length_map] at hlt
      refine .inr ⟨i, t, isLeast_clashAt_append hleast _, ?_, ?_⟩
      · rw [List.getElem?_append_left hlt]
        exact hi
      · rw [growTree_append, herr]
        rfl

/-- A text of some tokens is read into a tree, or it is refused at the first clash of its tokens. -/
theorem parse_cases {source : List Char} {ts : List Token} (h : tokenize source = .ok ts)
    (hne : ts ≠ []) :
    (∃ t, parse source = .ok t ∧ t.inorder = ts.map Token.lexeme ∧
        ∀ i, ¬ ClashAt (ts.map Token.lexeme) i) ∨
      ∃ i t, IsLeast {i | ClashAt (ts.map Token.lexeme) i} i ∧ ts[i + 1]? = some t ∧
        parse source = .error (.malformed t.position) := by
  rcases growTree_cases ts with ⟨t, ht, hno⟩ | ⟨i, t, hleast, hi, herr⟩
  · have hin := inorder_of_growTree ht
    refine .inl ⟨t, parse_of_growTree h ht ?_, hin, hno⟩
    -- an empty tree has no tokens
    rintro rfl
    exact hne (List.map_eq_nil_iff.mp hin.symm)
  · refine .inr ⟨i, t, hleast, hi, ?_⟩
    rw [parse_of_tokenize h, herr]
    rfl

/-! ### The rule that tokens of one kind must not meet -/

/-- The rule that a text is refused at the first of certain places, and read into a tree if there
is none. -/
def RefusedAtFirst (place : List Lexeme → Nat → Prop) (source : List Char) (ts : List Token) :
    Prop :=
  ((∃ k, parse source = .error (.malformed k)) ↔ ∃ i, place (ts.map Token.lexeme) i) ∧
    (∀ i, IsLeast {i | place (ts.map Token.lexeme) i} i →
      ∃ t, ts[i + 1]? = some t ∧ parse source = .error (.malformed t.position)) ∧
    ((∀ i, ¬ place (ts.map Token.lexeme) i) → ∃ t, parse source = .ok t)

theorem refusedAtFirst_clashAt {source : List Char} {ts : List Token}
    (h : tokenize source = .ok ts) (hne : ts ≠ []) : RefusedAtFirst ClashAt source ts := by
  rcases parse_cases h hne with ⟨t, ht, -, hno⟩ | ⟨i, t, hleast, hi, herr⟩
  · refine ⟨⟨?_, ?_⟩, ?_, fun _ => ⟨t, ht⟩⟩
    · rintro ⟨k, hk⟩
      rw [ht] at hk
      cases hk
    · rintro ⟨i, hi⟩
      exact absurd hi (hno i)
    · intro i hi
      exact absurd hi.1 (hno i)
  · refine ⟨⟨fun _ => ⟨i, hleast.1⟩, fun _ => ⟨_, herr⟩⟩, ?_, fun hno => absurd hleast.1 (hno i)⟩
    intro j hj
    rw [hj.unique hleast]
    exact ⟨t, hi, herr⟩

/-- Tokens at different places of a text have different offsets. -/
theorem position_lt_of_lt {source : List Char} {ts : List Token} (h : tokenize source = .ok ts)
    {i j : Nat} {t u : Token} (hi : ts[i]? = some t) (hj : ts[j]? = some u) (hij : i < j) :
    t.position < u.position := by
  obtain ⟨hi', rfl⟩ := List.getElem?_eq_some_iff.mp hi
  obtain ⟨hj', rfl⟩ := List.getElem?_eq_some_iff.mp hj
  exact List.pairwise_iff_getElem.mp (tokenize_position_lt h) i j hi' hj' hij

/-- If the first meeting is no climb, it is the first clash as well. -/
theorem isLeast_clashAt_of_meetAt {w : List Lexeme} {i : Nat} (h : IsLeast {i | MeetAt w i} i)
    (hc : ¬ ClimbsAt w i) : IsLeast {i | ClashAt w i} i :=
  ⟨⟨h.1, hc⟩, fun _ hj => h.2 hj.1⟩

/-- **Two tokens of one kind in a row** are refused where the second of them stands, and this at the
first such place, unless that place is an operator that has gone under the root: then the rule
fails.  What always holds is the rule with clashes in the place of meetings. -/
theorem refusedAtFirst_meetAt_iff {source : List Char} {ts : List Token}
    (h : tokenize source = .ok ts) (hne : ts ≠ []) :
    RefusedAtFirst ClashAt source ts ∧
      (RefusedAtFirst MeetAt source ts ↔
        ∀ i, IsLeast {i | MeetAt (ts.map Token.lexeme) i} i →
          ¬ ClimbsAt (ts.map Token.lexeme) i) := by
  classical
  refine ⟨refusedAtFirst_clashAt h hne, ?_⟩
  obtain ⟨hiff, hfirst, hnone⟩ := refusedAtFirst_clashAt h hne
  constructor
  · rintro ⟨-, hmeet, -⟩ i hi hclimb
    obtain ⟨t, ht, herr⟩ := hmeet i hi
    have hj := Nat.isLeast_find (hiff.mp ⟨_, herr⟩)
    obtain ⟨u, hu, herr'⟩ := hfirst _ hj
    -- the refused token stands behind the second of the two that meet
    have hij := lt_of_le_of_ne (hi.2 hj.1.1) fun heq => hj.1.2 (heq ▸ hclimb)
    have hpos := position_lt_of_lt h ht hu (by omega)
    rw [herr, Except.error.injEq, ParseError.malformed.injEq] at herr'
    omega
  · intro hfree
    refine ⟨⟨?_, ?_⟩, ?_, ?_⟩
    · intro hk
      obtain ⟨i, hi⟩ := hiff.mp hk
      exact ⟨i, hi.1⟩
    · intro hm
      have hi := Nat.isLeast_find hm
      exact hiff.mpr ⟨_, hi.1, hfree _ hi⟩
    · intro i hi
      exact hfirst i (isLeast_clashAt_of_meetAt hi (hfree i hi))
    · intro hno
      exact hnone fun i hi => hno i hi.1

theorem refusedAtFirst_meetAt_iff_crowdedText :
    tokenize crowdedText = .ok crowdedTokens ∧ crowdedTokens ≠ [] ∧
      RefusedAtFirst ClashAt crowdedText crowdedTokens ∧
      (RefusedAtFirst MeetAt crowdedText crowdedTokens ↔
        ∀ i, IsLeast {i | MeetAt (crowdedTokens.map Token.lexeme) i} i →
          ¬ ClimbsAt (crowdedTokens.map Token.lexeme) i) :=
  ⟨tokenize_crowdedText, by simp [crowdedTokens],
    refusedAtFirst_meetAt_iff tokenize_crowdedText (by simp [crowdedTokens])⟩

/-- In `1+2*/3` the product and the quotient meet, and no token is refused. -/
theorem not_refusedAtFirst_meetAt_crowdedText :
    tokenize crowdedText = .ok crowdedTokens ∧ parse crowdedText = .ok crowdedTree ∧
      MeetAt (crowdedTokens.map Token.lexeme) 3 ∧
      ¬ RefusedAtFirst MeetAt crowdedText crowdedTokens := by
  have hmeet : MeetAt (crowdedTokens.map Token.lexeme) 3 := .inr ⟨.mul, .div, rfl, rfl⟩
  refine ⟨tokenize_crowdedText, parse_crowdedText, hmeet, ?_⟩
  rintro ⟨hiff, -, -⟩
  obtain ⟨k, hk⟩ := hiff.mpr ⟨3, hmeet⟩
  rw [parse_crowdedText] at hk
  cases hk

end LineCalculator
