/-
When the tree of an expression is the conventional one.

Building compares a new operator with the root alone and takes it at most one level down, where the
conventional tree lets it go down the right edge as far as it binds tighter.  The two part only at
a power that follows an operator that has itself gone under the root: then the operation below the
root is raised as a whole.

* `growTree_chain` — the tree that is built from an expression, by one step for each operator and
  the number after it (`Tree.extend`);
* `conforms_iff` — no power follows an operator that has gone under the root, told by the operators
  alone;
* `parse_eq_conventional_iff` — the tree of an expression is the conventional one if and only if its
  powers stand so, and otherwise an operation is raised to a power.
-/
import LineCalculator.Proofs.Adjacency
import LineCalculator.Proofs.Grammar

open LineCalculator.Tree

namespace LineCalculator

namespace Tree

/-- The tree that a finished tree is continued to by an operator and a number. -/
def extend (op : Operator) (x : Float) : Expr → Expr
  | operation root l r =>
    if op.GoesUnder root then operation root l (operation op r (number x))
    else operation op (operation root l r) (number x)
  | t => operation op t (number x)

theorem extend_of_goesUnder {op root : Operator} {x : Float} {l r : Expr}
    (h : op.GoesUnder root) :
    (operation root l r).extend op x = operation root l (operation op r (number x)) := by
  rw [extend, if_pos h]

theorem extend_of_not_goesUnder {op : Operator} {x : Float} {t : Expr}
    (h : ∀ root, t.rootSymbol? = some root → ¬ op.GoesUnder root) :
    t.extend op x = operation op t (number x) := by
  cases t with
  | hole => rfl
  | number y => rfl
  | operation root l r => rw [extend, if_neg (h root rfl)]

/-- The operation that is the right operand of a tree, if there is one. -/
def rightSymbol? : Expr → Option Operator
  | operation _ _ r => r.rootSymbol?
  | _ => none

/-- The two ways of a step: under the root, or around the tree. -/
theorem extend_cases (t : Expr) (op : Operator) (x : Float) :
    (∃ root l r, t = operation root l r ∧ op.GoesUnder root ∧
        t.extend op x = operation root l (operation op r (number x))) ∨
      ((∀ root, t.rootSymbol? = some root → ¬ op.GoesUnder root) ∧
        t.extend op x = operation op t (number x)) := by
  by_cases h : ∀ root, t.rootSymbol? = some root → ¬ op.GoesUnder root
  · exact .inr ⟨h, extend_of_not_goesUnder h⟩
  · cases t with
    | hole => exact absurd (by simp) h
    | number y => exact absurd (by simp) h
    | operation root l r =>
      have hg : op.GoesUnder root := by simpa using h
      exact .inl ⟨root, l, r, rfl, hg, extend_of_goesUnder hg⟩

theorem slot_extend (t : Expr) (op : Operator) (x : Float) : (t.extend op x).slot = .full := by
  rcases extend_cases t op x with ⟨root, l, r, -, -, h⟩ | ⟨-, h⟩
  · rw [h, slot_operation_operation_number]
  · rw [h, slot_operation_number]

end Tree

/-! ### Building an expression -/

/-- An operator and a number are taken in by one step. -/
theorem growTree_pair {t : Expr} (ht : t.slot = .full) {a b : Token} {op : Operator} {x : Float}
    (ha : a.lexeme = .operator op) (hb : b.lexeme = .number x) :
    growTree t [a, b] = .ok (t.extend op x) := by
  have hsteps : ∀ {u}, Takes t (.operator op) u → Takes u (.number x) (t.extend op x) →
      growTree t [a, b] = .ok (t.extend op x) := by
    intro u hu hx
    rw [← ha] at hu
    rw [← hb] at hx
    exact growTree_snoc_of_takes (growTree_snoc_of_takes (growTree_nil t) hu) hx
  rcases extend_cases t op x with ⟨root, l, r, rfl, hg, h⟩ | ⟨hn, h⟩
  · have hr : r ≠ hole := by
      rintro rfl
      cases ht
    refine hsteps (.climb hr hg) ?_
    rw [h]
    exact .belowRoot root l op r x
  · refine hsteps (.enclose (by rw [ht]; decide) hn) ?_
    rw [h]
    exact .atRoot op t x

/-- The tree that is built from an expression. -/
def builtTree (x : Float) (ps : List (Operator × Float)) : Expr :=
  ps.foldl (fun t p => t.extend p.1 p.2) (.number x)

theorem builtTree_snoc (x : Float) (ps : List (Operator × Float)) (p : Operator × Float) :
    builtTree x (ps ++ [p]) = (builtTree x ps).extend p.1 p.2 := by
  rw [builtTree, List.foldl_append]
  rfl

theorem slot_builtTree (x : Float) (ps : List (Operator × Float)) :
    (builtTree x ps).slot = .full := by
  rcases List.eq_nil_or_concat' ps with rfl | ⟨qs, p, rfl⟩
  · rfl
  · rw [builtTree_snoc]
    exact slot_extend _ _ _

theorem growTree_chain {x : Float} {ps : List (Operator × Float)} {ts : List Token}
    (h : ts.map Token.lexeme = chain x ps) : growTree .hole ts = .ok (builtTree x ps) := by
  -- the tokens are cut where the expression is: before its last operator and number
  induction ps using List.reverseRecOn generalizing ts with
  | nil =>
    obtain ⟨a, us, rfl, ha, hus⟩ := List.map_eq_cons_iff.mp h
    rw [List.flatMap_nil, List.map_eq_nil_iff] at hus
    subst hus
    have hfirst : Takes .hole a.lexeme (.number x) := by
      rw [ha]
      exact .first x
    exact growTree_snoc_of_takes (growTree_nil _) hfirst
  | append_singleton ps p ih =>
    rw [chain_snoc] at h
    obtain ⟨us, vs, rfl, hus, hvs⟩ := List.map_eq_append_iff.mp h
    obtain ⟨a, vs, rfl, ha, hvs⟩ := List.map_eq_cons_iff.mp hvs
    obtain ⟨b, vs, rfl, hb, hvs⟩ := List.map_eq_cons_iff.mp hvs
    rw [List.map_eq_nil_iff] at hvs
    subst hvs
    rw [growTree_append, ih hus, builtTree_snoc]
    exact growTree_pair (slot_builtTree x ps) ha hb

/-! ### The operators at the root and below it -/

theorem rootSymbol_builtTree (x : Float) (ps : List (Operator × Float)) :
    (builtTree x ps).rootSymbol? = rootOf (ps.map Prod.fst) := by
  induction ps using List.reverseRecOn with
  | nil => rfl
  | append_singleton ps p ih =>
    rw [builtTree_snoc, List.map_append, List.map_singleton, rootOf_snoc]
    rcases extend_cases (builtTree x ps) p.1 p.2 with ⟨root, l, r, ht, hg, h⟩ | ⟨hn, h⟩
    · rw [ht] at ih
      rw [h, nextRoot_of_climbsAfter ⟨root, ih.symm, hg⟩]
      exact ih
    · rw [ih] at hn
      rw [h, nextRoot_of_not_climbsAfter fun ⟨root, hroot, hg⟩ => hn root hroot hg]
      rfl

/-- Below the root stands an operation if and only if the last operator has gone under the root. -/
theorem rightSymbol_builtTree (x : Float) (ps : List (Operator × Float)) :
    (builtTree x ps).rightSymbol?.isSome ↔
      ∃ pre last, ps.map Prod.fst = pre ++ [last] ∧ ClimbsAfter pre last := by
  rcases List.eq_nil_or_concat' ps with rfl | ⟨qs, p, rfl⟩
  · simp [builtTree, rightSymbol?]
  have hlast : (∃ pre last, (qs ++ [p]).map Prod.fst = pre ++ [last] ∧ ClimbsAfter pre last) ↔
      ClimbsAfter (qs.map Prod.fst) p.1 := by
    rw [List.map_append, List.map_singleton]
    constructor
    · rintro ⟨pre, last, h, hc⟩
      obtain ⟨rfl, hp⟩ := List.append_inj' h rfl
      cases hp
      exact hc
    · intro hc
      exact ⟨_, _, rfl, hc⟩
  rw [hlast, builtTree_snoc, ClimbsAfter, ← rootSymbol_builtTree x qs]
  rcases extend_cases (builtTree x qs) p.1 p.2 with ⟨root, l, r, ht, hg, h⟩ | ⟨hn, h⟩
  · rw [h, ht]
    exact ⟨fun _ => ⟨root, rfl, hg⟩, fun _ => rfl⟩
  · rw [h]
    constructor
    · intro hs
      cases hs
    · rintro ⟨root, hroot, hg⟩
      exact absurd hg (hn root hroot)

/-! ### One step of building and one of the convention -/

/-- An operator other than a power goes no further down a conventional tree than one level. -/
theorem extend_eq_attach_of_ne_pow {w : List Lexeme} {t : Expr} (h : IsSum w t) {op : Operator}
    (hop : op ≠ .pow) (x : Float) : t.extend op x = t.attach op x := by
  by_cases hn : ∀ root, t.rootSymbol? = some root → ¬ op.GoesUnder root
  · rw [extend_of_not_goesUnder hn, attach_of_not_goesUnder hn]
  have hmul : op.IsMultiplicative := by
    rcases op.isAdditive_or_isMultiplicative_or_eq_pow with ha | hm | hp
    · exact absurd (fun root _ => ha.not_goesUnder root) hn
    · exact hm
    · exact absurd hp hop
  -- the tree is no single product, since nothing in one lets the operator under itself
  cases h with
  | single h => exact absurd (fun root hroot => mt hmul.goesUnder_iff.mp (h.rootSymbol hroot)) hn
  | more hl hroot hr =>
    have hg := hmul.goesUnder_iff.mpr hroot
    rw [extend_of_goesUnder hg, attach_of_goesUnder hg]
    rw [attach_of_not_goesUnder fun root hs => mt hmul.goesUnder_iff.mp (hr.rootSymbol hs)]

/-- A power goes no further than one level if no operation stands there. -/
theorem extend_pow_eq_attach {t : Expr} (h : ¬ t.rightSymbol?.isSome) (x : Float) :
    t.extend .pow x = t.attach .pow x := by
  cases t with
  | hole => rfl
  | number y => rfl
  | operation root l r =>
    have hg := Operator.pow_goesUnder root
    rw [extend_of_goesUnder hg, attach_of_goesUnder hg, attach_of_not_goesUnder]
    intro root' hroot'
    rw [rightSymbol?, hroot'] at h
    exact absurd rfl h

/-- A power that finds an operation below the root raises it. -/
theorem raisesOperation_extend_pow {t : Expr} (h : t.rightSymbol?.isSome) (x : Float) :
    RaisesOperation (t.extend .pow x) := by
  cases t with
  | hole => cases h
  | number y => cases h
  | operation root l r =>
    rw [extend_of_goesUnder (Operator.pow_goesUnder root)]
    exact .inr (.inr (.inl ⟨rfl, h⟩))

/-- A raised operation stays one. -/
theorem RaisesOperation.extend {t : Expr} (h : RaisesOperation t) (op : Operator) (x : Float) :
    RaisesOperation (t.extend op x) := by
  rcases extend_cases t op x with ⟨root, l, r, rfl, -, ht⟩ | ⟨-, ht⟩
  · rw [ht]
    rcases h with h | h | h
    · exact .inl h
    · exact .inr (.inl h)
    · exact .inr (.inr (.inr (.inl h)))
  · rw [ht]
    exact .inr (.inl h)

/-! ### Where powers may stand -/

/-- Whether a power may stand after the operator at a place: after a sign of sums, or a sign of
products with no sign of sums before it, or the first operator if that is a power as well. -/
def TakesPower (ops : List Operator) (i : Nat) : Prop :=
  (∃ op ∈ ops[i]?, op.IsAdditive) ∨
    ((∃ op ∈ ops[i]?, op.IsMultiplicative) ∧ ∀ op ∈ ops.take (i + 1), ¬ op.IsAdditive) ∨
    (i = 0 ∧ ops[0]? = some .pow)

/-- Whether every power but the first operator stands where it may. -/
def Conforms (ops : List Operator) : Prop :=
  ∀ i, ops[i + 1]? = some .pow → TakesPower ops i

instance (ops : List Operator) (i : Nat) : Decidable (TakesPower ops i) :=
  inferInstanceAs (Decidable (_ ∨ _ ∨ _))

instance (ops : List Operator) : Decidable (Conforms ops) :=
  decidable_of_iff (∀ i < ops.length, ops[i + 1]? = some .pow → TakesPower ops i)
    ⟨fun h i hi => h i (by have := (List.getElem?_eq_some_iff.mp hi).1; omega) hi,
      fun h i _ => h i⟩

example : Conforms [.mul, .pow, .add, .pow, .div] := by decide

example : ¬ Conforms [.pow, .pow, .pow] := by decide

theorem isAdditive_rootOf_iff (ops : List Operator) :
    (∃ root, rootOf ops = some root ∧ root.IsAdditive) ↔ ∃ op ∈ ops, op.IsAdditive := by
  induction ops using List.reverseRecOn with
  | nil => simp
  | append_singleton ops op ih =>
    rw [rootOf_snoc]
    by_cases hc : ClimbsAfter ops op
    · rw [nextRoot_of_climbsAfter hc, ih]
      obtain ⟨root, hroot, hg⟩ := hc
      have hop : ¬ op.IsAdditive := fun ha => ha.not_goesUnder root hg
      simp [hop]
    · rw [nextRoot_of_not_climbsAfter hc]
      constructor
      · rintro ⟨root, hroot, ha⟩
        cases hroot
        exact ⟨op, by simp, ha⟩
      · rintro ⟨a, hmem, ha⟩
        refine ⟨op, rfl, ?_⟩
        rcases List.mem_append.mp hmem with hmem | hmem
        · -- every operator but a sign of sums would go under a sign of sums at the root
          obtain ⟨root, hroot, hadd⟩ := ih.mpr ⟨a, hmem, ha⟩
          rcases op.isAdditive_or_isMultiplicative_or_eq_pow with h | h | rfl
          · exact h
          · exact absurd ⟨root, hroot, h.goesUnder_iff.mpr hadd⟩ hc
          · exact absurd ⟨root, hroot, Operator.pow_goesUnder root⟩ hc
        · rw [List.mem_singleton] at hmem
          exact hmem ▸ ha

theorem rootOf_eq_none_iff (ops : List Operator) : rootOf ops = none ↔ ops = [] := by
  rcases List.eq_nil_or_concat' ops with rfl | ⟨ops, op, rfl⟩
  · simp
  · rw [rootOf_snoc]
    by_cases hc : ClimbsAfter ops op
    · rw [nextRoot_of_climbsAfter hc]
      obtain ⟨root, hroot, -⟩ := hc
      simp [hroot]
    · simp [nextRoot_of_not_climbsAfter hc]

theorem not_climbsAfter_of_isAdditive {op : Operator} (h : op.IsAdditive) (ops : List Operator) :
    ¬ ClimbsAfter ops op := by
  rintro ⟨root, -, hg⟩
  exact h.not_goesUnder root hg

theorem climbsAfter_of_isMultiplicative {op : Operator} (h : op.IsMultiplicative)
    (ops : List Operator) : ClimbsAfter ops op ↔ ∃ a ∈ ops, a.IsAdditive := by
  rw [← isAdditive_rootOf_iff, ClimbsAfter]
  simp only [h.goesUnder_iff]

theorem climbsAfter_pow (ops : List Operator) : ClimbsAfter ops .pow ↔ ops ≠ [] := by
  rw [ne_eq, ← rootOf_eq_none_iff, ← ne_eq, Option.ne_none_iff_exists']
  constructor
  · rintro ⟨root, hroot, -⟩
    exact ⟨root, hroot⟩
  · rintro ⟨root, hroot⟩
    exact ⟨root, hroot, Operator.pow_goesUnder root⟩

/-- Powers stand well if none of them follows an operator that has gone under the root. -/
theorem conforms_iff (ops : List Operator) :
    Conforms ops ↔ ∀ i op, ops[i]? = some op → ops[i + 1]? = some .pow →
      ¬ ClimbsAfter (ops.take i) op := by
  constructor
  · intro h i op hop hpow hc
    rcases h i hpow with ⟨a, ha, hadd⟩ | ⟨⟨m, hm, hmul⟩, hno⟩ | ⟨rfl, -⟩
    · rw [Option.mem_def, hop] at ha
      cases ha
      exact not_climbsAfter_of_isAdditive hadd _ hc
    · rw [Option.mem_def, hop] at hm
      cases hm
      obtain ⟨a, ha, hadd⟩ := (climbsAfter_of_isMultiplicative hmul _).mp hc
      exact hno a (List.take_subset_take_left ops (Nat.le_succ i) ha) hadd
    · obtain ⟨root, hroot, -⟩ := hc
      cases hroot
  · intro h i hpow
    -- the operator before the power exists, and its kind chooses the way in which the power stands
    obtain ⟨hlt, -⟩ := List.getElem?_eq_some_iff.mp hpow
    have hop : ops[i]? = some ops[i] := List.getElem?_eq_getElem _
    have hn := h i _ hop hpow
    rcases ops[i].isAdditive_or_isMultiplicative_or_eq_pow with hadd | hmul | hp
    · exact .inl ⟨_, hop, hadd⟩
    · refine .inr (.inl ⟨⟨_, hop, hmul⟩, ?_⟩)
      intro a ha hadd
      rw [List.take_add_one, hop, List.mem_append] at ha
      rcases ha with ha | ha
      · exact hn ((climbsAfter_of_isMultiplicative hmul _).mpr ⟨a, ha, hadd⟩)
      · rw [Option.toList_some, List.mem_singleton] at ha
        exact hadd.not_isMultiplicative (ha ▸ hmul)
    · rw [hp, climbsAfter_pow, not_not, List.take_eq_nil_iff] at hn
      rcases hn with rfl | rfl
      · exact .inr (.inr ⟨rfl, by rw [hop, hp]⟩)
      · cases hlt

theorem conforms_nil : Conforms [] := by
  intro i h
  cases h

/-- One more operator keeps powers well placed unless it is a power after an operator that has gone
under the root. -/
theorem conforms_snoc_iff (ops : List Operator) (op : Operator) :
    Conforms (ops ++ [op]) ↔ Conforms ops ∧
      (op = .pow → ∀ pre last, ops = pre ++ [last] → ¬ ClimbsAfter pre last) := by
  rw [conforms_iff, conforms_iff]
  constructor
  · intro h
    constructor
    · intro i a ha hpow
      obtain ⟨hlt, -⟩ := List.getElem?_eq_some_iff.mp hpow
      have hn := h i a (by rw [List.getElem?_append_left (by omega), ha])
        (by rw [List.getElem?_append_left hlt, hpow])
      rwa [List.take_append_of_le_length (by omega)] at hn
    · rintro rfl pre last rfl
      have hn := h pre.length last (by simp) (by simp)
      rwa [List.append_assoc, List.take_left] at hn
  · rintro ⟨h, hlast⟩ i a ha hpow
    obtain ⟨hlt, -⟩ := List.getElem?_eq_some_iff.mp hpow
    rw [List.length_append, List.length_singleton] at hlt
    rw [List.getElem?_append_left (by omega)] at ha
    rw [List.take_append_of_le_length (by omega)]
    -- the power stood there before, or it is the new operator
    by_cases hi : i + 1 < ops.length
    · rw [List.getElem?_append_left hi] at hpow
      exact h i a ha hpow
    · have hend : i + 1 = ops.length := by omega
      rw [hend, List.getElem?_concat_length, Option.some.injEq] at hpow
      have hsplit : ops.take (i + 1) = ops.take i ++ [a] := by
        rw [List.take_add_one, ha]
        rfl
      rw [hend, List.take_length] at hsplit
      exact hlast hpow _ a hsplit

/-- The tree of an expression is the conventional one if its powers stand well, and otherwise an
operation is raised. -/
theorem builtTree_cases (x : Float) (ps : List (Operator × Float)) :
    (Conforms (ps.map Prod.fst) ∧ builtTree x ps = conventional x ps) ∨
      (¬ Conforms (ps.map Prod.fst) ∧ RaisesOperation (builtTree x ps)) := by
  induction ps using List.reverseRecOn with
  | nil => exact .inl ⟨conforms_nil, rfl⟩
  | append_singleton ps p ih =>
    rw [List.map_append, List.map_singleton, conforms_snoc_iff, builtTree_snoc, conventional_snoc]
    rcases ih with ⟨hc, heq⟩ | ⟨hc, hraise⟩
    -- while the trees agree, only a power that finds an operation below the root parts them
    · have hsum : IsSum (chain x ps) (builtTree x ps) := isSum_chain_iff.mpr heq
      by_cases hp : p.1 = .pow
      · by_cases hr : (builtTree x ps).rightSymbol?.isSome
        · obtain ⟨pre, last, hops, hclimb⟩ := (rightSymbol_builtTree x ps).mp hr
          rw [hp]
          exact .inr ⟨fun h => h.2 rfl pre last hops hclimb, raisesOperation_extend_pow hr p.2⟩
        · rw [hp, extend_pow_eq_attach hr, heq]
          refine .inl ⟨⟨hc, ?_⟩, rfl⟩
          intro _ pre last hops hclimb
          exact hr ((rightSymbol_builtTree x ps).mpr ⟨pre, last, hops, hclimb⟩)
      · rw [extend_eq_attach_of_ne_pow hsum hp, heq]
        exact .inl ⟨⟨hc, fun h => absurd h hp⟩, rfl⟩
    -- once an operation is raised it stays so, and ill-placed powers stay ill-placed
    · exact .inr ⟨fun h => hc h.1, hraise.extend p.1 p.2⟩

theorem conforms_of_ne_pow {ops : List Operator} (h : ∀ op ∈ ops, op ≠ .pow) : Conforms ops := by
  intro i hpow
  exact absurd rfl (h .pow (List.mem_of_getElem? hpow))

/-- **Agreement with the conventional precedence**: an expression is read into the one tree that the
grammar gives it if and only if its powers stand well, so always if it has none; and otherwise some
power in its tree has an operation as its base. -/
theorem parse_eq_conventional_iff {source : List Char} {ts : List Token} {x : Float}
    {ps : List (Operator × Float)} (h : tokenize source = .ok ts)
    (hts : ts.map Token.lexeme = chain x ps) :
    ∃ t standard, parse source = .ok t ∧ (∀ s, IsSum (chain x ps) s ↔ s = standard) ∧
      (t = standard ↔ Conforms (ps.map Prod.fst)) ∧
      ((∀ p ∈ ps, p.1 ≠ .pow) → t = standard) ∧
      (¬ Conforms (ps.map Prod.fst) → RaisesOperation t) := by
  have hparse : parse source = .ok (builtTree x ps) := by
    refine parse_of_growTree h (growTree_chain hts) ?_
    intro hhole
    have hfull := slot_builtTree x ps
    rw [hhole] at hfull
    cases hfull
  refine ⟨builtTree x ps, conventional x ps, hparse, fun s => isSum_chain_iff, ?_⟩
  rcases builtTree_cases x ps with ⟨hc, heq⟩ | ⟨hc, hraise⟩
  · exact ⟨⟨fun _ => hc, fun _ => heq⟩, fun _ => heq, fun hn => absurd hc hn⟩
  · -- in the conventional tree no operation is raised
    have hne : builtTree x ps ≠ conventional x ps := by
      intro heq
      exact (isSum_chain_iff.mpr heq).not_raisesOperation hraise
    refine ⟨⟨fun heq => absurd heq hne, fun h => absurd h hc⟩, ?_, fun _ => hraise⟩
    intro hfree
    refine absurd (conforms_of_ne_pow ?_) hc
    intro op hop
    obtain ⟨p, hp, rfl⟩ := List.mem_map.mp hop
    exact hfree p hp

/-- The text `2+3*4^5`, whose power follows a product under a sum. -/
def raisedText : List Char := ['2', '+', '3', '*', '4', '^', '5']

/-- The operators of `2+3*4^5`, each with the number after it. -/
def raisedPairs : List (Operator × Float) :=
  [(.add, figureNumber '3'), (.mul, figureNumber '4'), (.pow, figureNumber '5')]

/-- The tokens of `2+3*4^5`. -/
def raisedTokens : List Token :=
  [⟨.number (figureNumber '2'), 0⟩, ⟨.operator .add, 1⟩, ⟨.number (figureNumber '3'), 2⟩,
    ⟨.operator .mul, 3⟩, ⟨.number (figureNumber '4'), 4⟩, ⟨.operator .pow, 5⟩,
    ⟨.number (figureNumber '5'), 6⟩]

theorem tokenize_raisedText : tokenize raisedText = .ok raisedTokens := by
  rw [tokenize, raisedText]
  repeat rw [readTokens_of_token rfl]
  rw [readTokens_of_finished rfl]
  rfl

/-- In the tree of `2+3*4^5` the product is raised, and so it is not the conventional one. -/
theorem parse_eq_conventional_iff_raisedText :
    tokenize raisedText = .ok raisedTokens ∧
      raisedTokens.map Token.lexeme = chain (figureNumber '2') raisedPairs ∧
      ¬ Conforms (raisedPairs.map Prod.fst) ∧
      ∃ t standard, parse raisedText = .ok t ∧
        (∀ s, IsSum (chain (figureNumber '2') raisedPairs) s ↔ s = standard) ∧
        t ≠ standard ∧ RaisesOperation t := by
  have hts : raisedTokens.map Token.lexeme = chain (figureNumber '2') raisedPairs := rfl
  have hnot : ¬ Conforms (raisedPairs.map Prod.fst) := by decide
  refine ⟨tokenize_raisedText, hts, hnot, ?_⟩
  obtain ⟨t, standard, hparse, hunique, hiff, -, hraise⟩ :=
    parse_eq_conventional_iff tokenize_raisedText hts
  exact ⟨t, standard, hparse, hunique, mt hiff.mp hnot, hraise hnot⟩

end LineCalculator
