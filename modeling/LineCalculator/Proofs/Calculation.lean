/-
What the calculator answers.

The tokens of a text decide what kind of answer it gets.  No tokens are an empty expression; a
clash is reported where it stands; and of the token lists that are built into a tree those have a
value in which numbers and operators alternate, and all others lack an operand: a slot that was left
open is never filled later on, since the tree keeps its tokens in their order.

* `calculate_of_parse_ok` — the answer for a text that is read into a tree;
* `not_meetAt_of_alternates` — in an alternating list no two tokens of one kind meet;
* `calculate_eq_ok_iff` — a value comes from alternating tokens only;
* `calculate_classified` — the whole classification.
-/
import LineCalculator.Calculation
import LineCalculator.Proofs.Adjacency
import LineCalculator.Proofs.Evaluation

namespace LineCalculator

theorem calculate_of_parse_error {source : List Char} {e : ParseError}
    (h : parse source = .error e) : (calculate source).outcome = .error (e.fault source) := by
  rw [parse] at h
  rw [calculate]
  simp only [h]

/-- A text that is read into a tree gets the value of the tree or the fault of the tree. -/
theorem calculate_of_parse_ok {source : List Char} {t : Expr} (h : parse source = .ok t) :
    (calculate source).outcome =
      (t.value (.ofOperators Operator.apply)).mapError EvalError.fault := by
  rw [parse] at h
  rw [calculate]
  simp only [h]
  rw [Tree.evaluate, evaluate_outcome]

/-- A text that is read into a tree gets a value if its tokens alternate, and otherwise the fault of
an absent operand. -/
theorem calculate_of_parse_cases {source : List Char} {t : Expr} (h : parse source = .ok t) :
    (Alternates t.inorder ∧ ∃ x, (calculate source).outcome = .ok x) ∨
      (¬ Alternates t.inorder ∧
        ∃ symbol side, (calculate source).outcome = .error (.missingOperand symbol side)) := by
  obtain ⟨ts, -, -, hne⟩ := tokenize_of_parse h
  rw [calculate_of_parse_ok h, ← isComplete_iff_alternates]
  by_cases hc : t.IsComplete
  · obtain ⟨x, hx⟩ := @value_of_isComplete _ Operator.apply _ hc
    refine .inl ⟨hc, x, ?_⟩
    rw [hx]
    rfl
  · obtain ⟨symbol, side, he⟩ := @value_of_not_isComplete _ Operator.apply _ hc hne
    refine .inr ⟨hc, symbol.toList, side.name.toList, ?_⟩
    rw [he]
    rfl

/-- No text gets the fault of a symbol without an operation. -/
theorem calculate_ne_unknownOperator (source : List Char) (symbol : List Char) :
    (calculate source).outcome ≠ .error (.unknownOperator symbol) := by
  intro h
  cases hp : parse source with
  | error e =>
    rw [calculate_of_parse_error hp] at h
    cases e <;> cases h
  | ok t =>
    rcases calculate_of_parse_cases hp with ⟨-, x, hx⟩ | ⟨-, symbol', side, he⟩
    · rw [hx] at h
      cases h
    · rw [he] at h
      cases h

/-! ### Alternating lists have no clash -/

theorem Alternates.head {w : List Lexeme} (h : Alternates w) : ∃ x, w[0]? = some (.number x) := by
  cases h with
  | number x => exact ⟨x, rfl⟩
  | pair x op h => exact ⟨x, rfl⟩

theorem not_meetAt_of_alternates {w : List Lexeme} (h : Alternates w) (i : Nat) :
    ¬ MeetAt w i := by
  induction h generalizing i with
  | number x =>
    intro hm
    exact absurd hm.lt (by simp)
  | pair x op h ih =>
    obtain ⟨y, hy⟩ := h.head
    match i with
    | 0 => simp [MeetAt]
    | 1 => simp [MeetAt, hy]
    | i + 2 => exact ih i

/-! ### The classification -/

section Classification

variable {source : List Char} {ts : List Token}

theorem calculate_of_tokenize_nil (h : tokenize source = .ok []) :
    (calculate source).outcome = .error .emptyExpression := by
  have hp : parse source = .error .empty := by
    rw [parse_of_tokenize h]
    rfl
  rw [calculate_of_parse_error hp]
  rfl

/-- A text of some tokens is refused at a clash, or gets a value, or lacks an operand. -/
theorem calculate_cases (h : tokenize source = .ok ts) (hne : ts ≠ []) :
    (Alternates (ts.map Token.lexeme) ∧ (∀ i, ¬ ClashAt (ts.map Token.lexeme) i) ∧
        ∃ x, (calculate source).outcome = .ok x) ∨
      (¬ Alternates (ts.map Token.lexeme) ∧ (∀ i, ¬ ClashAt (ts.map Token.lexeme) i) ∧
        ∃ symbol side, (calculate source).outcome = .error (.missingOperand symbol side)) ∨
      (¬ Alternates (ts.map Token.lexeme) ∧
        ∃ i t, IsLeast {i | ClashAt (ts.map Token.lexeme) i} i ∧ ts[i + 1]? = some t ∧
          (calculate source).outcome = .error (.malformed t.position (some source))) := by
  rcases parse_cases h hne with ⟨t, ht, hin, hno⟩ | ⟨i, t, hi, ht, herr⟩
  · rw [← hin] at hno ⊢
    rcases calculate_of_parse_cases ht with ⟨halt, hx⟩ | ⟨hnot, hmiss⟩
    · exact .inl ⟨halt, hno, hx⟩
    · exact .inr (.inl ⟨hnot, hno, hmiss⟩)
  · refine .inr (.inr ⟨?_, i, t, hi, ht, calculate_of_parse_error herr⟩)
    -- a clash is a meeting, and alternating tokens have none
    intro halt
    exact not_meetAt_of_alternates halt i hi.1.1

/-- A value comes from alternating tokens, and from these only. -/
theorem calculate_eq_ok_iff :
    (∃ x, (calculate source).outcome = .ok x) ↔
      ∃ ts, tokenize source = .ok ts ∧ Alternates (ts.map Token.lexeme) := by
  constructor
  · rintro ⟨x, hx⟩
    cases hp : parse source with
    | error e =>
      rw [calculate_of_parse_error hp] at hx
      cases hx
    | ok t =>
      obtain ⟨ts, hts, hg, -⟩ := tokenize_of_parse hp
      refine ⟨ts, hts, ?_⟩
      rw [← inorder_of_growTree hg]
      rcases calculate_of_parse_cases hp with ⟨halt, -⟩ | ⟨-, symbol, side, he⟩
      · exact halt
      · rw [he] at hx
        cases hx
  · rintro ⟨ts, hts, halt⟩
    have hne : ts ≠ [] := by
      rintro rfl
      cases halt
    rcases calculate_cases hts hne with ⟨-, -, hx⟩ | ⟨hnot, -⟩ | ⟨hnot, -⟩
    · exact hx
    · exact absurd halt hnot
    · exact absurd halt hnot

end Classification

/-- **Every answer from the tokens alone**: no tokens are empty; a clash is malformed at the token
that cannot follow; alternating tokens, and these only, have a value; all else lacks an operand.  A
symbol without an operation is never met. -/
theorem calculate_classified (source : List Char) :
    (∀ symbol, (calculate source).outcome ≠ .error (.unknownOperator symbol)) ∧
      ((∃ x, (calculate source).outcome = .ok x) ↔
        ∃ ts, tokenize source = .ok ts ∧ Alternates (ts.map Token.lexeme)) ∧
      ∀ ts, tokenize source = .ok ts →
        (ts = [] → (calculate source).outcome = .error .emptyExpression) ∧
        (∀ i, IsLeast {i | ClashAt (ts.map Token.lexeme) i} i → ∃ t, ts[i + 1]? = some t ∧
          (calculate source).outcome = .error (.malformed t.position (some source))) ∧
        (ts ≠ [] → ¬ Alternates (ts.map Token.lexeme) →
          (∀ i, ¬ ClashAt (ts.map Token.lexeme) i) →
          ∃ symbol side, (calculate source).outcome = .error (.missingOperand symbol side)) := by
  refine ⟨calculate_ne_unknownOperator source, calculate_eq_ok_iff, ?_⟩
  intro ts hts
  by_cases hne : ts = []
  · subst hne
    refine ⟨fun _ => calculate_of_tokenize_nil hts, ?_, fun h => absurd rfl h⟩
    intro i hi
    exact absurd hi.1.1.lt (by simp)
  refine ⟨fun h => absurd h hne, ?_⟩
  rcases calculate_cases hts hne with ⟨halt, hno, -⟩ | ⟨-, hno, hmiss⟩ | ⟨-, i, t, hi, ht, he⟩
  · exact ⟨fun i hi => absurd hi.1 (hno i), fun _ hnot => absurd halt hnot⟩
  · exact ⟨fun i hi => absurd hi.1 (hno i), fun _ _ _ => hmiss⟩
  · refine ⟨?_, fun _ _ hno => absurd hi.1 (hno i)⟩
    intro j hj
    rw [hj.unique hi]
    exact ⟨t, ht, he⟩

/-- In `1+2*/3` nothing clashes, and the product lacks its right operand. -/
theorem calculate_classified_crowdedText :
    tokenize crowdedText = .ok crowdedTokens ∧ crowdedTokens ≠ [] ∧
      ¬ Alternates (crowdedTokens.map Token.lexeme) ∧
      (∀ i, ¬ ClashAt (crowdedTokens.map Token.lexeme) i) ∧
      ∃ symbol side, (calculate crowdedText).outcome = .error (.missingOperand symbol side) := by
  have hne : crowdedTokens ≠ [] := by simp [crowdedTokens]
  have hnot : ¬ Alternates (crowdedTokens.map Token.lexeme) :=
    fun h => ((isComplete_iff_alternates crowdedTree).mpr h).2.1.2
  -- at a clash the text would have been refused
  have hno : ∀ i, ¬ ClashAt (crowdedTokens.map Token.lexeme) i := by
    rcases parse_cases tokenize_crowdedText hne with ⟨t, -, -, hno⟩ | ⟨i, t, -, -, herr⟩
    · exact hno
    · rw [parse_crowdedText] at herr
      cases herr
  obtain ⟨-, -, hclass⟩ := calculate_classified crowdedText
  obtain ⟨-, -, hmiss⟩ := hclass crowdedTokens tokenize_crowdedText
  exact ⟨tokenize_crowdedText, hne, hnot, hno, hmiss hne hnot hno⟩

end LineCalculator
