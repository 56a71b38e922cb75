/-
The texts that tokens can be read off.

The lexicon is given by a regular expression: blanks, symbols and literals in any order, but for two
literals side by side, which are one literal or none.  A text is read character by character by a
machine of three phases that knows whether a literal is open and whether it has its point; the
machine takes exactly the texts of the lexicon, and scanning follows it.

* `Lexicon.run?_isSome_iff` — the machine and the regular expression agree;
* `run?_of_readTokens_ok`, `run?_of_readTokens_error` — the scanner and the machine agree, on a text
  that is read to its end and on the place of a fault;
* `tokenize_eq_lexicon` — the texts that have tokens are those of the lexicon, and a text that has
  none is refused at the last character of its shortest beginning that is outside the lexicon.
-/
import Mathlib.Computability.RegularExpressions
import Mathlib.Order.Bounds.Basic
import Mathlib.Tactic.FinCases
import Mathlib.Tactic.IntervalCases
import LineCalculator.Proofs.Building
import LineCalculator.Proofs.Scanning

open RegularExpression

namespace LineCalculator

namespace Lexicon

/-! ### The regular expression -/

/-- The texts of one character out of a list. -/
def anyOf (cs : List Char) : RegularExpression Char :=
  (cs.map .char).sum

/-- The ten digits. -/
def digit : RegularExpression Char :=
  anyOf ['0', '1', '2', '3', '4', '5', '6', '7', '8', '9']

/-- What may stand between two literals: a blank, or the symbol of an operator. -/
def separator : RegularExpression Char :=
  anyOf [' ', '\t', '\n', '\r'] + anyOf ['+', '-', '*', '/', '^']

/-- A row of digits, and possibly a point and more digits after it. -/
def literal : RegularExpression Char :=
  digit * digit.star * (1 + char '.' * digit.star)

/-- Separators and literals in any order. -/
def unguarded : RegularExpression Char :=
  (separator + literal).star

/-- Separators and literals, with at least one separator between any two literals. -/
def guarded : RegularExpression Char :=
  ((1 + literal) * separator).star * (1 + literal)

theorem mem_anyOf {cs w : List Char} : w ∈ (anyOf cs).matches' ↔ ∃ c ∈ cs, w = [c] := by
  induction cs with
  | nil => simp [anyOf]
  | cons c cs ih =>
    rw [anyOf, List.map_cons, List.sum_cons, matches'_add, Language.mem_add, ← anyOf, ih,
      matches'_char]
    simp only [List.mem_cons, exists_eq_or_imp]
    exact Iff.rfl

theorem isFigure_iff {c : Char} :
    isFigure c = true ↔ c ∈ ['0', '1', '2', '3', '4', '5', '6', '7', '8', '9'] := by
  constructor
  · intro h
    obtain ⟨hlow, hhigh⟩ : 48 ≤ c.toNat ∧ c.toNat ≤ 57 := by
      simpa [isFigure, Char.le_def, UInt32.le_iff_toNat_le] using h
    rw [← Char.ofNat_toNat c]
    interval_cases c.toNat <;> decide
  · intro h
    fin_cases h <;> rfl

theorem mem_digit {w : List Char} : w ∈ digit.matches' ↔ ∃ c, isFigure c = true ∧ w = [c] := by
  simp only [digit, mem_anyOf, isFigure_iff]

/-- Whether a character may stand between two literals. -/
def isSeparator (c : Char) : Bool :=
  isSpace c || (Operator.ofSymbol? c).isSome

theorem isSeparator_iff {c : Char} :
    isSeparator c = true ↔
      c ∈ [' ', '\t', '\n', '\r'] ∨ c ∈ ['+', '-', '*', '/', '^'] := by
  rw [isSeparator, Bool.or_eq_true, Option.isSome_iff_exists]
  refine or_congr (by simp [isSpace, or_assoc]) ?_
  constructor
  · rintro ⟨op, hop⟩
    rw [Operator.ofSymbol?_eq_some_iff.mp hop]
    cases op <;> decide
  · intro h
    fin_cases h <;> exact ⟨_, rfl⟩

theorem mem_separator {w : List Char} :
    w ∈ separator.matches' ↔ ∃ c, isSeparator c = true ∧ w = [c] := by
  simp only [separator, matches'_add, Language.mem_add, mem_anyOf, isSeparator_iff, or_and_right,
    exists_or]

theorem mem_star_digit {w : List Char} : w ∈ digit.star.matches' ↔ IsFigures w := by
  rw [matches'_star, Language.mem_kstar]
  constructor
  · rintro ⟨L, rfl, hL⟩ c hc
    obtain ⟨u, hu, hcu⟩ := List.mem_flatten.mp hc
    obtain ⟨d, hd, rfl⟩ := mem_digit.mp (hL u hu)
    rw [List.mem_singleton.mp hcu]
    exact hd
  · intro hw
    refine ⟨w.map fun c => [c], by rw [← List.flatMap_def, List.flatMap_singleton'], ?_⟩
    intro u hu
    obtain ⟨c, hc, rfl⟩ := List.mem_map.mp hu
    exact mem_digit.mpr ⟨c, hw c hc, rfl⟩

theorem mem_digits {w : List Char} :
    w ∈ (digit * digit.star).matches' ↔ w ≠ [] ∧ IsFigures w := by
  rw [matches'_mul, Language.mem_mul]
  constructor
  · rintro ⟨u, hu, v, hv, rfl⟩
    obtain ⟨c, hc, rfl⟩ := mem_digit.mp hu
    exact ⟨by simp, isFigures_cons.mpr ⟨hc, mem_star_digit.mp hv⟩⟩
  · rintro ⟨hne, hw⟩
    obtain ⟨c, v, rfl⟩ := List.exists_cons_of_ne_nil hne
    obtain ⟨hc, hv⟩ := isFigures_cons.mp hw
    exact ⟨[c], mem_digit.mpr ⟨c, hc, rfl⟩, v, mem_star_digit.mpr hv, rfl⟩

/-- The regular expression of literals has the texts that a number is read off. -/
theorem mem_literal {w : List Char} : w ∈ literal.matches' ↔ ∃ l : Literal, l.IsText w := by
  rw [literal, matches'_mul, Language.mem_mul]
  constructor
  · rintro ⟨u, hu, v, hv, rfl⟩
    obtain ⟨hne, hu⟩ := mem_digits.mp hu
    rw [matches'_add, Language.mem_add, matches'_epsilon, Language.mem_one, matches'_mul,
      Language.mem_mul, matches'_char] at hv
    rcases hv with rfl | ⟨p, rfl, f, hf, rfl⟩
    · rw [List.append_nil]
      exact ⟨_, .whole hne hu⟩
    · exact ⟨_, .pointed hne hu (mem_star_digit.mp hf)⟩
  · rintro ⟨l, hl⟩
    cases hl with
    | whole hne hw =>
      refine ⟨w, mem_digits.mpr ⟨hne, hw⟩, [], ?_, List.append_nil w⟩
      exact Or.inl rfl
    | pointed hne hw hf =>
      refine ⟨_, mem_digits.mpr ⟨hne, hw⟩, _, ?_, rfl⟩
      exact Or.inr ⟨['.'], rfl, _, mem_star_digit.mpr hf, rfl⟩

/-! ### The machine -/

/-- Where a character may stand: between literals, among the first digits of a literal, or behind
its point. -/
inductive Phase where
  | between
  | whole
  | fraction
deriving DecidableEq

/-- The phase after a character, unless the character has no place in the phase. -/
def Phase.next? (p : Phase) (c : Char) : Option Phase :=
  if isSeparator c then some between
  else if isFigure c then some (if p = fraction then fraction else whole)
  else if c = '.' ∧ p = whole then some fraction
  else none

/-- The phase after a text, unless one of its characters has no place. -/
def run? (p : Phase) (w : List Char) : Option Phase :=
  w.foldlM Phase.next? p

section Run

variable {p q : Phase} {c : Char}

theorem not_isSeparator_of_isFigure (hc : isFigure c = true) : isSeparator c = false := by
  have h := isFigure_iff.mp hc
  fin_cases h <;> rfl

theorem next?_of_isSeparator (p : Phase) (hc : isSeparator c = true) :
    p.next? c = some .between := by
  rw [Phase.next?, if_pos hc]

theorem next?_of_isFigure (p : Phase) (hc : isFigure c = true) :
    p.next? c = some (if p = .fraction then .fraction else .whole) := by
  rw [Phase.next?, if_neg (by simp [not_isSeparator_of_isFigure hc]), if_pos hc]

/-- A character that no literal goes on with has the same place in every phase. -/
theorem next?_of_not_continues (p : Phase) (hc : isFigure c = false ∧ c ≠ '.') :
    p.next? c = Phase.between.next? c := by
  simp [Phase.next?, hc.1, hc.2]

@[simp] theorem run?_nil (p : Phase) : run? p [] = some p := rfl

@[simp] theorem run?_cons (p : Phase) (c : Char) (w : List Char) :
    run? p (c :: w) = (p.next? c).bind (run? · w) := rfl

theorem run?_append (p : Phase) (u v : List Char) :
    run? p (u ++ v) = (run? p u).bind (run? · v) :=
  List.foldlM_append

theorem run?_append_of_run? {u : List Char} (h : run? p u = some q) (v : List Char) :
    run? p (u ++ v) = run? q v := by
  rw [run?_append, h, Option.bind_some]

/-- What runs through a text runs through its beginnings. -/
theorem isSome_run?_of_append {u v : List Char} (h : (run? p (u ++ v)).isSome) :
    (run? p u).isSome := by
  rw [run?_append] at h
  exact Option.isSome_of_isSome_bind h

theorem run?_of_isFigures {v : List Char} (hv : IsFigures v) (hp : p ≠ .between) :
    run? p v = some p := by
  induction v with
  | nil => rfl
  | cons c v ih =>
    obtain ⟨hc, hv⟩ := isFigures_cons.mp hv
    have hstep : p.next? c = some p := by
      rw [next?_of_isFigure p hc]
      cases p with
      | between => exact absurd rfl hp
      | whole => rfl
      | fraction => rfl
    rw [run?_cons, hstep, Option.bind_some]
    exact ih hv

/-- A row of digits opens a literal. -/
theorem run?_between_of_isFigures {v : List Char} (hv : IsFigures v) (hne : v ≠ []) :
    run? .between v = some .whole := by
  obtain ⟨c, v, rfl⟩ := List.exists_cons_of_ne_nil hne
  obtain ⟨hc, hv⟩ := isFigures_cons.mp hv
  rw [run?_cons, next?_of_isFigure _ hc, Option.bind_some]
  exact run?_of_isFigures hv (by simp)

theorem run?_of_isSeparators {v : List Char} (hv : ∀ c ∈ v, isSeparator c = true) :
    run? .between v = some .between := by
  induction v with
  | nil => rfl
  | cons c v ih =>
    obtain ⟨hc, hv⟩ := List.forall_mem_cons.mp hv
    rw [run?_cons, next?_of_isSeparator _ hc, Option.bind_some]
    exact ih hv

/-- Behind a literal that does not go on, a text has the same chances as between literals. -/
theorem isSome_run?_of_isClosed (p : Phase) {v : List Char} (hv : IsClosed v) :
    (run? p v).isSome = (run? .between v).isSome := by
  cases v with
  | nil => rfl
  | cons c v => rw [run?_cons, run?_cons, next?_of_not_continues p (hv c rfl)]

end Run

/-! ### The machine takes the texts of the regular expression -/

/-- The texts of the literal that is open in a phase. -/
inductive Phase.IsOpen : Phase → List Char → Prop
  | between : IsOpen between []
  | whole {w : List Char} (hw : w ≠ []) (hf : IsFigures w) : IsOpen whole w
  | fraction {w f : List Char} (hw : w ≠ []) (hf : IsFigures w) (hf' : IsFigures f) :
      IsOpen fraction (w ++ '.' :: f)

/-- Texts that end with a separator. -/
def completed : RegularExpression Char :=
  ((1 + literal) * separator).star

theorem exists_isOpen_iff {v : List Char} :
    (∃ p : Phase, p.IsOpen v) ↔ v ∈ (1 + literal).matches' := by
  rw [matches'_add, Language.mem_add, matches'_epsilon, Language.mem_one, mem_literal]
  constructor
  · rintro ⟨p, hp⟩
    cases hp with
    | between => exact Or.inl rfl
    | whole hw hf => exact Or.inr ⟨_, .whole hw hf⟩
    | fraction hw hf hf' => exact Or.inr ⟨_, .pointed hw hf hf'⟩
  · rintro (rfl | ⟨l, hl⟩)
    · exact ⟨_, .between⟩
    · cases hl with
      | whole hw hf => exact ⟨_, .whole hw hf⟩
      | pointed hw hf hf' => exact ⟨_, .fraction hw hf hf'⟩

/-- A character completes the open literal or goes on with it. -/
theorem Phase.IsOpen.step {p q : Phase} {v : List Char} {c : Char} (hq : q.IsOpen v)
    (h : q.next? c = some p) : isSeparator c = true ∧ p = .between ∨ p.IsOpen (v ++ [c]) := by
  rw [Phase.next?] at h
  split at h
  next hc => exact .inl ⟨hc, (Option.some.inj h).symm⟩
  next =>
    right
    split at h
    next hc =>
      obtain rfl := Option.some.inj h
      cases hq with
      | between => exact .whole (by simp) (List.forall_mem_singleton.mpr hc)
      | whole hw hf => exact .whole (by simp) (hf.concat hc)
      | fraction hw hf hf' =>
        rw [List.append_assoc, List.cons_append]
        exact .fraction hw hf (hf'.concat hc)
    next =>
      split at h
      next hpoint =>
        obtain ⟨rfl, rfl⟩ := hpoint
        obtain rfl := Option.some.inj h
        cases hq with
        | whole hw hf => exact .fraction hw hf (by simp [IsFigures])
      next => cases h

theorem Phase.IsOpen.run? {p : Phase} {v : List Char} (h : p.IsOpen v) :
    Lexicon.run? .between v = some p := by
  cases h with
  | between => rfl
  | whole hw hf => exact run?_between_of_isFigures hf hw
  | fraction hw hf hf' =>
    rw [run?_append_of_run? (run?_between_of_isFigures hf hw), run?_cons]
    exact run?_of_isFigures hf' (by simp)

theorem nil_mem_completed : [] ∈ completed.matches' := by
  rw [completed, matches'_star]
  exact Language.nil_mem_kstar _

theorem append_mem_completed {u v : List Char} {c : Char} (hu : u ∈ completed.matches')
    (hv : v ∈ (1 + literal).matches') (hc : isSeparator c = true) :
    u ++ v ++ [c] ∈ completed.matches' := by
  rw [completed, matches'_star, Language.mem_kstar] at hu ⊢
  obtain ⟨L, rfl, hL⟩ := hu
  refine ⟨L ++ [v ++ [c]], by simp, ?_⟩
  refine List.forall_mem_append.mpr ⟨hL, List.forall_mem_singleton.mpr ?_⟩
  rw [matches'_mul]
  exact Language.append_mem_mul hv (mem_separator.mpr ⟨c, hc, rfl⟩)

theorem run?_of_mem_completed {u : List Char} (hu : u ∈ completed.matches') :
    run? .between u = some .between := by
  rw [completed, matches'_star, Language.mem_kstar] at hu
  obtain ⟨L, rfl, hL⟩ := hu
  induction L with
  | nil => rfl
  | cons y L ih =>
    obtain ⟨hy, htail⟩ := List.forall_mem_cons.mp hL
    rw [matches'_mul, Language.mem_mul] at hy
    obtain ⟨v, hv, s, hs, rfl⟩ := hy
    obtain ⟨p, hp⟩ := exists_isOpen_iff.mpr hv
    obtain ⟨c, hc, rfl⟩ := mem_separator.mp hs
    rw [List.flatten_cons, List.append_assoc, run?_append_of_run? hp.run?, List.singleton_append,
      run?_cons, next?_of_isSeparator p hc, Option.bind_some]
    exact ih htail

/-- The machine is in a phase after the texts that end with an open literal of the phase. -/
theorem run?_eq_some_iff {w : List Char} {p : Phase} :
    run? .between w = some p ↔ ∃ u v, w = u ++ v ∧ u ∈ completed.matches' ∧ p.IsOpen v := by
  constructor
  · -- on the end of the text: its last character completes the open literal or goes on with it
    intro h
    induction w using List.reverseRecOn generalizing p with
    | nil =>
      obtain rfl := Option.some.inj h
      exact ⟨[], [], rfl, nil_mem_completed, .between⟩
    | append_singleton w c ih =>
      rw [run?_append, Option.bind_eq_some_iff] at h
      obtain ⟨q, hq, hc⟩ := h
      rw [run?_cons, Option.bind_eq_some_iff] at hc
      obtain ⟨p', hc, hp⟩ := hc
      obtain rfl := Option.some.inj hp
      obtain ⟨u, v, rfl, hu, hv⟩ := ih hq
      rcases hv.step hc with ⟨hsep, rfl⟩ | hopen
      · refine ⟨_, [], (List.append_nil _).symm, ?_, .between⟩
        exact append_mem_completed hu (exists_isOpen_iff.mp ⟨q, hv⟩) hsep
      · exact ⟨u, v ++ [c], List.append_assoc .., hu, hopen⟩
  · rintro ⟨u, v, rfl, hu, hv⟩
    rw [run?_append_of_run? (run?_of_mem_completed hu), hv.run?]

/-- The machine takes the texts of the lexicon. -/
theorem run?_isSome_iff {w : List Char} : (run? .between w).isSome ↔ w ∈ guarded.matches' := by
  rw [Option.isSome_iff_exists, guarded, ← completed, matches'_mul, Language.mem_mul]
  simp only [run?_eq_some_iff, ← exists_isOpen_iff]
  constructor
  · rintro ⟨p, u, v, rfl, hu, hv⟩
    exact ⟨u, hu, v, ⟨p, hv⟩, rfl⟩
  · rintro ⟨u, hu, v, ⟨p, hv⟩, rfl⟩
    exact ⟨p, u, v, rfl, hu, hv⟩

/-- What a text of the lexicon begins with is in the lexicon. -/
theorem mem_guarded_of_append {u v : List Char} (h : u ++ v ∈ guarded.matches') :
    u ∈ guarded.matches' :=
  run?_isSome_iff.mp (isSome_run?_of_append (run?_isSome_iff.mpr h))

end Lexicon

/-! ### The scanner follows the machine -/

open Lexicon

theorem IsClosed.of_append {u v : List Char} (h : IsClosed (u ++ v)) : IsClosed u := by
  cases u with
  | nil => simp [IsClosed]
  | cons c u => exact h

theorem IsBlank.run? {b : List Char} (hb : IsBlank b) :
    Lexicon.run? .between b = some .between := by
  refine run?_of_isSeparators ?_
  intro c hc
  rw [isSeparator, hb c hc, Bool.true_or]

/-- Behind the text of a token, a text has the same chances as on its own. -/
theorem Lexeme.IsText.isSome_run? {x : Lexeme} {w u v : List Char} (hw : x.IsText w (u ++ v)) :
    (Lexicon.run? .between (w ++ u)).isSome = (Lexicon.run? .between u).isSome := by
  cases hw with
  | operator op =>
    have hop : isSeparator op.symbol = true := by simp [isSeparator]
    rw [List.singleton_append, run?_cons, next?_of_isSeparator _ hop, Option.bind_some]
  | number hl hrest =>
    obtain ⟨p, hp⟩ := exists_isOpen_iff.mpr (Or.inr (mem_literal.mpr ⟨_, hl⟩))
    rw [run?_append_of_run? hp.run?]
    exact isSome_run?_of_isClosed p hrest.of_append

/-- The machine runs through a text whose tokens can be read. -/
theorem run?_of_readTokens_ok {position : Nat} {cs : List Char} {ts : List Token}
    (h : (readTokens position cs).outcome = .ok ts) : (run? .between cs).isSome := by
  induction position, cs using readTokens.induct generalizing ts with
  | case1 position cs t next rest hs ih =>
    obtain ⟨us, hus, -⟩ := (readTokens_ok_iff hs).mp h
    obtain ⟨b, w, rfl, hb, hw, -⟩ := scan_eq_token hs
    -- the token is taken with all that belongs to it, so the rest is read as on its own
    rw [← List.append_nil rest] at hw
    rw [run?_append_of_run? hb.run?, hw.isSome_run?]
    exact ih hus
  | case2 position cs c k next rest hs =>
    rw [readTokens_of_stray hs] at h
    cases h
  | case3 position cs next hs =>
    obtain ⟨hb, -⟩ := scan_eq_finished hs
    rw [hb.run?]
    rfl

/-- The machine runs up to the character that stops a scan, and no further. -/
theorem run?_of_scan_eq_stray {position k next : Nat} {cs rest : List Char} {c : Char}
    (h : scan position cs = .stray c k next rest) :
    ∃ u v, cs = u ++ c :: v ∧ k = position + u.length ∧ (run? .between u).isSome ∧
      run? .between (u ++ [c]) = none := by
  obtain ⟨b, hb, ⟨v, rfl, hc, hk, -⟩ | ⟨w, f, v, rfl, hw, hf, hf', rfl, hk, -⟩⟩ := scan_eq_stray h
  · refine ⟨b, v, rfl, hk, by rw [hb.run?]; rfl, ?_⟩
    obtain ⟨hop, hfigure, hspace⟩ := hc
    rw [run?_append_of_run? hb.run?]
    simp [Phase.next?, isSeparator, hop, hfigure, hspace]
  · have hrun : run? .between (b ++ (w ++ '.' :: f)) = some .fraction := by
      rw [run?_append_of_run? hb.run?]
      exact (Phase.IsOpen.fraction hw hf hf').run?
    refine ⟨b ++ (w ++ '.' :: f), v, by simp, hk, by rw [hrun]; rfl, ?_⟩
    rw [run?_append_of_run? hrun]
    rfl

/-- The machine runs up to the character that stops the reading, and no further. -/
theorem run?_of_readTokens_error {position : Nat} {cs : List Char} {e : ParseError}
    (h : (readTokens position cs).outcome = .error e) :
    ∃ u c v, e = .stray c (position + u.length) ∧ cs = u ++ c :: v ∧ (run? .between u).isSome ∧
      run? .between (u ++ [c]) = none := by
  induction position, cs using readTokens.induct with
  | case1 position cs t next rest hs ih =>
    obtain ⟨u, c, v, rfl, rfl, hu, hc⟩ := ih ((readTokens_error_iff hs).mp h)
    obtain ⟨b, w, rfl, hb, hw, hposition, hnext⟩ := scan_eq_token hs
    refine ⟨b ++ (w ++ u), c, v, ?_, by simp, ?_, ?_⟩
    · rw [hnext, hposition]
      simp only [List.length_append, Nat.add_assoc]
    · rw [run?_append_of_run? hb.run?, hw.isSome_run?]
      exact hu
    · -- the bad character belongs to what no literal goes on with, too
      have hw' : t.lexeme.IsText w (u ++ [c] ++ v) := by simpa using hw
      rw [← Option.not_isSome_iff_eq_none] at hc ⊢
      rw [List.append_assoc, List.append_assoc, run?_append_of_run? hb.run?, hw'.isSome_run?]
      exact hc
  | case2 position cs c k next rest hs =>
    rw [readTokens_of_stray hs] at h
    cases h
    obtain ⟨u, v, hcs, rfl, hu, hc⟩ := run?_of_scan_eq_stray hs
    exact ⟨u, c, v, rfl, hcs, hu, hc⟩
  | case3 position cs next hs =>
    rw [readTokens_of_finished hs] at h
    cases h

section Tokenize

variable {source : List Char}

/-- A text that is refused leaves the lexicon at the character that is reported. -/
theorem leaves_of_tokenize_error {e : ParseError} (h : tokenize source = .error e) :
    ∃ u c v, e = .stray c u.length ∧ source = u ++ c :: v ∧ u ∈ guarded.matches' ∧
      u ++ [c] ∉ guarded.matches' := by
  obtain ⟨u, c, v, rfl, hsource, hu, hc⟩ := run?_of_readTokens_error h
  refine ⟨u, c, v, by rw [Nat.zero_add], hsource, run?_isSome_iff.mp hu, ?_⟩
  rw [← run?_isSome_iff, hc]
  simp

/-- The texts that have tokens are those of the lexicon. -/
theorem exists_tokenize_iff : (∃ ts, tokenize source = .ok ts) ↔ source ∈ guarded.matches' := by
  constructor
  · rintro ⟨ts, hts⟩
    exact run?_isSome_iff.mp (run?_of_readTokens_ok hts)
  · intro hmem
    cases h : tokenize source with
    | ok ts => exact ⟨ts, rfl⟩
    | error e =>
      obtain ⟨u, c, v, -, rfl, -, hc⟩ := leaves_of_tokenize_error h
      refine absurd (mem_guarded_of_append (v := v) ?_) hc
      simpa using hmem

theorem take_mem_guarded_of_le {m n : Nat} (h : source.take n ∈ guarded.matches') (hmn : m ≤ n) :
    source.take m ∈ guarded.matches' := by
  rw [← List.take_append_drop m (source.take n), List.take_take, Nat.min_eq_left hmn] at h
  exact mem_guarded_of_append h

/-- The shortest beginning outside the lexicon is one character longer than the longest inside. -/
theorem isLeast_iff (k : Nat) :
    IsLeast {n | source.take (n + 1) ∉ guarded.matches'} k ↔
      source.take k ∈ guarded.matches' ∧ source.take (k + 1) ∉ guarded.matches' := by
  constructor
  · rintro ⟨hk, hleast⟩
    refine ⟨?_, hk⟩
    cases k with
    | zero => exact run?_isSome_iff.mp rfl
    | succ k =>
      by_contra hout
      have := hleast hout
      omega
  · rintro ⟨hin, hout⟩
    refine ⟨hout, ?_⟩
    intro n hn
    by_contra hlt
    exact hn (take_mem_guarded_of_le hin (by omega))

/-- **The lexer accepts its lexicon and blames the first impossible character.**  The texts that
have tokens are those of the lexicon; any other text is refused at the last character of its
shortest beginning that is outside the lexicon.  It is there that the beginnings cease to have
tokens. -/
theorem tokenize_eq_lexicon (source : List Char) :
    ((∃ ts, tokenize source = .ok ts) ↔ source ∈ guarded.matches') ∧
      (source ∉ guarded.matches' →
        ∃ c k, tokenize source = .error (.stray c k) ∧ source[k]? = some c ∧
          IsLeast {n | source.take (n + 1) ∉ guarded.matches'} k) ∧
      ∀ k, IsLeast {n | source.take (n + 1) ∉ guarded.matches'} k ↔
        (∃ ts, tokenize (source.take k) = .ok ts) ∧
          ¬ ∃ ts, tokenize (source.take (k + 1)) = .ok ts := by
  refine ⟨exists_tokenize_iff, ?_, ?_⟩
  · intro hout
    cases h : tokenize source with
    | ok ts => exact absurd (exists_tokenize_iff.mp ⟨ts, h⟩) hout
    | error e =>
      obtain ⟨u, c, v, rfl, rfl, hu, hc⟩ := leaves_of_tokenize_error h
      refine ⟨c, u.length, rfl, by simp, (isLeast_iff _).mpr ⟨by simpa using hu, ?_⟩⟩
      rw [List.take_length_add_append]
      exact hc
  · intro k
    rw [isLeast_iff, exists_tokenize_iff, exists_tokenize_iff]

end Tokenize

/-- The text `1.2.`, in which one literal would have to start right behind another. -/
def pointedText : List Char := ['1', '.', '2', '.']

theorem tokenize_eq_lexicon_pointedText :
    pointedText ∉ guarded.matches' ∧
      ∃ c k, tokenize pointedText = .error (.stray c k) ∧ pointedText[k]? = some c ∧
        IsLeast {n | pointedText.take (n + 1) ∉ guarded.matches'} k :=
  ⟨by decide, (tokenize_eq_lexicon pointedText).2.1 (by decide)⟩

/-- Literals cannot stand side by side: what would be one literal behind another is refused at the
second point. -/
theorem not_exists_tokenize_iff_unguarded_pointedText :
    pointedText ∈ unguarded.matches' ∧ tokenize pointedText = .error (.stray '.' 3) ∧
      ¬ ((∃ ts, tokenize pointedText = .ok ts) ↔ pointedText ∈ unguarded.matches') := by
  have hmem : pointedText ∈ unguarded.matches' := by decide
  have hstray : tokenize pointedText = .error (.stray '.' 3) := by
    rw [tokenize, readTokens_of_stray rfl]
    rfl
  refine ⟨hmem, hstray, ?_⟩
  intro h
  obtain ⟨ts, hts⟩ := h.mpr hmem
  rw [hstray] at hts
  cases hts

end LineCalculator
