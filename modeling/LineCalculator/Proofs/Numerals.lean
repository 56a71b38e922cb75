/-
Numerals.

A number is written as a literal, with an exponent of ten behind it in scientific form.  Its text is
read by a reader for decimals of any form: figures, with or without a fraction and an exponent, and
the name of infinity, with or without a minus sign.  A numeral is canonical if its fraction does not
end in a zero and its exponent, if there is one, is not zero.

* `readNumber?` — the double that a text stands for;
* `Numeral.IsCanonical.readDecimal?_spelling` — a numeral is read as the decimal that it stands for;
* `Numeral.IsCanonical.not_pointZero_suffix`, `Numeral.IsCanonical.exponent_form` — how a numeral
  ends, and what its exponent is like.
-/
import LineCalculator.Proofs.Decimals

namespace LineCalculator

/-! ### Numerals -/

/-- The text of a literal, with a point only where a fraction follows. -/
def Literal.spelling (l : Literal) : List Char :=
  if l.fraction = [] then l.whole else l.whole ++ '.' :: l.fraction

theorem Literal.isText_spelling {l : Literal} (hne : l.whole ≠ []) (hw : IsFigures l.whole)
    (hf : IsFigures l.fraction) : l.IsText l.spelling := by
  obtain ⟨w, f⟩ := l
  unfold Literal.spelling
  split
  next h =>
    cases h
    exact .whole hne hw
  next => exact .pointed hne hw hf

/-- A literal has no mark of an exponent. -/
theorem Literal.IsText.e_not_mem {l : Literal} {w : List Char} (h : l.IsText w) : 'e' ∉ w := by
  intro hmem
  rcases h.mem hmem with hc | hc
  · exact absurd hc (by decide)
  · cases hc

/-- A literal, with an exponent of ten behind it in scientific form. -/
structure Numeral where
  literal : Literal
  exponent? : Option ℤ

namespace Numeral

/-- The decimal that a numeral stands for. -/
def decimal (n : Numeral) : Decimal :=
  { n.literal.decimal with exponent := n.exponent?.getD 0 + n.literal.decimal.exponent }

/-- The text of an exponent, if there is one. -/
def exponentText : Option ℤ → List Char
  | none => []
  | some e => 'e' :: (if e < 0 then '-' else '+') :: Decimal.figures e.natAbs

/-- The text of a numeral. -/
def spelling (n : Numeral) : List Char :=
  n.literal.spelling ++ exponentText n.exponent?

/-- Whether a numeral has a whole part, a fraction that does not end in a zero, and no exponent that
is zero. -/
structure IsCanonical (n : Numeral) : Prop where
  whole_ne_nil : n.literal.whole ≠ []
  whole : IsFigures n.literal.whole
  fraction : IsFigures n.literal.fraction
  fraction_end : n.literal.fraction.getLast? ≠ some '0'
  exponent : n.exponent? ≠ some 0

variable {n : Numeral}

theorem IsCanonical.isText (h : n.IsCanonical) : n.literal.IsText n.literal.spelling :=
  Literal.isText_spelling h.whole_ne_nil h.whole h.fraction

end Numeral

/-! ### Reading numerals -/

/-- The number of a row of figures, if a text is one. -/
def figures? (cs : List Char) : Option ℕ :=
  if cs ≠ [] ∧ IsFigures cs then some (Decimal.ofFigures cs) else none

/-- The exponent at the end of a numeral: none at all, or figures behind its mark, with or without a
sign. -/
def readExponent? : List Char → Option ℤ
  | [] => some 0
  | 'e' :: '-' :: cs => (figures? cs).map fun n => -(n : ℤ)
  | 'e' :: '+' :: cs => (figures? cs).map Int.ofNat
  | 'e' :: cs => (figures? cs).map Int.ofNat
  | _ => none

/-- The decimal of a text of figures, with or without a fraction and an exponent. -/
def readDecimal? (cs : List Char) : Option Decimal :=
  let whole := cs.takeWhile isFigure
  if whole = [] then none
  else
    match cs.dropWhile isFigure with
    | '.' :: after =>
      let fraction := after.takeWhile isFigure
      if fraction = [] then none
      else
        (readExponent? (after.dropWhile isFigure)).map fun e =>
          ⟨Decimal.ofFigures (whole ++ fraction), e - fraction.length⟩
    | rest => (readExponent? rest).map fun e => ⟨Decimal.ofFigures whole, e⟩

/-- The bits of the double without a sign that a text stands for. -/
def readMagnitude? (cs : List Char) : Option ℕ :=
  if cs = "Infinity".toList then some infinityBits else (readDecimal? cs).map Decimal.toBits

/-- The double that a text stands for: a decimal or an infinity, with a minus sign in front or
without one. -/
def readNumber? : List Char → Option Float
  | '-' :: cs => (readMagnitude? cs).map (signedDouble true)
  | cs => (readMagnitude? cs).map (signedDouble false)

theorem figures?_figures (n : ℕ) : figures? (Decimal.figures n) = some n := by
  rw [figures?, if_pos ⟨Decimal.figures_ne_nil n, Decimal.isFigures_figures n⟩,
    Decimal.ofFigures_figures]

namespace Numeral

variable {n : Numeral}

theorem readExponent?_exponentText (e : Option ℤ) :
    readExponent? (exponentText e) = some (e.getD 0) := by
  cases e with
  | none => rfl
  | some e =>
    have habs := figures?_figures e.natAbs
    by_cases he : e < 0
    · rw [exponentText, if_pos he, readExponent?, habs]
      exact congrArg some (show -(e.natAbs : ℤ) = e by omega)
    · rw [exponentText, if_neg he, readExponent?, habs]
      exact congrArg some (show (e.natAbs : ℤ) = e by omega)

theorem head?_exponentText {e : Option ℤ} {c : Char} (h : c ∈ (exponentText e).head?) :
    c = 'e' := by
  cases e with
  | none => cases h
  | some e => exact (Option.some.inj h).symm

/-- A numeral is read as the decimal that it stands for. -/
theorem IsCanonical.readDecimal?_spelling (h : n.IsCanonical) :
    readDecimal? n.spelling = some n.decimal := by
  obtain ⟨⟨w, f⟩, e⟩ := n
  obtain ⟨hne, hw, hf, -, -⟩ := h
  dsimp only at hne hw hf
  have hexponent : ∀ c ∈ (exponentText e).head?, isFigure c = false ∧ c ≠ '.' := by
    intro c hc
    rw [head?_exponentText hc]
    decide
  have hfigure := fun c hc => (hexponent c hc).1
  unfold readDecimal? spelling Literal.spelling
  dsimp only
  split
  next hnil =>
    subst hnil
    rw [takeWhile_figures hw hfigure, dropWhile_figures hw hfigure, if_neg hne]
    split
    next hpoint =>
      exact absurd rfl (hexponent '.' (by rw [hpoint]; rfl)).2
    next =>
      rw [readExponent?_exponentText]
      simp [decimal, Literal.decimal]
  next hcons =>
    have hpoint : ∀ c ∈ ('.' :: (f ++ exponentText e)).head?, isFigure c = false := by
      intro c hc
      cases hc
      decide
    rw [List.append_assoc, List.cons_append, takeWhile_figures hw hpoint,
      dropWhile_figures hw hpoint, if_neg hne]
    simp only [takeWhile_figures hf hfigure, dropWhile_figures hf hfigure, if_neg hcons,
      readExponent?_exponentText]
    rfl

/-! ### The form of numerals -/

theorem not_mem_of_isFigures {w : List Char} (h : IsFigures w) {c : Char}
    (hc : isFigure c = false) : c ∉ w := by
  intro hmem
  rw [h c hmem] at hc
  cases hc

theorem IsCanonical.e_not_mem (h : n.IsCanonical) : 'e' ∉ n.literal.spelling :=
  h.isText.e_not_mem

theorem mem_exponentText {e : ℤ} {c : Char} (h : c ∈ exponentText (some e)) :
    c = 'e' ∨ c = '-' ∨ c = '+' ∨ isFigure c = true := by
  rcases List.mem_cons.mp h with rfl | h
  · exact .inl rfl
  · rcases List.mem_cons.mp h with rfl | h
    · split
      · exact .inr (.inl rfl)
      · exact .inr (.inr (.inl rfl))
    · exact .inr (.inr (.inr (Decimal.isFigures_figures _ c h)))

/-- A numeral does not end in a fraction of zero. -/
theorem IsCanonical.not_pointZero_suffix (h : n.IsCanonical) : ¬ ['.', '0'] <:+ n.spelling := by
  intro hsuffix
  obtain ⟨⟨w, f⟩, e⟩ := n
  obtain ⟨hne, hw, hf, hend, -⟩ := h
  cases e with
  | none =>
    rw [spelling, exponentText, List.append_nil, Literal.spelling] at hsuffix
    split at hsuffix
    next =>
      exact not_mem_of_isFigures hw (by decide) (hsuffix.subset List.mem_cons_self)
    next hcons =>
      -- the last figure of the fraction is the last character
      have hzero : ['0'] <:+ w ++ '.' :: f := (List.suffix_cons '.' ['0']).trans hsuffix
      have hfraction : f <:+ w ++ '.' :: f := (List.suffix_cons '.' f).trans (List.suffix_append ..)
      obtain ⟨u, rfl⟩ := List.suffix_of_suffix_length_le hzero hfraction
        (List.length_pos_of_ne_nil hcons)
      exact hend List.getLast?_concat
  | some e =>
    have hexponent := List.suffix_of_suffix_length_le hsuffix (List.suffix_append ..)
      (show 2 ≤ (exponentText (some e)).length by simp [exponentText])
    rcases mem_exponentText (hexponent.subset List.mem_cons_self) with hc | hc | hc | hc
    · cases hc
    · cases hc
    · cases hc
    · cases hc

/-- An exponent has a sign and figures, of which the first is not zero. -/
theorem IsCanonical.exponent_form (h : n.IsCanonical) {front back : List Char}
    (heq : n.spelling = front ++ 'e' :: back) :
    ∃ sign first more, back = sign :: first :: more ∧ (sign = '+' ∨ sign = '-') ∧ first ≠ '0' ∧
      IsFigures (first :: more) := by
  have hliteral := h.e_not_mem
  obtain ⟨l, e⟩ := n
  cases e with
  | none =>
    rw [spelling, exponentText, List.append_nil] at heq
    rw [heq] at hliteral
    exact absurd (List.mem_append_right _ List.mem_cons_self) hliteral
  | some e =>
    have hne : e.natAbs ≠ 0 := by
      intro hzero
      rw [Int.natAbs_eq_zero] at hzero
      exact h.exponent (congrArg some hzero)
    obtain ⟨first, more, hfigures, hfirst⟩ := Decimal.exists_figures_cons hne
    have hall := hfigures ▸ Decimal.isFigures_figures e.natAbs
    rw [spelling, exponentText, hfigures] at heq
    generalize hsign : (if e < 0 then '-' else '+') = sign at heq
    have hsign' : sign = '+' ∨ sign = '-' := by
      rw [← hsign]
      split
      · exact .inr rfl
      · exact .inl rfl
    -- the mark of the exponent is the only one in the text
    have hback : 'e' ∉ sign :: first :: more := by
      rw [List.mem_cons, not_or]
      refine ⟨?_, not_mem_of_isFigures hall (by decide)⟩
      rcases hsign' with rfl | rfl <;> decide
    obtain ⟨-, -, hb⟩ := (List.append_cons_inj_of_notMem hliteral hback).mp heq
    exact ⟨sign, first, more, hb.symm, hsign', hfirst, hall⟩

end Numeral

end LineCalculator
