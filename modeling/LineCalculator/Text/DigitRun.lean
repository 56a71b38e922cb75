/-
Rows of digits with underscores between them.

An underscore may stand between two digits, to group them; it has no value. `digitRun?` takes such a
row off the front of a text, for digits of any kind.

* `length_rest_digitRun?_lt` — a row takes at least one character.
-/
namespace LineCalculator.Text

/-- Digits at the front of a text, without the underscores between them, and the text after them. -/
structure DigitRun where
  digits : List Char
  rest : List Char

/-- A row of digits with one in front. -/
def DigitRun.cons (c : Char) (run : DigitRun) : DigitRun :=
  { run with digits := c :: run.digits }

@[simp] theorem DigitRun.rest_cons (c : Char) (run : DigitRun) : (run.cons c).rest = run.rest := rfl

/-- The digits that continue a row of digits, each behind an underscore or not. -/
def moreDigits (isDigit : Char → Bool) : List Char → DigitRun
  | [] => ⟨[], []⟩
  | [c] => if isDigit c then ⟨[c], []⟩ else ⟨[], [c]⟩
  | c :: d :: s =>
    if isDigit c then (moreDigits isDigit (d :: s)).cons c
    else if c = '_' ∧ isDigit d then (moreDigits isDigit s).cons d
    else ⟨[], c :: d :: s⟩

/-- The row of digits at the front of a text. -/
def digitRun? (isDigit : Char → Bool) (s : List Char) : Option DigitRun :=
  match s with
  | c :: rest => if isDigit c then some ((moreDigits isDigit rest).cons c) else none
  | [] => none

theorem length_rest_moreDigits_le (isDigit : Char → Bool) (s : List Char) :
    (moreDigits isDigit s).rest.length ≤ s.length := by
  fun_induction moreDigits isDigit s <;> simp_all <;> omega

/-- A row takes at least one character. -/
theorem length_rest_digitRun?_lt {isDigit : Char → Bool} {s : List Char} {run : DigitRun}
    (h : digitRun? isDigit s = some run) : run.rest.length < s.length := by
  unfold digitRun? at h
  split at h
  next c rest =>
    have := length_rest_moreDigits_le isDigit rest
    split at h
    · cases h; simp; omega
    · cases h
  next => cases h

end LineCalculator.Text
