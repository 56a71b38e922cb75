/-
Reading tokens off a text.

`scan` finds the next token at the front of a text: it skips blanks, takes an operator by its symbol
and a number by its longest literal, and stops at the first character that can start neither. A
literal is a row of digits, which a point and a second, possibly empty, row may follow; a second
point cannot continue it and is reported where it stands.

* `Scan.rest_length_lt` — a token takes at least one character;
* `Scan.next_add_length` — the offset after a scan and the text that is left stay in step.
-/
import LineCalculator.Token

namespace LineCalculator

/-- Whether a character may stand between tokens. -/
def isSpace (c : Char) : Bool :=
  c = ' ' || c = '\t' || c = '\n' || c = '\r'

/-- Whether a character is one of the ten digits of a literal. -/
def isFigure (c : Char) : Bool :=
  '0' ≤ c && c ≤ '9'

/-- The two rows of digits of a number literal. -/
structure Literal where
  whole : List Char
  fraction : List Char

namespace Literal

/-- The decimal that a literal stands for. -/
def decimal (l : Literal) : Decimal :=
  ⟨Decimal.ofFigures (l.whole ++ l.fraction), -(l.fraction.length : Int)⟩

/-- The double nearest to a literal. -/
def value (l : Literal) : Float :=
  l.decimal.toFloat

end Literal

/-- What stands at the front of a text: a token, a character that no token can take, or nothing but
blanks. Each comes with the offset of the text that is left, and with that text. -/
inductive Scan where
  | token (token : Token) (next : Nat) (rest : List Char)
  | stray (char : Char) (position : Nat) (next : Nat) (rest : List Char)
  | finished (next : Nat)

namespace Scan

/-- The offset of the text that is left. -/
def next : Scan → Nat
  | token _ next _ => next
  | stray _ _ next _ => next
  | finished next => next

/-- The text that is left. -/
def rest : Scan → List Char
  | token _ _ rest => rest
  | stray _ _ _ rest => rest
  | finished _ => []

end Scan

/-- The number at the front of a text that starts with a digit. -/
def scanNumber (position : Nat) (cs : List Char) : Scan :=
  let whole := cs.takeWhile isFigure
  match cs.dropWhile isFigure with
  | '.' :: after =>
    let fraction := after.takeWhile isFigure
    let next := position + whole.length + 1 + fraction.length
    match after.dropWhile isFigure with
    | '.' :: rest => .stray '.' next next ('.' :: rest)
    | rest => .token ⟨.number (Literal.value ⟨whole, fraction⟩), position⟩ next rest
  | rest => .token ⟨.number (Literal.value ⟨whole, []⟩), position⟩ (position + whole.length) rest

/-- The token at the front of a text, whose first character has the given offset. -/
def scan (position : Nat) : List Char → Scan
  | [] => .finished position
  | c :: cs =>
    match Operator.ofSymbol? c with
    | some op => .token ⟨.operator op, position⟩ (position + 1) cs
    | none =>
      if isFigure c then scanNumber position (c :: cs)
      else if isSpace c then scan (position + 1) cs
      else .stray c position (position + 1) cs

theorem length_takeWhile_add_dropWhile (p : Char → Bool) (cs : List Char) :
    (cs.takeWhile p).length + (cs.dropWhile p).length = cs.length := by
  rw [← List.length_append, List.takeWhile_append_dropWhile]

/-- The offset after a number and the text that is left stay in step. -/
theorem scanNumber_next_add_length (position : Nat) (cs : List Char) :
    (scanNumber position cs).next + (scanNumber position cs).rest.length =
      position + cs.length := by
  have whole := length_takeWhile_add_dropWhile isFigure cs
  unfold scanNumber
  split
  next after h =>
    have fraction := length_takeWhile_add_dropWhile isFigure after
    rw [h] at whole
    split
    next rest h' =>
      rw [h'] at fraction
      simp [Scan.next, Scan.rest] at whole fraction ⊢
      omega
    next =>
      simp [Scan.next, Scan.rest] at whole fraction ⊢
      omega
  next =>
    simp [Scan.next, Scan.rest]
    omega

/-- The offset after a scan and the text that is left stay in step. -/
theorem scan_next_add_length (position : Nat) (cs : List Char) :
    (scan position cs).next + (scan position cs).rest.length = position + cs.length := by
  fun_induction scan position cs with
  | case1 => simp [Scan.next, Scan.rest]
  | case2 => simp [Scan.next, Scan.rest]; omega
  | case3 position c cs => exact scanNumber_next_add_length position (c :: cs)
  | case4 _ _ _ _ _ _ ih => simp at ih ⊢; omega
  | case5 => simp [Scan.next, Scan.rest]; omega

/-- A number takes at least its first digit. -/
theorem scanNumber_next_gt {position : Nat} {c : Char} {cs : List Char} (h : isFigure c) :
    position < (scanNumber position (c :: cs)).next := by
  have : 0 < ((c :: cs).takeWhile isFigure).length := by simp [h]
  unfold scanNumber
  split
  · split <;> simp only [Scan.next] <;> omega
  · simp only [Scan.next]; omega

/-- A scan that does not end the text moves on. -/
theorem scan_next_gt {position : Nat} {cs : List Char}
    (h : ∀ next, scan position cs ≠ .finished next) : position < (scan position cs).next := by
  fun_induction scan position cs with
  | case1 => exact absurd rfl (h _)
  | case2 => simp [Scan.next]
  | case3 _ _ _ _ hc => exact scanNumber_next_gt hc
  | case4 _ _ _ _ _ _ ih => exact Nat.lt_of_succ_lt (ih h)
  | case5 => simp [Scan.next]

/-- A token takes at least one character. -/
theorem Scan.rest_length_lt {position next : Nat} {cs rest : List Char} {t : Token}
    (h : scan position cs = .token t next rest) : rest.length < cs.length := by
  have moved : position < (scan position cs).next := scan_next_gt (by simp [h])
  have step := scan_next_add_length position cs
  rw [h] at moved step
  simp only [Scan.next, Scan.rest] at moved step
  omega

end LineCalculator
