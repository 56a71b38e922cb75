/-
Numbers of a document.

An integer is written in base ten with an optional sign, or in base two, eight or sixteen behind
`0b`, `0o` or `0x`; an underscore may stand between two digits. A fraction or an exponent makes a
number a float, and so do the words for infinity and for what is no number. Base-ten integers with
too many digits are refused.
-/
import LineCalculator.Text.Digit
import LineCalculator.Text.DigitRun
import LineCalculator.Toml.Quoted
import LineCalculator.Toml.Value

namespace LineCalculator.Toml

open Text

/-- Whether a character is a digit of base ten. -/
def isDecimal (c : Char) : Bool :=
  '0' ≤ c && c ≤ '9'

/-- Whether a character is a digit of a base up to sixteen. -/
def isDigitOf (base : Nat) (c : Char) : Bool :=
  (hexValue? c).any (· < base)

/-- The number that digits stand for in a base. -/
def numberIn (base : Nat) (digits : List Char) : Nat :=
  digits.foldl (fun n c => base * n + (hexValue? c).getD 0) 0

/-- The base that the letter behind a zero announces. -/
def baseOf? (c : Char) : Option Nat :=
  if c = 'x' then some 16 else if c = 'o' then some 8 else if c = 'b' then some 2 else none

/-- The text after a fraction, or the whole text if it starts with none. -/
def skipFraction (s : List Char) : List Char :=
  match s with
  | '.' :: rest => ((digitRun? isDecimal rest).map (·.rest)).getD s
  | _ => s

/-- A text without a sign at its front. -/
def skipSign : List Char → List Char
  | '+' :: rest => rest
  | '-' :: rest => rest
  | s => s

/-- The text after an exponent, or the whole text if it starts with none. -/
def skipExponent (s : List Char) : List Char :=
  match s with
  | c :: rest =>
    if c = 'e' ∨ c = 'E' then ((digitRun? isDecimal (skipSign rest)).map (·.rest)).getD s else s
  | [] => s

theorem length_skipSign_le (s : List Char) : (skipSign s).length ≤ s.length := by
  unfold skipSign
  split <;> simp

theorem length_skipFraction_le (s : List Char) : (skipFraction s).length ≤ s.length := by
  unfold skipFraction
  split
  next rest =>
    match h : digitRun? isDecimal rest with
    | some run => have := length_rest_digitRun?_lt h; simp; omega
    | none => simp
  next => simp

theorem length_skipExponent_le (s : List Char) : (skipExponent s).length ≤ s.length := by
  unfold skipExponent
  split
  next c rest =>
    split
    · have := length_skipSign_le rest
      match h : digitRun? isDecimal (skipSign rest) with
      | some run => have := length_rest_digitRun?_lt h; simp; omega
      | none => simp
    · simp
  next => simp

/-- The whole part of a number in base ten: a zero, or digits that start with another. -/
def wholePart? (s : List Char) : Option DigitRun :=
  match s with
  | '0' :: rest => some ⟨['0'], rest⟩
  | _ => digitRun? isDecimal s

theorem length_rest_wholePart?_lt {s : List Char} {run : DigitRun} (h : wholePart? s = some run) :
    run.rest.length < s.length := by
  unfold wholePart? at h
  split at h
  · cases h; simp
  · exact length_rest_digitRun?_lt h

/-- An integer behind the mark of its base. -/
def readMarked? (s : List Char) : Option (Taken Value s) :=
  match s with
  | '0' :: mark :: rest =>
    (baseOf? mark).bind fun base =>
      match h : digitRun? (isDigitOf base) rest with
      | some run => some ⟨.integer (numberIn base run.digits), run.rest, by
          have := length_rest_digitRun?_lt h
          simp; omega⟩
      | none => none
  | _ => none

/-- A number in base ten. -/
def readDecimal : Reader Value := fun s =>
  match h : wholePart? (skipSign s) with
  | some whole =>
    let rest := skipExponent (skipFraction whole.rest)
    have shorter : rest.length < s.length := by
      show (skipExponent (skipFraction whole.rest)).length < s.length
      have := length_rest_wholePart?_lt h
      have := length_skipSign_le s
      have := length_skipFraction_le whole.rest
      have := length_skipExponent_le (skipFraction whole.rest)
      omega
    if rest.length < whole.rest.length then
      .ok ⟨.float (s.take (s.length - rest.length)), rest, shorter⟩
    else if maxDigits < whole.digits.length then .error .numeralTooLong
    else
      let n : Int := numberIn 10 whole.digits
      .ok ⟨.integer (if s.head? = some '-' then -n else n), rest, shorter⟩
  | none => .error .malformed

/-- One of the words for infinity and for what is no number, with or without a sign. -/
def readSpecial? (s : List Char) : Option (Taken Value s) :=
  let special (word rest : List Char) (shorter : rest.length < s.length) :=
    some ⟨.float word, rest, shorter⟩
  match h : skipSign s with
  | 'i' :: 'n' :: 'f' :: rest =>
    special ['i', 'n', 'f'] rest (by have := length_skipSign_le s; simp [h] at this; omega)
  | 'n' :: 'a' :: 'n' :: rest =>
    special ['n', 'a', 'n'] rest (by have := length_skipSign_le s; simp [h] at this; omega)
  | _ => none

/-- A number of any kind. -/
def readNumeral : Reader Value := fun s =>
  match readMarked? s with
  | some r => .ok r
  | none =>
    match readSpecial? s with
    | some r => .ok r
    | none => readDecimal s

end LineCalculator.Toml
