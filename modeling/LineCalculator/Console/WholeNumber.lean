/-
Whole numbers as values of options.

A whole number in plain form is a zero, or a row of digits that does not start with one. A value may
take some liberties with it, which are undone one after the other, in this order: white space around
it, a plus sign in front, zeros in front with underscores anywhere behind the first of them, a point
and zeros at the end, and single underscores inside. What then is not in plain form is refused; a
zero may have a minus sign.
-/
import LineCalculator.Number.Decimal
import LineCalculator.Text.Blank
import LineCalculator.Text.Digit

namespace LineCalculator.Console

/-- A text without a plus sign in front; before a minus sign it stays. -/
def dropPlus : List Char → List Char
  | '+' :: c :: cs => if c = '-' then '+' :: c :: cs else c :: cs
  | cs => cs

/-- What is left behind zeros and underscores of which the last is given: it stays itself at the end
of the text and before a point. -/
def afterZeros (last : Char) : List Char → List Char
  | [] => [last]
  | c :: cs =>
    if c = '0' ∨ c = '_' then afterZeros c cs
    else if c = '.' then last :: c :: cs
    else c :: cs

/-- A text without the zeros in front. -/
def dropLeadingZeros : List Char → List Char
  | '0' :: cs => afterZeros '0' cs
  | cs => cs

/-- A text without what follows its first point, if that is zeros. -/
def dropZeroFraction (cs : List Char) : List Char :=
  match cs.dropWhile (· ≠ '.') with
  | '.' :: '0' :: zeros => if zeros.all (· = '0') then cs.takeWhile (· ≠ '.') else cs
  | _ => cs

/-- A text without its underscores, up to one that does not stand alone between two others. -/
def joinGroups : List Char → List Char
  | c :: '_' :: d :: cs =>
    if c = '_' ∨ d = '_' then c :: '_' :: d :: cs else c :: joinGroups (d :: cs)
  | c :: cs => c :: joinGroups cs
  | [] => []

/-- The whole number in plain form that a text is, if it is one and not too long. -/
def plainNumber? : List Char → Option Nat
  | ['0'] | ['-', '0'] => some 0
  | '0' :: _ => none
  | [] => none
  | cs => if cs.all Char.isDigit then Text.numeral? cs else none

/-- The whole number that a value stands for. -/
def wholeNumber? (word : List Char) : Option Nat :=
  plainNumber? (joinGroups (dropZeroFraction (dropLeadingZeros (dropPlus (Text.trim word)))))

end LineCalculator.Console
