/-
How numbers are written.

Three texts of one double are in use, each a value of `NumberStyle`: `NumberStyle.result` for what
the calculator answers, `NumberStyle.literal` for the lines that report its steps, and
`NumberStyle.json` for the doubles of a tree dump. They share the digits (the fewest that read back)
and the layout: positional for a leading digit between `10 ^ -4` and `10 ^ 15`, otherwise with a
signed exponent of at least two digits. A result is that text with the zeros of its exponent cut off.
-/
import LineCalculator.Number.Decimal

namespace LineCalculator

/-- The decisions in which the texts of a number differ. -/
structure NumberStyle where
  /-- Whole numbers below the bound are written with all their digits and no point. -/
  wholeInFull : Bool
  /-- The zeros at the front of an exponent are cut off. -/
  exponentTrimmed : Bool
  nan : List Char
  infinity : List Char

/-- The bound below which whole numbers may be written in full. -/
def wholeBound : Nat :=
  Nat.pow 10 21

namespace NumberStyle

/-- The text of a result: `42`, `1e-7`, `-0`, `Infinity`. -/
def result : NumberStyle where
  wholeInFull := true
  exponentTrimmed := true
  nan := "NaN".toList
  infinity := "Infinity".toList

/-- The text that marks a number as a double: `42.0`, `1e-07`, `-0.0`, `inf`. -/
def literal : NumberStyle where
  wholeInFull := false
  exponentTrimmed := false
  nan := "nan".toList
  infinity := "inf".toList

/-- The text of a double in a dump: `0.5`, `1e-07`, `Infinity`. -/
def json : NumberStyle where
  wholeInFull := false
  exponentTrimmed := false
  nan := "NaN".toList
  infinity := "Infinity".toList

/-- A row of `n` zeros. -/
def zeros (n : Nat) : List Char :=
  List.replicate n '0'

/-- Digits with a point after the first `point` of them, padded with zeros on either side so that
the point stands between two digits. -/
def positional (digits : List Char) (point : Int) : List Char :=
  if point ≤ 0 then '0' :: '.' :: (zeros (-point).toNat ++ digits)
  else
    let whole := point.toNat
    if digits.length ≤ whole then digits ++ zeros (whole - digits.length) ++ ['.', '0']
    else digits.take whole ++ '.' :: digits.drop whole

/-- An exponent with its sign and at least two digits. -/
def exponent (e : Int) : List Char :=
  let digits := Decimal.figures e.natAbs
  'e' :: (if e < 0 then '-' else '+') :: (zeros (2 - digits.length) ++ digits)

/-- Digits with a point after the first of them, if others follow, and the exponent of the
first. -/
def scientific (digits : List Char) (e : Int) : List Char :=
  match digits with
  | first :: second :: more => first :: '.' :: second :: more ++ exponent e
  | _ => digits ++ exponent e

/-- A decimal in positional or scientific form, by the place of its leading digit. -/
def layout (d : Decimal) : List Char :=
  let digits := Decimal.figures d.digits
  let point := d.exponent + digits.length
  if -4 < point ∧ point ≤ 16 then positional digits point
  else scientific digits (point - 1)

/-- A text with the zeros cut off that stand behind the sign of its exponent, if it has one. -/
def trimExponent (text : List Char) : List Char :=
  match text.dropWhile (· ≠ 'e') with
  | mark :: sign :: digits => text.takeWhile (· ≠ 'e') ++ mark :: sign :: digits.dropWhile (· = '0')
  | _ => text

/-- The fewest digits that read back to a magnitude that is not zero. -/
def shortest (n : NumberStyle) (m : Magnitude) : List Char :=
  let text := layout (Decimal.shortest m)
  if n.exponentTrimmed then trimExponent text else text

/-- A magnitude: in full if it is whole, below the bound and to be written so, otherwise with the
fewest digits that read back. -/
def magnitude (n : NumberStyle) (m : Magnitude) : List Char :=
  match m.natural? with
  | some k =>
    if n.wholeInFull ∧ k < wholeBound then Decimal.figures k
    else if k = 0 then ['0', '.', '0']
    else n.shortest m
  | none => n.shortest m

/-- A minus sign in front of negative values. -/
def signed (negative : Bool) (text : List Char) : List Char :=
  if negative then '-' :: text else text

/-- The text of a double. -/
def write (n : NumberStyle) (x : Float) : List Char :=
  match Datum.ofFloat x with
  | .nan => n.nan
  | .infinity negative => signed negative n.infinity
  | .finite negative m =>
    signed negative (n.magnitude m)

end NumberStyle

end LineCalculator
