/-
Decimals and the doubles they stand for.

A decimal is `digits * 10 ^ exponent`. `Decimal.toFloat` rounds it to the nearest double, which is
how a literal gets its value; `Decimal.shortest` goes the other way and finds the decimal with the
fewest digits that rounds back to a given double, the nearest one where two have as few.

The search tries one digit, then two, up to seventeen, on the decimal grid that starts at the
leading digit; only the two grid points beside the value can round back to it. Where none does, the
exact decimal value of the double is taken, so that what is found always reads back.
-/
import LineCalculator.Number.Binary64

namespace LineCalculator

/-- The number `digits * 10 ^ exponent`. -/
structure Decimal where
  digits : Nat
  exponent : Int
deriving DecidableEq, Repr

namespace Decimal

/-- The numerator of the decimal as a fraction of naturals. -/
def numerator (d : Decimal) : Nat :=
  d.digits * Nat.pow 10 d.exponent.toNat

/-- The denominator of the decimal as a fraction of naturals, a power of ten. -/
def denominator (d : Decimal) : Nat :=
  Nat.pow 10 (-d.exponent).toNat

/-- The bits of the double nearest to the decimal. -/
def toBits (d : Decimal) : Nat :=
  nearestBits d.numerator d.denominator

/-- The double nearest to the decimal. -/
def toFloat (d : Decimal) : Float :=
  Float.ofBits (UInt64.ofNat d.toBits)

/-- The digits of a natural number in base ten, the leading one first. -/
def figures (n : Nat) : List Char :=
  Nat.toDigits 10 n

/-- An integer in base ten, with a minus sign if it is negative. -/
def integerText (n : Int) : List Char :=
  if n < 0 then '-' :: figures n.natAbs else figures n.natAbs

/-- The value of a decimal digit. -/
def figureValue (c : Char) : Nat :=
  c.toNat - '0'.toNat

/-- The number that a row of decimal digits stands for. -/
def ofFigures (cs : List Char) : Nat :=
  cs.foldl (fun n c => 10 * n + figureValue c) 0

/-- The number of digits before the point of a positive fraction, or minus the number of zeros
that follow the point before its first other digit. -/
def scale (numerator denominator : Nat) : Int :=
  if denominator ≤ numerator then (figures (numerator / denominator)).length
  else 1 - (figures ((denominator - 1) / numerator)).length

/-- Drops the trailing zeros of the digits into the exponent. -/
def dropZeros (d : Decimal) : Decimal :=
  if h : d.digits ≠ 0 ∧ d.digits % 10 = 0 then dropZeros ⟨d.digits / 10, d.exponent + 1⟩ else d
termination_by d.digits
decreasing_by omega

/-- The grid point of the magnitude at ten to the `place` that rounds back to it, if there is one:
of two the nearer, of two as near the even one. -/
def onGrid? (m : Magnitude) (place : Int) : Option Decimal :=
  let numerator := m.numerator * Nat.pow 10 (-place).toNat
  let denominator := m.denominator * Nat.pow 10 place.toNat
  let below := numerator / denominator
  let readsBack := fun n => Decimal.toBits ⟨n, place⟩ == m.bits
  if readsBack below then
    if readsBack (below + 1) then some ⟨roundEven numerator denominator, place⟩
    else some ⟨below, place⟩
  else if readsBack (below + 1) then some ⟨below + 1, place⟩
  else none

/-- The magnitude itself as a decimal: a power of two below one is a power of five in tenths. -/
def exact (m : Magnitude) : Decimal :=
  ⟨m.significand * Nat.pow 2 m.exponent.toNat * Nat.pow 5 (-m.exponent).toNat,
    -((-m.exponent).toNat : Int)⟩

/-- The decimal with the fewest digits that rounds to the magnitude, the nearest where there are
several. -/
def shortest (m : Magnitude) : Decimal :=
  let lead := scale m.numerator m.denominator
  let found := (List.range 17).findSome? fun (n : Nat) => onGrid? m (lead - (n + 1))
  dropZeros (found.getD (exact m))

end Decimal

end LineCalculator
