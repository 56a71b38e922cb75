/-
Doubles as exact numbers.

A double is not-a-number, an infinity, or a sign and a magnitude `significand * 2 ^ exponent`.
`Datum.ofFloat` reads that off the bits, and `Magnitude.bits` writes the bits of a magnitude back;
everything that prints or classifies a number works on these exact values and never on rounded
ones.

* `Magnitude.natural?` — the natural number that a magnitude is, if it is one;
* `Float.isOddWhole` — whether a double is an odd whole number, of either sign;
* `nearestBits` — the double nearest to a fraction, a tie going to the even significand.
-/
namespace LineCalculator

/-- A finite value without its sign: `significand * 2 ^ exponent`. -/
structure Magnitude where
  significand : Nat
  exponent : Int
deriving DecidableEq, Repr

namespace Magnitude

/-- The numerator of the magnitude as a fraction of naturals. -/
def numerator (m : Magnitude) : Nat :=
  m.significand * Nat.pow 2 m.exponent.toNat

/-- The denominator of the magnitude as a fraction of naturals, a power of two. -/
def denominator (m : Magnitude) : Nat :=
  Nat.pow 2 (-m.exponent).toNat

theorem denominator_pos (m : Magnitude) : 0 < m.denominator :=
  Nat.two_pow_pos _

/-- The natural number that the magnitude is, if it is one. -/
def natural? (m : Magnitude) : Option Nat :=
  if m.numerator % m.denominator = 0 then some (m.numerator / m.denominator) else none

/-- The bits of the non-negative double of this magnitude. Exponent field and fraction share one
sum: a significand of 53 bits carries its leading bit into the field. -/
def bits (m : Magnitude) : Nat :=
  (m.exponent + 1074).toNat * Nat.pow 2 52 + m.significand

end Magnitude

/-- What a double stands for. -/
inductive Datum where
  | nan
  | infinity (negative : Bool)
  | finite (negative : Bool) (magnitude : Magnitude)
deriving DecidableEq, Repr

/-- Reads a double off its sign bit, its eleven exponent bits and its fraction. -/
def Datum.ofFloat (x : Float) : Datum :=
  let bits : Nat := x.toBits.toNat
  let negative := decide (Nat.pow 2 63 ≤ bits)
  let field : Nat := bits / Nat.pow 2 52 % Nat.pow 2 11
  let fraction : Nat := bits % Nat.pow 2 52
  if field = 2047 then
    if fraction = 0 then .infinity negative else .nan
  else if field = 0 then .finite negative ⟨fraction, -1074⟩
  else .finite negative ⟨Nat.pow 2 52 + fraction, (field : Int) - 1075⟩

/-- Whether a double is an odd whole number, of either sign. -/
def isOddWhole (x : Float) : Bool :=
  match Datum.ofFloat x with
  | .finite _ m =>
    match m.natural? with
    | some n => n % 2 == 1
    | none => false
  | _ => false

/-- A quotient rounded to a whole number, a half going to the even neighbour. -/
def roundEven (numerator denominator : Nat) : Nat :=
  let quotient := numerator / denominator
  let remainder := numerator % denominator
  if 2 * remainder < denominator then quotient
  else if denominator < 2 * remainder then quotient + 1
  else quotient + quotient % 2

/-- The exponent of the last place that a double near the positive fraction has: 53 bits from the
leading one, and none below `2 ^ -1074`. -/
def lastPlace (numerator denominator : Nat) : Int :=
  let estimate : Int := (numerator.log2 : Int) - denominator.log2
  let leading :=
    if numerator * Nat.pow 2 (-estimate).toNat < denominator * Nat.pow 2 estimate.toNat then
      estimate - 1
    else estimate
  max (leading - 52) (-1074)

/-- The bits of positive infinity, which follow those of the greatest finite double. -/
def infinityBits : Nat :=
  2047 * Nat.pow 2 52

/-- The bits of the double nearest to a fraction, a tie going to the even significand. A value
that rounds past the greatest double is infinite. -/
def nearestBits (numerator denominator : Nat) : Nat :=
  if numerator = 0 then 0
  else
    let place := lastPlace numerator denominator
    if 971 < place then infinityBits
    else
      Magnitude.bits
        ⟨roundEven (numerator * Nat.pow 2 (-place).toNat) (denominator * Nat.pow 2 place.toNat),
          place⟩

end LineCalculator
