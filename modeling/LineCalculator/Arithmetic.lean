/-
The five operations on doubles.

Sums, differences and products are those of the IEEE standard. A quotient and a power are settled
from their operands alone where the divisor is zero or the power of finite operands is not finite,
so that their infinities and their signs do not depend on how the machine reports such cases.
-/
import LineCalculator.Number.Binary64
import LineCalculator.Operator

namespace LineCalculator

/-- Not a number. -/
def notANumber : Float :=
  Float.ofBits 0x7ff8000000000000

/-- An infinity with the given sign. -/
def infinite (negative : Bool) : Float :=
  Float.ofBits (if negative then 0xfff0000000000000 else 0x7ff0000000000000)

/-- Whether the sign bit of a double is set. -/
def isNegative (x : Float) : Bool :=
  decide (Nat.pow 2 63 ≤ x.toBits.toNat)

/-- The quotient. Zero divided by zero is not a number; any other value divided by zero is an
infinity whose sign is the product of both signs. -/
def divide (a b : Float) : Float :=
  if b == 0 then
    if a == 0 || a.isNaN then notANumber else infinite (isNegative a != isNegative b)
  else a / b

/-- What a power of finite operands is where `raw`, the result of the machine, is not finite. A
negative power of zero is a pole, a result too large for a double keeps the sign that an odd
exponent gives, and all else is outside the domain. -/
def exceptionalPower (raw base exponent : Float) : Float :=
  if base == 0 then
    if exponent < 0 then infinite (isOddWhole exponent && isNegative base) else notANumber
  else if raw.isNaN then notANumber
  else infinite (decide (base < 0) && isOddWhole exponent)

/-- The power, by way of a function that computes it for most operands. -/
def power (machine : Float → Float → Float) (base exponent : Float) : Float :=
  let raw := machine base exponent
  if base.isFinite && exponent.isFinite && !raw.isFinite then exceptionalPower raw base exponent
  else raw

/-- The operation that an operator stands for. -/
def Operator.apply : Operator → Float → Float → Float
  | add, a, b => a + b
  | sub, a, b => a - b
  | mul, a, b => a * b
  | div, a, b => divide a b
  | pow, a, b => power Float.pow a b

end LineCalculator
