/-
Tokens of an expression.

A token is a number or an operator together with the offset of its first character. Its text is the
form in which the steps of a calculation are reported.
-/
import LineCalculator.Number.Style
import LineCalculator.Operator

namespace LineCalculator

/-- What a token stands for. -/
inductive Lexeme where
  | number (value : Float)
  | operator (op : Operator)
deriving DecidableEq

/-- A number or an operator at its offset in the source. -/
structure Token where
  lexeme : Lexeme
  position : Nat
deriving DecidableEq

namespace Lexeme

/-- The kind of a token, by name. -/
def kind : Lexeme → String
  | number _ => "number"
  | operator _ => "operator"

/-- The value of a token as reports show it. -/
def detail : Lexeme → List Char
  | number value => NumberStyle.literal.write value
  | operator op =>
    "<Operator.".toList ++ op.name.toList ++ ": '".toList ++ [op.symbol] ++ "'>".toList

end Lexeme

/-- A token as reports show it, with its kind, its value and its offset. -/
def Token.text (t : Token) : List Char :=
  "Token(".toList ++ t.lexeme.kind.toList ++ ", ".toList ++ t.lexeme.detail ++ ", pos=".toList ++
    Decimal.figures t.position ++ ")".toList

end LineCalculator
