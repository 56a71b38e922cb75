/-
The five binary operators.

An operator is known by its symbol and binds with a precedence. `Operator.climbs` is the rule by
which an expression tree takes a new operator in: under the operator at the root if it binds
tighter, or as tightly and to the right, and otherwise over the whole tree.
-/
namespace LineCalculator

/-- A binary operator. -/
inductive Operator where
  | add
  | sub
  | mul
  | div
  | pow
deriving DecidableEq, Repr

namespace Operator

/-- The character that an operator is written with. -/
def symbol : Operator → Char
  | add => '+'
  | sub => '-'
  | mul => '*'
  | div => '/'
  | pow => '^'

/-- The operator that a character is the symbol of. -/
def ofSymbol? : Char → Option Operator
  | '+' => some add
  | '-' => some sub
  | '*' => some mul
  | '/' => some div
  | '^' => some pow
  | _ => none

@[simp] theorem ofSymbol?_symbol (op : Operator) : ofSymbol? op.symbol = some op := by
  cases op <;> rfl

theorem ofSymbol?_eq_some_iff {c : Char} {op : Operator} :
    ofSymbol? c = some op ↔ c = op.symbol := by
  constructor
  · unfold ofSymbol?
    split <;> rintro ⟨⟩ <;> rfl
  · rintro rfl
    exact ofSymbol?_symbol op

/-- The short name of an operator in reports on tokens. -/
def name : Operator → String
  | add => "ADD"
  | sub => "SUB"
  | mul => "MUL"
  | div => "DIV"
  | pow => "POW"

/-- How tightly an operator binds. -/
def precedence : Operator → Nat
  | add | sub => 10
  | mul | div => 20
  | pow => 30

/-- Whether a row of one operator groups to the right. -/
def isRightAssociative : Operator → Bool
  | pow => true
  | _ => false

/-- Whether a new operator goes under a root that holds `current`. -/
def climbs (new current : Operator) : Bool :=
  current.precedence < new.precedence || (new == current && new.isRightAssociative)

end Operator

end LineCalculator
