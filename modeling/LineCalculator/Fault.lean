/-
Faults and their messages.

Every failure that the calculator reports is a `Fault`: its cause, with the data that the message
shows. Faults of a text also show the text itself, with a mark under the offending character
(`Snippet`).
-/
import LineCalculator.Evaluation
import LineCalculator.Expression
import LineCalculator.Text.Quoted

namespace LineCalculator

open Text

/-- A place in a text. -/
structure Snippet where
  source : List Char
  offset : Int
deriving DecidableEq

/-- The column of the place, the text, and a caret under the place if it lies in the text or right
after it. -/
def Snippet.text (s : Snippet) : List Char :=
  let head := "col ".toList ++ Decimal.integerText (s.offset + 1) ++ "\n   | ".toList ++ s.source
  if 0 ≤ s.offset ∧ s.offset ≤ s.source.length then
    head ++ "\n   | ".toList ++ List.replicate s.offset.toNat ' ' ++ ['^']
  else head

/-- Why the calculator gives no answer. -/
inductive Fault where
  /-- A character can neither start nor continue a token. -/
  | unexpectedCharacter (char : List Char) (offset : Int) (source : Option (List Char))
  /-- There are no tokens. -/
  | emptyExpression
  /-- Two operators or two numbers meet. -/
  | malformed (offset : Int) (source : Option (List Char))
  /-- An operator has no operand on one side. -/
  | missingOperand (symbol side : List Char)
  /-- A symbol has no operation. -/
  | unknownOperator (symbol : List Char)
  /-- A configuration cannot be used. -/
  | configuration (message : List Char) (place : Option Snippet)
  /-- Any other failure. -/
  | other (message : List Char) (place : Option Snippet)
deriving DecidableEq

namespace Fault

/-- What went wrong. -/
def headline : Fault → List Char
  | unexpectedCharacter char offset _ =>
    "Unexpected character ".toList ++ quoted char ++ " at position ".toList ++
      Decimal.integerText offset
  | emptyExpression => "Expression is empty".toList
  | malformed offset _ => "Invalid format at position ".toList ++ Decimal.integerText offset
  | missingOperand symbol side =>
    "Operator ".toList ++ quoted symbol ++ " is missing its ".toList ++ side ++ " operand".toList
  | unknownOperator symbol => "Invalid operator: ".toList ++ quoted symbol
  | configuration message _ => message
  | other message _ => message

/-- Where it went wrong. -/
def place? : Fault → Option Snippet
  | unexpectedCharacter _ offset source => source.map (⟨·, offset⟩)
  | malformed offset source => source.map (⟨·, offset⟩)
  | configuration _ place => place
  | other _ place => place
  | _ => none

/-- What went wrong and, on the following lines, where. -/
def message (f : Fault) : List Char :=
  match f.place? with
  | some place => f.headline ++ '\n' :: place.text
  | none => f.headline

end Fault

/-- The fault of a text that is no expression. -/
def ParseError.fault (source : List Char) : ParseError → Fault
  | stray char position => .unexpectedCharacter [char] position (some source)
  | empty => .emptyExpression
  | malformed position => .malformed position (some source)

/-- The fault of a tree that has no value. -/
def EvalError.fault : EvalError → Fault
  | missingOperand symbol side => .missingOperand symbol.toList side.name.toList
  | unknownOperator symbol => .unknownOperator symbol.toList

end LineCalculator
