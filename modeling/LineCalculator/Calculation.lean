/-
Calculating the value of an expression.

`calculate` reads a text into a tree and evaluates the tree. It tells the whole course of events:
each token as it is read, how each operator was taken into the tree, and each operation as it is
carried out, up to the end or the first fault.
-/
import LineCalculator.Fault
import LineCalculator.Log

namespace LineCalculator

/-- What happens in a calculation. -/
inductive Event where
  | lexed (token : Token)
  | spliced (how : Splice) (position : Nat)
  | evaluated (reduction : Reduction Operator Float)

namespace Event

/-- An event of reading as one of a calculation. -/
def ofReading : ReadingEvent → Event
  | .lexed token => lexed token
  | .spliced how position => spliced how position

/-- The part of the calculator in which an event takes place. -/
def origin : Event → String
  | lexed _ => "climbcalc.core.expression_lang.tokenizer"
  | spliced .. => "climbcalc.core.expression_lang.tree_builder"
  | evaluated _ => "climbcalc.core.expression_lang.evaluator"

/-- What an event is reported as. -/
def message : Event → List Char
  | lexed token => "Lexed ".toList ++ token.text
  | spliced (.climbed new under) position =>
    "Climb: ".toList ++ new.symbol :: " under ".toList ++ under.symbol :: " at pos ".toList ++
      Decimal.figures position
  | spliced (.enclosed new) position =>
    "Enclose: ".toList ++ new.symbol :: " becomes root at pos ".toList ++ Decimal.figures position
  | evaluated r =>
    let number := NumberStyle.literal.write
    "Evaluated ".toList ++ number r.left ++ ' ' :: r.symbol.symbol :: ' ' :: number r.right ++
      " = ".toList ++ number r.result

/-- The log line of an event. -/
def line (e : Event) : LogLine :=
  ⟨.debug, e.origin, e.message⟩

end Event

/-- The value of a text or the fault that it has, and the events on the way. -/
structure Calculation where
  outcome : Except Fault Float
  events : List Event

/-- Calculates the value of a text. -/
def calculate (source : List Char) : Calculation :=
  let reading := readTree .hole 0 source
  let events := reading.events.map Event.ofReading
  match reading.outcome with
  | .error e => ⟨.error (e.fault source), events⟩
  | .ok tree =>
    let evaluation := tree.evaluate
    ⟨evaluation.outcome.mapError EvalError.fault, events ++ evaluation.reductions.map .evaluated⟩

end LineCalculator
