/-
What a run of the program leaves behind.

A run ends with an exit code and with what it wrote to its two outputs, unless it breaks down on
something that no message tells about.
-/
import LineCalculator.Console.Platform
import LineCalculator.Fault
import LineCalculator.Settings.Load

namespace LineCalculator.Console

/-- An exit code, and what was written. -/
structure Output where
  exitCode : Nat
  out : List Char := []
  err : List Char := []
deriving DecidableEq

/-- Why a run breaks down. -/
inductive Breakdown where
  /-- The bytes of a file encode no text. -/
  | undecodable
  /-- A numeral or a path cannot be read. -/
  | badValue
  /-- A value in a file stands within more collections than are read. -/
  | tooDeep
  /-- The text of a tree cannot be made. -/
  | noText (shortage : Text.Shortage)
deriving DecidableEq, Repr

/-- What a breakdown is reported as. -/
def Breakdown.message : Breakdown → List Char
  | undecodable => "A file does not hold text".toList
  | badValue => "A numeral or a path cannot be read".toList
  | tooDeep => "A value in a file is nested too deep".toList
  | noText .overflow => "The indentation is too large".toList
  | noText .memory => "The tree does not fit into memory".toList

/-- How a run ends. -/
abbrev Outcome := Except Breakdown Output

namespace Output

/-- An output after what was written before it. -/
def after (out err : List Char) (o : Output) : Output :=
  { o with out := out ++ o.out, err := err ++ o.err }

/-- The output of a run that fails with a message. -/
def failure (message : List Char) : Output where
  exitCode := 1
  err := message ++ ['\n']

/-- The output of a run that fails with a fault. -/
def ofFault (d : Display) (f : Fault) : Output :=
  failure (d.reported ("Error: ".toList ++ f.message))

/-- How a run ends whose settings cannot be resolved. The line about a file that cannot be read
stays open for the cause. -/
def ofLoadFault (d : Display) : LoadFault → Outcome
  | .undecodable => .error .undecodable
  | .badNumeral => .error .badValue
  | .tooDeep => .error .tooDeep
  | .unreadable path => .ok
    { exitCode := 1
      err := d.reported ("Config error: Cannot read ".toList ++ path ++ ": ".toList) }
  | .notFound path => .ok
    (failure (d.reported ("Config error: Config file not found: ".toList ++ path)))
  | .invalid path flaw => .ok
    (failure (d.reported ("Config error: ".toList ++ path ++ ": ".toList ++ flaw.message)))

end Output

end LineCalculator.Console
