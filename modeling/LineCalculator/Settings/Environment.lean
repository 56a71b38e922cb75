/-
Settings in the environment.

Each of three variables may give one setting. Blanks around a value and the case of its letters do
not matter, and a blank value gives nothing. A value that is not understood keeps the setting and is
reported; only a row of digits that is no numeral, or one too long to be read, ends the resolution.
-/
import LineCalculator.Number.Decimal
import LineCalculator.Settings
import LineCalculator.Text.Blank
import LineCalculator.Text.Case
import LineCalculator.Text.Digit

namespace LineCalculator

open Text

/-- The values of the variables; one that is not set is empty. -/
structure Environment where
  showTree : List Char := []
  treeIndent : List Char := []
  logLevel : List Char := []

namespace Environment

/-- The variable that says whether trees are shown. -/
def showTreeName : String :=
  "CLIMBCALC_SHOW_TREE"

/-- The variable that gives the indentation of trees. -/
def treeIndentName : String :=
  "CLIMBCALC_TREE_INDENT"

/-- The variable that gives the level of the log. -/
def logLevelName : String :=
  "CLIMBCALC_LOG_LEVEL"

/-- What a variable says about a setting. -/
inductive Reading (α : Type) where
  | absent
  | value (a : α)
  | unknown (text : List Char)
deriving DecidableEq

namespace Reading

variable {α : Type}

/-- The setting, if there is one. -/
def value? : Reading α → Option α
  | value a => some a
  | _ => none

/-- The report of a value that is not understood. `expected` says which values are, and `kept` is
the setting that stays. -/
def warning? (name : String) (expected kept : List Char) : Reading α → Option LogLine
  | unknown text =>
    some ⟨.warning, Settings.origin,
      "Unknown ".toList ++ name.toList ++ " value '".toList ++ text ++ "'. ".toList ++ expected ++
        kept ++ ['.']⟩
  | _ => none

end Reading

/-- The words for true. -/
def trueWords : List (List Char) :=
  ["1".toList, "true".toList, "yes".toList, "on".toList]

/-- The words for false. -/
def falseWords : List (List Char) :=
  ["0".toList, "false".toList, "no".toList, "off".toList]

/-- What the variable for trees says. -/
def readShowTree (text : List Char) : Reading Bool :=
  let word := strip (lower text)
  if word ∈ trueWords then .value true
  else if word ∈ falseWords then .value false
  else if word = [] then .absent
  else .unknown word

/-- What the variable for the indentation says; nothing if it holds digits that are no numeral, or
too many. -/
def readTreeIndent? (text : List Char) : Option (Reading Nat) :=
  let word := strip text
  if word = [] then some .absent
  else if word.all isDigit then (numeral? word).map .value
  else some (.unknown word)

/-- What the variable for the level says. -/
def readLogLevel (text : List Char) : Reading Level :=
  let word := strip (upper text)
  match Level.ofName? word with
  | some level => .value level
  | none => if word = [] then .absent else .unknown word

/-- The report on the variable for trees. -/
def showTreeWarning? (s : Settings) (e : Environment) : Option LogLine :=
  (readShowTree e.showTree).warning? showTreeName "Expected true or false; keeping ".toList
    (if s.showTree then "True".toList else "False".toList)

/-- The report on the variable for the level. -/
def logLevelWarning? (s : Settings) (e : Environment) : Option LogLine :=
  (readLogLevel e.logLevel).warning? logLevelName
    ("Valid values: ".toList ++ Level.names ++ ". Keeping ".toList) s.logLevel.name.toList

/-- The settings under those of the environment, if all numerals can be read, and the reports on the
variables in their order. -/
def apply (e : Environment) (s : Settings) : Option Settings × List LogLine :=
  let showTree := (showTreeWarning? s e).toList
  match readTreeIndent? e.treeIndent with
  | none => (none, showTree)
  | some indent =>
    let layer : Layer :=
      { showTree? := (readShowTree e.showTree).value?
        treeIndent? := indent.value?
        logLevel? := (readLogLevel e.logLevel).value? }
    let treeIndent := indent.warning? treeIndentName
      "Expected a non-negative integer; keeping ".toList (Decimal.figures s.treeIndent)
    (some (s.under layer), showTree ++ treeIndent.toList ++ (logLevelWarning? s e).toList)

end Environment

end LineCalculator
