/-
Settings of the calculator.

Settings are resolved layer by layer: over the defaults go those of a configuration file, over these
the ones of the environment, and over these the options of a command. A layer gives some of the
settings and leaves the others as they are, each by itself.
-/
import LineCalculator.Log

namespace LineCalculator

/-- How the calculator asks, what it shows, and how much it reports. -/
structure Settings where
  /-- The text that asks for an expression. -/
  prompt : List Char
  /-- Whether the tree of an expression is shown before its value. -/
  showTree : Bool
  /-- The number of spaces by which each level of the tree is indented. -/
  treeIndent : Nat
  /-- The least level at which lines of the log are shown. -/
  logLevel : Level
deriving DecidableEq

/-- Settings that may replace others. -/
structure Layer where
  prompt? : Option (List Char) := none
  showTree? : Option Bool := none
  treeIndent? : Option Nat := none
  logLevel? : Option Level := none
deriving DecidableEq

namespace Settings

/-- The settings where nothing else is said. -/
def default : Settings where
  prompt := "Enter a valid maths expression? ".toList
  showTree := true
  treeIndent := 4
  logLevel := .warning

/-- The part of the program that reports on settings. -/
def origin : String :=
  "climbcalc.core.settings"

/-- Settings under a layer. -/
def under (s : Settings) (l : Layer) : Settings where
  prompt := l.prompt?.getD s.prompt
  showTree := l.showTree?.getD s.showTree
  treeIndent := l.treeIndent?.getD s.treeIndent
  logLevel := l.logLevel?.getD s.logLevel

end Settings

end LineCalculator
