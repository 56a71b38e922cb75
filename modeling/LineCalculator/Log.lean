/-
Lines of a log.

A line has a level, an origin and a message. Lines below the level in force are left out.
-/
namespace LineCalculator

/-- How much a line matters. -/
inductive Level where
  | debug
  | info
  | warning
  | error
  | critical
deriving DecidableEq, Repr

namespace Level

/-- All levels, from the least to the greatest. -/
def all : List Level :=
  [debug, info, warning, error, critical]

/-- The name of a level. -/
def name : Level → String
  | debug => "DEBUG"
  | info => "INFO"
  | warning => "WARNING"
  | error => "ERROR"
  | critical => "CRITICAL"

/-- The level that has a name. -/
def ofName? (text : List Char) : Option Level :=
  all.find? (·.name.toList == text)

@[simp] theorem ofName?_name (l : Level) : ofName? l.name.toList = some l := by
  cases l <;> decide +kernel

/-- The rank of a level among all. -/
def rank : Level → Nat
  | debug => 10
  | info => 20
  | warning => 30
  | error => 40
  | critical => 50

/-- The names of all levels, in order. -/
def names : List Char :=
  ", ".toList.intercalate (all.map (·.name.toList))

end Level

/-- A line of a log. -/
structure LogLine where
  level : Level
  origin : String
  message : List Char

namespace LogLine

/-- The text of a line. -/
def text (l : LogLine) : List Char :=
  l.level.name.toList ++ ' ' :: (l.origin.toList ++ ':' :: ' ' :: l.message)

/-- Whether a line is shown when a level is in force. -/
def isShownAt (l : LogLine) (level : Level) : Bool :=
  level.rank ≤ l.level.rank

end LogLine

end LineCalculator
