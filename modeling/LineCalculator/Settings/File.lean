/-
Settings in a configuration file.

The table `calc` of a configuration file may give each of the settings. `Layer.ofTable` checks them
in the order prompt, tree, indentation, level, and names the first that cannot be used.
-/
import LineCalculator.Settings
import LineCalculator.Text.Case
import LineCalculator.Toml.Value

namespace LineCalculator

/-- What is wrong with the settings of a configuration file. -/
inductive SettingsFlaw where
  | table
  | prompt
  | showTree
  | treeIndent
  | logLevel
deriving DecidableEq, Repr

namespace SettingsFlaw

/-- What the table or a setting has to be. -/
def message : SettingsFlaw → List Char
  | table => "[calc] must be a table".toList
  | prompt => "calc.prompt must be a string".toList
  | showTree => "calc.show_tree must be a boolean".toList
  | treeIndent => "calc.tree_indent must be a non-negative integer".toList
  | logLevel => "calc.log_level must be one of ".toList ++ Level.names

end SettingsFlaw

namespace Layer

open Toml

/-- A setting, if the table gives it and it can be used. -/
def setting? {α : Type} (t : Table) (key : String) (flaw : SettingsFlaw)
    (read? : Value → Option α) : Except SettingsFlaw (Option α) :=
  match t.find? key.toList with
  | none => .ok none
  | some value =>
    match read? value with
    | some a => .ok (some a)
    | none => .error flaw

/-- The text that a value is. -/
def text? : Value → Option (List Char)
  | .text text => some text
  | _ => none

/-- The truth value that a value is. -/
def boolean? : Value → Option Bool
  | .boolean b => some b
  | _ => none

/-- The natural number that a value is. -/
def natural? : Value → Option Nat
  | .integer (.ofNat n) => some n
  | _ => none

/-- The level whose name a value is, in letters of any case. -/
def level? : Value → Option Level
  | .text text => Level.ofName? (Text.upper text)
  | _ => none

/-- The settings that a table gives. -/
def ofTable (t : Table) : Except SettingsFlaw Layer := do
  let prompt? ← setting? t "prompt" .prompt text?
  let showTree? ← setting? t "show_tree" .showTree boolean?
  let treeIndent? ← setting? t "tree_indent" .treeIndent natural?
  let logLevel? ← setting? t "log_level" .logLevel level?
  return { prompt?, showTree?, treeIndent?, logLevel? }

/-- The settings that a configuration file gives in its table for the calculator. -/
def ofDocument (t : Table) : Except SettingsFlaw Layer :=
  match t.find? "calc".toList with
  | none => .ok {}
  | some (.table settings) => ofTable settings
  | some _ => .error .table

end Layer

end LineCalculator
