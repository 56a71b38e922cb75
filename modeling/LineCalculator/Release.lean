/-
The version of a release.

A checkout states its version in the `project` table of its description, next to the name of the
project. Where it does not, the version is that of the installed program, and where none is
installed a version that says so.
-/
import LineCalculator.Toml.File

namespace LineCalculator.Release

open Toml

/-- The name of the project. -/
def projectName : List Char :=
  "climbcalc".toList

/-- The version of a program of unknown origin. -/
def unknownVersion : List Char :=
  "0.0.0".toList

/-- The version of this program. -/
def ownVersion : List Char :=
  "0.1.0".toList

/-- Why the description of a checkout cannot be consulted. -/
inductive Flaw where
  /-- The bytes of the description encode no text. -/
  | undecodable
  /-- It holds an integer with more digits than are read. -/
  | numeralTooLong
  /-- It holds a value within more collections than are read. -/
  | tooDeep
  /-- The project is described by something else than a table. -/
  | notATable
deriving DecidableEq, Repr

/-- The version that a description states. -/
def version? (document : Table) : Except Flaw (Option (List Char)) :=
  match document.find? "project".toList with
  | none => .ok none
  | some (.table project) =>
    match Table.find? "name".toList project, Table.find? "version".toList project with
    | some (.text name), some (.text version) =>
      .ok (if name = projectName then some version else none)
    | _, _ => .ok none
  | some _ => .error .notATable

/-- The version of a checkout, from its description. -/
def ofCheckout (reach : Reach) : Option FileEntry → Except Flaw (Option (List Char))
  | none => .ok none
  | some entry =>
    match Table.ofFile reach entry with
    | .ok document => version? document
    | .error .unreadable => .ok none
    | .error .undecodable => .error .undecodable
    | .error .numeralTooLong => .error .numeralTooLong
    | .error .tooDeep => .error .tooDeep

/-- The version that is shown. -/
def version (reach : Reach) (checkout : Option FileEntry) (installed : Option (List Char)) :
    Except Flaw (List Char) := do
  return ((← ofCheckout reach checkout).or installed).getD unknownVersion

end LineCalculator.Release
