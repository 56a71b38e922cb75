/-
Reading documents.

A document is a list of statements, each on a line: the header of a table, the header of a table in
an array of tables, or an entry. A comment may end any line. `Table.ofText` reads a whole document.
-/
import LineCalculator.Text.Lines
import LineCalculator.Toml.Draft
import LineCalculator.Toml.Entry

namespace LineCalculator.Toml

/-- A path between the brackets of a header. -/
def readHeader : Reader Path := fun s => do
  let path := (← readPath (skipGap s)).pastGap
  match h : path.rest with
  | ']' :: _ => return path.dropFirst h
  | _ => .error .malformed

/-- One statement, and the draft after it. -/
def readStatement (reach : Reach) (d : Draft) : Reader Draft
  | '[' :: '[' :: s => do
    let path ← readHeader s
    match h : path.rest, d.openElement? path.value with
    | ']' :: _, some d => return (((path.dropFirst h).map fun _ => d).past _).past _
    | _, _ => .error .malformed
  | '[' :: s => do
    let path ← readHeader s
    match d.openTable? path.value with
    | some d => return (path.map fun _ => d).past _
    | none => .error .malformed
  | s => do
    let entry ← readEntry reach [] s
    match d.enter? entry.value.1 entry.value.2 with
    | some d => return entry.map fun _ => d
    | none => .error .malformed

/-- The text after a line of which a statement is taken off: nothing but a comment may be left. -/
def skipLine? (s : List Char) : Option (Skipped s) :=
  match h : skipGap s with
  | [] => some ⟨[], Nat.zero_le s.length⟩
  | '\n' :: rest => some ⟨rest, Nat.le_of_lt (length_lt_of_skipGap h)⟩
  | '#' :: comment =>
    (skipComment? comment).map fun line => line.within (Nat.le_of_lt (length_lt_of_skipGap h))
  | _ => none

/-- The draft after the statements of a text. -/
def readStatements (reach : Reach) (d : Draft) (s : List Char) : Except Flaw Draft :=
  match _h : skipGap s with
  | [] => .ok d
  | '\n' :: rest => readStatements reach d rest
  | '#' :: comment =>
    match skipComment? comment with
    | some line => readStatements reach d line.rest
    | none => .error .malformed
  | c :: rest =>
    if c = '[' ∨ startsKey c then do
      let statement ← readStatement reach d (c :: rest)
      match skipLine? statement.rest with
      | some line => readStatements reach statement.value line.rest
      | none => .error .malformed
    else .error .malformed
termination_by s.length
decreasing_by
  · exact length_lt_of_skipGap _h
  · exact Nat.lt_of_le_of_lt line.le (length_lt_of_skipGap _h)
  · exact Nat.lt_of_le_of_lt line.le
      (Nat.lt_of_lt_of_le statement.shorter (_h ▸ length_skipGap_le s))

/-- The document that a text is. -/
def Table.ofText (reach : Reach) (s : List Char) : Except Flaw Table := do
  let d ← readStatements reach .empty (Text.unifyLineEnds s)
  return d.root

end LineCalculator.Toml
