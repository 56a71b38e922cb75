/-
Documents under construction.

A document is built from its statements: a header opens a table or adds one to an array of tables,
and the entries after it go into that table. No statement may open a table twice or add to one that
is closed, so a draft keeps, beside the tables so far, which paths were opened: by a header
(`opened`), by an entry since the last header (`pending`), or by a value that holds all it will ever
hold (`closed`).
-/
import LineCalculator.Toml.Value

namespace LineCalculator.Toml

/-- The tables of a document so far, and what the statements to come may not do. -/
structure Draft where
  root : Table
  /-- The table that entries go into. -/
  header : Path
  /-- Tables that no header may open again. -/
  opened : List Path
  /-- Tables that entries below the current header made on their way. -/
  pending : List Path
  /-- Arrays and inline tables; nothing below them changes. -/
  closed : List Path

namespace Draft

/-- The draft of an empty document. -/
def empty : Draft :=
  ⟨[], [], [], [], []⟩

/-- Whether a path leads to or through a closed value. -/
def isClosed (d : Draft) (path : Path) : Bool :=
  d.closed.any (·.isPrefixOf path)

/-- The draft after the entries of a header. -/
def endSection (d : Draft) : Draft :=
  { d with opened := d.pending ++ d.opened, pending := [] }

/-- The draft after the header of a table. -/
def openTable? (path : Path) (d : Draft) : Option Draft :=
  let d := d.endSection
  if path ∈ d.opened ∨ d.isClosed path then none
  else (d.root.alter? true some path).map fun root =>
    { d with root, header := path, opened := path :: d.opened }

/-- A table with one table more in the array of an entry. -/
def addElement? (key : Key) (t : Table) : Option Table :=
  match t.find? key with
  | none => some (t.put key (.array [.table []]))
  | some (.array elements) => some (t.put key (.array (elements ++ [.table []])))
  | some _ => none

/-- The draft after the header of a table in an array of tables. What was opened below an earlier
table of the array is free again. -/
def openElement? (path : Path) (d : Draft) : Option Draft :=
  let d := d.endSection
  match path.getLast? with
  | some key =>
    if d.isClosed path then none
    else (d.root.alter? true (addElement? key) path.dropLast).map fun root =>
      { d with
        root
        header := path
        opened := path :: d.opened.filter (!path.isPrefixOf ·)
        closed := d.closed.filter (!path.isPrefixOf ·) }
  | none => none

/-- The paths to the tables that an entry passes on its way from the header. -/
def passed (header path : Path) : List Path :=
  (List.range (path.length - 1)).map fun n => header ++ path.take (n + 1)

/-- The draft after an entry. -/
def enter? (path : Path) (value : Value) (d : Draft) : Option Draft :=
  let passed := passed d.header path
  match path.getLast? with
  | some key =>
    let parent := d.header ++ path.dropLast
    if passed.any (· ∈ d.opened) ∨ d.isClosed parent then none
    else (d.root.alter? true (Table.add? key value) parent).map fun root =>
      { d with
        root
        pending := passed ++ d.pending
        closed := if value.isCollection then (d.header ++ path) :: d.closed else d.closed }
  | none => none

end Draft

end LineCalculator.Toml
