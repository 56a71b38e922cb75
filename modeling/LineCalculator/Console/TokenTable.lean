/-
The table of the tokens of an expression.

The table has a row for each token, with its number, its kind, its value and its offset, and stands
in a frame. Its title is centred over it, on several lines if it is wider than the table: it is
broken between words, and a word that is wider than the table is cut into pieces of its width.
-/
import LineCalculator.Console.Output
import LineCalculator.Text.Blank

namespace LineCalculator.Console

/-- A column of a table. -/
structure Column where
  header : List Char
  /-- Whether its cells stand at its right edge. -/
  isRight : Bool

/-- The columns of the table of tokens. -/
def tokenColumns : List Column :=
  [⟨"#".toList, true⟩, ⟨"Kind".toList, false⟩, ⟨"Value".toList, false⟩, ⟨"Offset".toList, true⟩]

/-- The value of a token as the table shows it. -/
def tokenValue : Lexeme → List Char
  | .number value => NumberStyle.result.write value
  | .operator op => [op.symbol]

/-- The cells of a token. -/
def tokenCells (index : Nat) (t : Token) : List (List Char) :=
  [Decimal.figures index, t.lexeme.kind.toList, tokenValue t.lexeme, Decimal.figures t.position]

/-- A cell with the space around it. -/
def cellText (c : Column) (width : Nat) (text : List Char) : List Char :=
  let gap := List.replicate (width - text.length) ' '
  ' ' :: ((if c.isRight then gap ++ text else text ++ gap) ++ [' '])

/-- Pieces on one line between two marks, with a third between each two of them. -/
def framed (first between last : Char) (pieces : List (List Char)) : List Char :=
  first :: ([between].intercalate pieces ++ [last])

/-- A line of the frame. -/
def ruleText (first bar between last : Char) (widths : List Nat) : List Char :=
  framed first between last (widths.map fun width => List.replicate (width + 2) bar)

/-- The line of a row of cells. -/
def rowText (edge : Char) (columns : List Column) (widths : List Nat)
    (cells : List (List Char)) : List Char :=
  framed edge edge edge (((columns.zip widths).zip cells).map fun ((column, width), cell) =>
    cellText column width cell)

/-- The width of a table whose columns have these widths, with its frame. -/
def tableWidth (widths : List Nat) : Nat :=
  widths.foldl (fun total width => total + width + 3) 1

/-- The widths of columns: each as wide as its widest cell. -/
def columnWidths (columns : List Column) (rows : List (List (List Char))) : List Nat :=
  rows.foldl (fun widths cells => (widths.zip cells).map fun (width, cell) => max width cell.length)
    (columns.map (·.header.length))

/-- The words of a text, each with the blanks that follow it. -/
def wordsOf : List Char → List (List Char)
  | [] => []
  | c :: cs =>
    match wordsOf cs with
    | [] => [[c]]
    | word :: words =>
      if Text.isBlank c ∧ ¬ word.head?.any Text.isBlank then [c] :: word :: words
      else (c :: word) :: words

/-- A text without the blanks at its end. -/
def trimEnd (cs : List Char) : List Char :=
  Text.dropEndWhile Text.isBlank cs

/-- A text in pieces of a width, the last of which may be shorter. -/
def chunks (width : Nat) (cs : List Char) : List (List Char) :=
  if _h : 0 < width ∧ width < cs.length then cs.take width :: chunks width (cs.drop width) else [cs]
termination_by cs.length
decreasing_by simp; omega

/-- The lines of a width that words fill, after a line that has been begun. -/
def fill (width : Nat) (begun : List Char) : List (List Char) → List (List Char)
  | [] => [begun]
  | word :: words =>
    let length := (trimEnd word).length
    if begun.length + length ≤ width then fill width (begun ++ word) words
    else if length ≤ width then begun :: fill width word words
    else
      let pieces := chunks width word
      begun :: (pieces.dropLast ++ fill width (pieces.getLast?.getD []) words)

/-- A text in the middle of a width; an odd space goes to its right. -/
def centred (width : Nat) (text : List Char) : List Char :=
  let gap := width - text.length
  List.replicate (gap / 2) ' ' ++ text ++ List.replicate (gap - gap / 2) ' '

/-- A title over a table of some width. -/
def titleLines (width : Nat) (title : List Char) : List (List Char) :=
  (fill width [] (wordsOf title)).map fun text => centred width (trimEnd text)

/-- The table of tokens, line by line. -/
def tokenTable (expression : List Char) (tokens : List Token) : List (List Char) :=
  let rows := tokens.mapIdx tokenCells
  let widths := columnWidths tokenColumns rows
  let title := "Tokens for ".toList ++ Text.quoted expression
  titleLines (tableWidth widths) title ++
    [ruleText '┏' '━' '┳' '┓' widths,
      rowText '┃' tokenColumns widths (tokenColumns.map (·.header)),
      ruleText '┡' '━' '╇' '┩' widths] ++
    rows.map (rowText '│' tokenColumns widths) ++
    [ruleText '└' '─' '┴' '┘' widths]

/-- How a run ends that shows the tokens of an expression. -/
def showTokens (d : Display) (expression : List Char) : Output :=
  match tokenize expression with
  | .ok tokens =>
    { exitCode := 0, out := (tokenTable expression tokens).flatMap fun text => text ++ ['\n'] }
  | .error e => .ofFault d (e.fault expression)

end LineCalculator.Console
