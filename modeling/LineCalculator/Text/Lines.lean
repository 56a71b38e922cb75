/-
Line ends.

Files and typed input may end their lines with a line feed, a carriage return, or both in this
order; `unifyLineEnds` writes each of the three as one line feed.
-/
namespace LineCalculator.Text

/-- A text whose lines all end with a line feed. -/
def unifyLineEnds : List Char → List Char
  | [] => []
  | '\r' :: '\n' :: rest => '\n' :: unifyLineEnds rest
  | '\r' :: rest => '\n' :: unifyLineEnds rest
  | c :: rest => c :: unifyLineEnds rest

/-- The first line of a text without its end, if there is a line. -/
def firstLine? (cs : List Char) : Option (List Char) :=
  if cs.isEmpty then none else some (cs.takeWhile (· != '\n'))

end LineCalculator.Text
