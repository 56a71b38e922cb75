/-
Blank characters and what remains of a text without them.

A character is blank if it separates words or lines: the spaces, tabs and line breaks of every
script, and the four separators that precede the ASCII space. `strip` cuts blanks off both ends,
`trim` only those that are no separators.
-/
import LineCalculator.Text.Ranges

namespace LineCalculator.Text

/-- The code points of the blank characters. -/
def blankRanges : Ranges := #[
  (0x9, 0xd), (0x1c, 0x20), (0x85, 0x85), (0xa0, 0xa0), (0x1680, 0x1680), (0x2000, 0x200a),
  (0x2028, 0x2029), (0x202f, 0x202f), (0x205f, 0x205f), (0x3000, 0x3000)]

/-- Whether a character is blank. -/
def isBlank (c : Char) : Bool :=
  blankRanges.contains c

/-- Whether a character is one of the four separators that precede the ASCII space. -/
def isSeparator (c : Char) : Bool :=
  0x1c ≤ c.toNat && c.toNat ≤ 0x1f

/-- A text without the characters of a class at its end. -/
def dropEndWhile (p : Char → Bool) (cs : List Char) : List Char :=
  (cs.reverse.dropWhile p).reverse

/-- A text without the blanks at its ends. -/
def strip (cs : List Char) : List Char :=
  dropEndWhile isBlank (cs.dropWhile isBlank)

/-- A text without the blanks at its ends that are no separators. -/
def trim (cs : List Char) : List Char :=
  dropEndWhile (fun c => isBlank c && !isSeparator c)
    (cs.dropWhile fun c => isBlank c && !isSeparator c)

/-- Whether a text holds nothing but blanks. -/
def isAllBlank (cs : List Char) : Bool :=
  cs.all isBlank

end LineCalculator.Text
