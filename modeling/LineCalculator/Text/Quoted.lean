/-
Texts shown in quotes.

A quoted text stands between single quotes, or between double quotes if it holds a single quote and
no double one. The quote in use and the backslash are escaped, line breaks and tabs have escapes of
their own, and what is not printable is shown by its number in hexadecimal.
-/
import LineCalculator.Text.Printable

namespace LineCalculator.Text

/-- A number in hexadecimal, padded with zeros to at least `width` digits. -/
def hex (width n : Nat) : List Char :=
  let digits := Nat.toDigits 16 n
  List.replicate (width - digits.length) '0' ++ digits

/-- The number of a character behind the shortest escape that holds it. -/
def escapeNumber (c : Char) : List Char :=
  if c.toNat < 0x100 then '\\' :: 'x' :: hex 2 c.toNat
  else if c.toNat < 0x10000 then '\\' :: 'u' :: hex 4 c.toNat
  else '\\' :: 'U' :: hex 8 c.toNat

/-- A character as it stands between two quotes of the given kind. -/
def escape (mark c : Char) : List Char :=
  if c = mark ∨ c = '\\' then ['\\', c]
  else if c = '\n' then ['\\', 'n']
  else if c = '\r' then ['\\', 'r']
  else if c = '\t' then ['\\', 't']
  else if isPrintable c then [c]
  else escapeNumber c

/-- The kind of quote that a text is put in. -/
def quoteMark (cs : List Char) : Char :=
  if '\x27' ∈ cs ∧ '\x22' ∉ cs then '\x22' else '\x27'

/-- A text in quotes. -/
def quoted (cs : List Char) : List Char :=
  let mark := quoteMark cs
  mark :: (cs.flatMap (escape mark) ++ [mark])

end LineCalculator.Text
