/-
Emoji by name.

A name between two colons stands for an emoji. It may be written in small or capital letters, and
`-text` or `-emoji` behind it asks for the plain or the coloured form. What stands between two
colons and is no name keeps both of them.
-/
import LineCalculator.Text.Blank
import LineCalculator.Text.Case
import LineCalculator.Text.EmojiTable
import LineCalculator.Text.Hexadecimal

namespace LineCalculator.Text

/-- The pieces of a text between the characters of a class. -/
def pieces (isBreak : Char → Bool) (cs : List Char) : List (List Char) :=
  cs.foldr (fun c found =>
    match found with
    | piece :: more => if isBreak c then [] :: piece :: more else (c :: piece) :: more
    | [] => [[c]]) [[]]

/-- The emoji with a name. -/
def emoji? (name : List Char) : Option (List Char) := do
  let entries := (pieces isBlank emojiTable.toList).filter fun piece => !piece.isEmpty
  let entry ← entries.find? fun entry => entry.takeWhile (· ≠ '=') == name
  (pieces (· = '-') ((entry.dropWhile (· ≠ '=')).drop 1)).mapM charOfHex?

/-- A code without the form that it asks for, and the mark of that form. -/
def splitForm (code : List Char) : List Char × List Char :=
  if "-text".toList.isSuffixOf code then (code.take (code.length - 5), ['\ufe0e'])
  else if "-emoji".toList.isSuffixOf code then (code.take (code.length - 6), ['\ufe0f'])
  else (code, [])

/-- What a code between two colons stands for. -/
def emojiOfCode? (code : List Char) : Option (List Char) :=
  let (name, mark) := splitForm code
  (emoji? (lower name)).map (· ++ mark)

/-- Whether a character may stand in a code. -/
def isCodePart (c : Char) : Bool :=
  c ≠ ':' && !isBlank c

/-- A text with what its codes stand for in their places. -/
def replaceCodes (meaning? : List Char → Option (List Char)) (cs : List Char) : List Char :=
  match cs with
  | [] => []
  | ':' :: cs =>
    match _h : cs.dropWhile isCodePart with
    | ':' :: rest =>
      let code := cs.takeWhile isCodePart
      (meaning? code).getD (':' :: (code ++ [':'])) ++ replaceCodes meaning? rest
    | _ => ':' :: replaceCodes meaning? cs
  | c :: cs => c :: replaceCodes meaning? cs
termination_by cs.length
decreasing_by
  · have shorter := (List.dropWhile_sublist (l := cs) isCodePart).length_le
    rw [_h] at shorter
    exact Nat.lt_succ_of_lt shorter
  · exact Nat.lt_succ_self _
  · exact Nat.lt_succ_self _

/-- A text with the emoji in the places of their names. -/
def withEmoji (cs : List Char) : List Char :=
  replaceCodes emojiOfCode? cs

end LineCalculator.Text
