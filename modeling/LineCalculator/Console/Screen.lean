/-
The screen.

On a screen a message has emoji in the places of their names, no characters that would move the
cursor or ring the bell, and spaces for its tabs. Trees and results have none of these, so they
stand there as they are.
-/
import LineCalculator.Console.Platform
import LineCalculator.Text.Columns
import LineCalculator.Text.Emoji

namespace LineCalculator.Console

/-- Whether a character is left out where a message is shown, as it would move the cursor or ring
the bell. -/
def isHidden (c : Char) : Bool :=
  c = '\x07' || c = '\x08' || c = '\x0b' || c = '\x0c' || c = '\r'

/-- A message as it is shown: with emoji for their names, without control characters, and with
spaces for its tabs. -/
def shown (message : List Char) : List Char :=
  Text.expandTabs ((Text.withEmoji message).filter (!isHidden ·))

/-- The display of a screen. -/
def Display.screen : Display :=
  ⟨id, shown⟩

end LineCalculator.Console
