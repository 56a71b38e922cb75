/-
What a run is given.

How deep documents are read, how much room there is for texts, and how texts are shown is not up to
the program. A platform has all three.
-/
import LineCalculator.Text.Memory
import LineCalculator.Toml.Reader

namespace LineCalculator.Console

/-- How texts are shown. -/
structure Display where
  /-- A text as it stands on the output. -/
  printed : List Char → List Char
  /-- A message as it stands among the errors. -/
  reported : List Char → List Char

/-- The display that shows texts as they are. -/
def Display.plain : Display :=
  ⟨id, id⟩

/-- What a run is given by the machine that it is on. -/
structure Platform where
  reach : Toml.Reach
  memory : Text.Memory
  display : Display

/-- The platform without bounds of its own. -/
def Platform.ideal : Platform :=
  ⟨.unbounded, .unlimited, .plain⟩

end LineCalculator.Console
