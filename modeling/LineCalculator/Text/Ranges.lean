/-
Sets of characters given by ranges of code points.

A property of characters is kept as the ranges of code points that have it, in ascending order, and
`Ranges.contains` looks a character up in them.
-/
namespace LineCalculator.Text

/-- Ranges of code points, each with its first and last member. -/
abbrev Ranges := Array (Nat × Nat)

/-- Whether a character lies in one of the ranges. -/
def Ranges.contains (ranges : Ranges) (c : Char) : Bool :=
  ranges.any fun (first, last) => first ≤ c.toNat && c.toNat ≤ last

end LineCalculator.Text
