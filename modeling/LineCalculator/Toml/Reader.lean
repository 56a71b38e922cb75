/-
Reading the parts of a TOML document.

A reader takes something off the front of a text. What it returns (`Taken`) is the value, the text
that is left, and the proof that this is shorter, by which every loop over a document ends.
-/
namespace LineCalculator.Toml

/-- Why a document cannot be read. -/
inductive Flaw where
  /-- The text is not in the form of a document. -/
  | malformed
  /-- An integer has more digits than are read. -/
  | numeralTooLong
  /-- A value stands within more collections than are read. -/
  | tooDeep
deriving DecidableEq, Repr

/-- A collection that a value stands in. -/
inductive Enclosure where
  | array
  | table
deriving DecidableEq, Repr

/-- How deep values are read: whether the value at the front of a text is, where it stands within
collections, the innermost first. Values are read within each other, and how many of them can be
open at once is up to the machine. -/
abbrev Reach := List Enclosure → List Char → Bool

/-- The reach of a machine on which values may nest to any depth. -/
def Reach.unbounded : Reach :=
  fun _ _ => true

/-- Whether a character is a space or a tab. -/
def isGap (c : Char) : Bool :=
  c = ' ' || c = '\t'

/-- Whether a character is a space, a tab or a line break. -/
def isGapOrBreak (c : Char) : Bool :=
  isGap c || c = '\n'

/-- Whether a character is a control character that no text or comment may hold. -/
def isControl (c : Char) : Bool :=
  (c.toNat < 32 || c.toNat = 127) && c ≠ '\t'

/-- A text without the spaces and tabs at its front. -/
def skipGap (s : List Char) : List Char :=
  s.dropWhile isGap

theorem length_dropWhile_le (p : Char → Bool) (s : List Char) :
    (s.dropWhile p).length ≤ s.length :=
  (List.dropWhile_sublist p).length_le

theorem length_dropWhile_lt (p : Char → Bool) (c : Char) (s : List Char) :
    (s.dropWhile p).length < (c :: s).length :=
  Nat.lt_succ_of_le (length_dropWhile_le p s)

theorem length_skipGap_le (s : List Char) : (skipGap s).length ≤ s.length :=
  length_dropWhile_le isGap s

/-- What follows the first character of a text is shorter than what holds the text. -/
theorem length_tail_lt {c : Char} {s rest : List Char} {n : Nat} (le : s.length ≤ n)
    (h : s = c :: rest) : rest.length < n := by
  subst h; exact le

/-- What follows a gap and a character is shorter than the whole. -/
theorem length_lt_of_skipGap {c : Char} {s rest : List Char} (h : skipGap s = c :: rest) :
    rest.length < s.length :=
  length_tail_lt (length_skipGap_le s) h

/-- What was taken off the front of a text, and the text that is left. -/
structure Taken (α : Type) (s : List Char) where
  value : α
  rest : List Char
  shorter : rest.length < s.length

/-- A reader of a text. -/
abbrev Reader (α : Type) :=
  (s : List Char) → Except Flaw (Taken α s)

namespace Taken

variable {α β : Type} {c : Char} {s t : List Char}

/-- What was taken off a text, as taken off a longer one. -/
def within (r : Taken α s) (h : s.length ≤ t.length) : Taken α t :=
  ⟨r.value, r.rest, Nat.lt_of_lt_of_le r.shorter h⟩

/-- What was taken off a text, as taken off the text with a character before it. -/
def past (c : Char) (r : Taken α s) : Taken α (c :: s) :=
  ⟨r.value, r.rest, Nat.lt_succ_of_lt r.shorter⟩

/-- What was taken off after a gap, as taken off the text with the gap. -/
def pastGap (r : Taken α (skipGap s)) : Taken α s :=
  r.within (length_skipGap_le s)

/-- The same with another value. -/
def map (f : α → β) (r : Taken α s) : Taken β s :=
  ⟨f r.value, r.rest, r.shorter⟩

/-- The same with the gap that follows taken off too. -/
def dropGap (r : Taken α s) : Taken α s :=
  ⟨r.value, skipGap r.rest, Nat.lt_of_le_of_lt (length_skipGap_le r.rest) r.shorter⟩

/-- A character that follows what was taken off leaves less than the text. -/
theorem length_tail_lt (r : Taken α s) (h : r.rest = c :: t) : t.length < s.length :=
  Toml.length_tail_lt (Nat.le_of_lt r.shorter) h

/-- The same with the character that follows taken off too. -/
def dropFirst (r : Taken α s) (h : r.rest = c :: t) : Taken α s :=
  ⟨r.value, t, r.length_tail_lt h⟩

/-- What is taken off next, after a character, as taken off the whole text. -/
def andThen (r : Taken α s) (h : r.rest = c :: t) (more : Taken β t) : Taken β s :=
  more.within (Nat.le_of_lt (r.length_tail_lt h))

end Taken

/-- The text that is left when what means nothing was skipped. -/
structure Skipped (s : List Char) where
  rest : List Char
  le : rest.length ≤ s.length

/-- What was left of a text, as left of a longer one. -/
def Skipped.within {s t : List Char} (r : Skipped s) (h : s.length ≤ t.length) : Skipped t :=
  ⟨r.rest, Nat.le_trans r.le h⟩

theorem length_nextLine_le (s : List Char) :
    ((s.dropWhile (· ≠ '\n')).drop 1).length ≤ s.length :=
  Nat.le_trans (List.length_drop ▸ Nat.sub_le _ _) (length_dropWhile_le _ s)

/-- The text after a comment and the line break that ends it, if no control character stands in the
comment. -/
def skipComment? (s : List Char) : Option (Skipped s) :=
  if (s.takeWhile (· ≠ '\n')).any isControl then none
  else some ⟨(s.dropWhile (· ≠ '\n')).drop 1, length_nextLine_le s⟩

/-- A text without the gaps, line breaks and comments at its front. -/
def skipFiller (s : List Char) : Except Flaw (Skipped s) :=
  match h : s.dropWhile isGapOrBreak with
  | '#' :: comment =>
    have lt : comment.length < s.length := length_tail_lt (length_dropWhile_le isGapOrBreak s) h
    match skipComment? comment with
    | some line => do
      let more ← skipFiller line.rest
      return more.within (Nat.le_trans line.le (Nat.le_of_lt lt))
    | none => .error .malformed
  | _ => .ok ⟨s.dropWhile isGapOrBreak, length_dropWhile_le isGapOrBreak s⟩
termination_by s.length
decreasing_by exact Nat.lt_of_le_of_lt line.le lt

end LineCalculator.Toml
