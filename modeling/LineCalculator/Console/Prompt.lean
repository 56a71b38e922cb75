/-
The prompt as it is shown away from a terminal.

Sequences that style text on a terminal, which are an escape character, a bracket, parameters and a
letter, are left out of a prompt. Its last character is shown apart from the others, so that it
completes no sequence and is never part of one.
-/
namespace LineCalculator.Console

/-- Whether a character may stand among the parameters of a sequence. -/
def isStyleParameter (c : Char) : Bool :=
  c.isDigit || c = ';' || c = '?'

/-- The text after a sequence of which the escape character has been read. -/
def skipStyle? : List Char → Option (List Char)
  | '[' :: cs =>
    match cs.dropWhile isStyleParameter with
    | c :: rest => if c.isAlpha then some rest else none
    | [] => none
  | _ => none

theorem length_skipStyle?_lt {cs rest : List Char} (h : skipStyle? cs = some rest) :
    rest.length < cs.length := by
  unfold skipStyle? at h
  split at h
  next cs =>
    have shorter := (List.dropWhile_sublist (l := cs) isStyleParameter).length_le
    split at h
    next hd =>
      rw [hd, List.length_cons] at shorter
      split at h <;> cases h
      exact Nat.lt_succ_of_lt shorter
    next => cases h
  next => cases h

/-- A text without its sequences. -/
def withoutStyles (cs : List Char) : List Char :=
  match cs with
  | [] => []
  | '\x1b' :: cs =>
    match _h : skipStyle? cs with
    | some rest => withoutStyles rest
    | none => '\x1b' :: withoutStyles cs
  | c :: cs => c :: withoutStyles cs
termination_by cs.length
decreasing_by
  · exact Nat.lt_succ_of_lt (length_skipStyle?_lt _h)
  · exact Nat.lt_succ_self _
  · exact Nat.lt_succ_self _

/-- A prompt as it is shown away from a terminal. -/
def plainPrompt (prompt : List Char) : List Char :=
  withoutStyles prompt.dropLast ++ prompt.getLast?.toList

end LineCalculator.Console
