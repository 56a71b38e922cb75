/-
Texts in quotes.

A text between double quotes may hold escapes, one between single quotes stands for itself. Either
kind may also stand between three quotes and then run over several lines; a line break right after
the opening quotes does not count, and one or two quotes may stand right before the closing ones.
-/
import LineCalculator.Text.Hexadecimal
import LineCalculator.Toml.Reader

namespace LineCalculator.Toml

open Text

/-- The character that `width` hexadecimal digits at the front of a text stand for. -/
def readHex (width : Nat) : Reader (List Char) := fun s =>
  if h : 0 < width ∧ width ≤ s.length then
    match charOfHex? (s.take width) with
    | some c => .ok ⟨[c], s.drop width, by simp; omega⟩
    | none => .error .malformed
  else .error .malformed

/-- The character that an escape stands for; the text starts after the backslash. -/
def readEscape : Reader (List Char)
  | 'b' :: rest => .ok ⟨['\x08'], rest, by simp⟩
  | 't' :: rest => .ok ⟨['\t'], rest, by simp⟩
  | 'n' :: rest => .ok ⟨['\n'], rest, by simp⟩
  | 'f' :: rest => .ok ⟨['\x0c'], rest, by simp⟩
  | 'r' :: rest => .ok ⟨['\r'], rest, by simp⟩
  | '\x22' :: rest => .ok ⟨['\x22'], rest, by simp⟩
  | '\\' :: rest => .ok ⟨['\\'], rest, by simp⟩
  | 'u' :: rest => do return (← readHex 4 rest).past _
  | 'U' :: rest => do return (← readHex 8 rest).past _
  | _ => .error .malformed

/-- The text that is left when a backslash at the end of a line has swallowed the line break and all
gaps and line breaks after it, if there is nothing else before the line break. -/
def skipLineEnd? (s : List Char) : Option { rest : List Char // rest.length < s.length } :=
  match _h : skipGap s with
  | '\n' :: rest => some ⟨rest.dropWhile isGapOrBreak, by
      have := length_skipGap_le s
      have := length_dropWhile_le isGapOrBreak rest
      simp only [_h, List.length_cons] at *
      omega⟩
  | _ => none

/-- What a backslash stands for in a text over several lines. -/
def readLongEscape : Reader (List Char) := fun s =>
  match skipLineEnd? s with
  | some ⟨rest, shorter⟩ => .ok ⟨[], rest, shorter⟩
  | none => readEscape s

/-- The rest of a text between double quotes. -/
def readBasic : Reader (List Char)
  | [] => .error .malformed
  | '\x22' :: rest => .ok ⟨[], rest, by simp⟩
  | '\\' :: s => do
    let escape ← readEscape s
    have := escape.shorter
    let more ← readBasic escape.rest
    return (more.map (escape.value ++ ·)).within (by simp; omega)
  | c :: s =>
    if isControl c then .error .malformed
    else do
      let more ← readBasic s
      return (more.map (c :: ·)).past _
termination_by s => s.length

/-- The rest of a text between single quotes. -/
def readLiteral : Reader (List Char)
  | [] => .error .malformed
  | '\x27' :: rest => .ok ⟨[], rest, by simp⟩
  | c :: s =>
    if isControl c then .error .malformed
    else do
      let more ← readLiteral s
      return (more.map (c :: ·)).past _

/-- The quotes, at most two, that still belong to a text although three others have closed it. -/
def closingQuotes (mark : Char) : List Char → List Char
  | c :: d :: _ => if c = mark then if d = mark then [mark, mark] else [mark] else []
  | [c] => if c = mark then [mark] else []
  | [] => []

/-- The end of a text over several lines; what is given follows the closing quotes. -/
def closeLong (mark : Char) (s : List Char) : Taken (List Char) (mark :: s) :=
  let extra := closingQuotes mark s
  ⟨extra, s.drop extra.length, by simp only [List.length_drop, List.length_cons]; omega⟩

/-- The rest of a text between three double quotes. -/
def readLongBasic : Reader (List Char)
  | [] => .error .malformed
  | '\x22' :: '\x22' :: '\x22' :: rest => .ok (((closeLong '\x22' rest).past _).past _)
  | '\\' :: s => do
    let escape ← readLongEscape s
    have := escape.shorter
    let more ← readLongBasic escape.rest
    return (more.map (escape.value ++ ·)).within (by simp; omega)
  | c :: s =>
    if isControl c ∧ c ≠ '\n' then .error .malformed
    else do
      let more ← readLongBasic s
      return (more.map (c :: ·)).past _
termination_by s => s.length

/-- The rest of a text between three single quotes. -/
def readLongLiteral : Reader (List Char)
  | [] => .error .malformed
  | '\x27' :: '\x27' :: '\x27' :: rest => .ok (((closeLong '\x27' rest).past _).past _)
  | c :: s =>
    if isControl c ∧ c ≠ '\n' then .error .malformed
    else do
      let more ← readLongLiteral s
      return (more.map (c :: ·)).past _

/-- A text without a line break at its front. -/
def skipFirstBreak : List Char → List Char
  | '\n' :: rest => rest
  | s => s

theorem length_skipFirstBreak_le (s : List Char) : (skipFirstBreak s).length ≤ s.length := by
  unfold skipFirstBreak
  split <;> simp

/-- A text in quotes of any kind. -/
def readQuoted : Reader (List Char)
  | '\x22' :: '\x22' :: '\x22' :: s => do
    return (← readLongBasic (skipFirstBreak s)).within
      (by have := length_skipFirstBreak_le s; simp; omega)
  | '\x27' :: '\x27' :: '\x27' :: s => do
    return (← readLongLiteral (skipFirstBreak s)).within
      (by have := length_skipFirstBreak_le s; simp; omega)
  | '\x22' :: s => do return (← readBasic s).past _
  | '\x27' :: s => do return (← readLiteral s).past _
  | _ => .error .malformed

end LineCalculator.Toml
