/-
A place in a text from which reading goes on.

A cursor stands on the character that was taken last, so before the first one at the start, and goes
on counting when it moves past the end. It is read one character at a time, with a look at the next
character and no further. Tokens and trees can be asked for in any order, also after a fault, and
each call starts where the one before it stopped.

* `Cursor.nextToken` — the next token, with its literal digit by digit (`Cursor.readLiteral`);
* `Cursor.build` — the tree of the tokens that are left, each taken in as soon as it is read;
* `Cursor.movesTo_nextToken` — asking for a token moves a cursor on, up to the end of its text.
-/
import LineCalculator.Expression
import LineCalculator.Text.Quoted

namespace LineCalculator

/-- A text and the number of steps taken through it. -/
structure Cursor where
  source : List Char
  taken : Nat
deriving DecidableEq

/-- A literal with one more digit, before its point or behind it. -/
def Literal.push (l : Literal) (isPointed : Bool) (d : Char) : Literal :=
  if isPointed then { l with fraction := l.fraction ++ [d] } else { l with whole := l.whole ++ [d] }

namespace Cursor

/-- The cursor before the first character. -/
def start (source : List Char) : Cursor :=
  ⟨source, 0⟩

/-- The index of the character that the cursor stands on, or minus one. -/
def position (c : Cursor) : Int :=
  c.taken - 1

/-- The number of characters that are left. -/
def remaining (c : Cursor) : Nat :=
  c.source.length - c.taken

/-- The character that the cursor stands on, if it stands on one. -/
def current? (c : Cursor) : Option Char :=
  if c.taken = 0 then none else c.source[c.taken - 1]?

/-- The character after the cursor. -/
def peek? (c : Cursor) : Option Char :=
  c.source[c.taken]?

/-- The cursor one step on. -/
def advance (c : Cursor) : Cursor :=
  { c with taken := c.taken + 1 }

/-- Whether no character is left. -/
def isAtEnd (c : Cursor) : Bool :=
  c.peek?.isNone

/-- The text and the place of a cursor. -/
def text (c : Cursor) : List Char :=
  "CharacterCursor(".toList ++ Text.quoted c.source ++ ", position=".toList ++
    Decimal.integerText c.position ++ [')']

/-- Whether a cursor moves on to another one over characters of its text. -/
structure MovesTo (c after : Cursor) : Prop where
  source_eq : after.source = c.source
  taken_lt : c.taken < after.taken
  taken_le : after.taken ≤ c.source.length

theorem movesTo_advance {c : Cursor} {d : Char} (h : c.peek? = some d) : c.MovesTo c.advance := by
  obtain ⟨hlt, -⟩ := List.getElem?_eq_some_iff.mp h
  exact ⟨rfl, Nat.lt_succ_self _, hlt⟩

theorem MovesTo.trans {c d e : Cursor} (h : c.MovesTo d) (h' : d.MovesTo e) : c.MovesTo e :=
  ⟨h'.source_eq.trans h.source_eq, Nat.lt_trans h.taken_lt h'.taken_lt, h.source_eq ▸ h'.taken_le⟩

/-- Moving on leaves fewer characters. -/
theorem MovesTo.remaining_lt {c after : Cursor} (h : c.MovesTo after) :
    after.remaining < c.remaining := by
  have hlt := h.taken_lt
  have hle := h.taken_le
  rw [remaining, remaining, h.source_eq]
  omega

/-- The literal that goes on behind its first characters. A point behind the point of the literal is
not taken. -/
def readLiteral (c : Cursor) (l : Literal) (isPointed : Bool) :
    Except ParseError Literal × Cursor :=
  match _h : c.peek? with
  | some d =>
    if isFigure d then c.advance.readLiteral (l.push isPointed d) isPointed
    else if d = '.' then
      if isPointed then (.error (.stray '.' c.taken), c) else c.advance.readLiteral l true
    else (.ok l, c)
  | none => (.ok l, c)
termination_by c.remaining
decreasing_by all_goals exact (movesTo_advance _h).remaining_lt

/-- The next token, or none if only blanks are left. A character that can start nothing is taken. -/
def nextToken (c : Cursor) : Except ParseError (Option Token) × Cursor :=
  match _h : c.peek? with
  | none => (.ok none, c)
  | some ch =>
    match Operator.ofSymbol? ch with
    | some op => (.ok (some ⟨.operator op, c.taken⟩), c.advance)
    | none =>
      if isFigure ch then
        let (literal, after) := c.advance.readLiteral ⟨[ch], []⟩ false
        (literal.map fun l => some ⟨.number l.value, c.taken⟩, after)
      else if isSpace ch then c.advance.nextToken
      else (.error (.stray ch c.taken), c.advance)
termination_by c.remaining
decreasing_by exact (movesTo_advance _h).remaining_lt

/-- A literal that does not go on leaves the cursor where it is. -/
theorem movesTo_readLiteral (c : Cursor) (l : Literal) (isPointed : Bool) :
    (c.readLiteral l isPointed).2 = c ∨ c.MovesTo (c.readLiteral l isPointed).2 := by
  have step {c c' : Cursor} (h : c.MovesTo c.advance)
      (ih : c' = c.advance ∨ c.advance.MovesTo c') : c' = c ∨ c.MovesTo c' := by
    rcases ih with rfl | ih
    · exact .inr h
    · exact .inr (h.trans ih)
  fun_induction readLiteral c l isPointed with
  | case1 c l isPointed d h _ ih => exact step (movesTo_advance h) ih
  | case2 => exact .inl rfl
  | case3 c l isPointed _ h _ ih => exact step (movesTo_advance h) ih
  | case4 => exact .inl rfl
  | case5 => exact .inl rfl

/-- A cursor at the end of its text stays there. -/
theorem nextToken_of_peek?_eq_none {c : Cursor} (h : c.peek? = none) :
    c.nextToken = (.ok none, c) := by
  rw [nextToken]
  split
  next => rfl
  next h' => rw [h] at h'; cases h'

/-- Where a character is left, asking for a token moves the cursor on, whether or not there is
one. -/
theorem movesTo_nextToken {c : Cursor} {d : Char} (h : c.peek? = some d) :
    c.MovesTo c.nextToken.2 := by
  fun_induction nextToken c generalizing d with
  | case1 c hnone => rw [hnone] at h; cases h
  | case2 c ch hch => exact movesTo_advance hch
  | case3 c ch hch _ _ literal after hread =>
    have hafter := movesTo_readLiteral c.advance ⟨[ch], []⟩ false
    rw [hread] at hafter
    rcases hafter with rfl | hafter
    · exact movesTo_advance hch
    · exact (movesTo_advance hch).trans hafter
  | case4 c ch hch _ _ _ ih =>
    cases hnext : c.advance.peek? with
    | some d => exact (movesTo_advance hch).trans (ih hnext)
    | none =>
      -- a blank at the end of the text is taken all the same
      rw [nextToken_of_peek?_eq_none hnext]
      exact movesTo_advance hch
  | case5 c ch hch => exact movesTo_advance hch

/-- A token takes at least one character. -/
theorem movesTo_of_nextToken {c after : Cursor} {t : Token}
    (h : c.nextToken = (.ok (some t), after)) : c.MovesTo after := by
  cases hpeek : c.peek? with
  | none =>
    rw [nextToken_of_peek?_eq_none hpeek] at h
    cases h
  | some d =>
    have hmoves := movesTo_nextToken hpeek
    rw [h] at hmoves
    exact hmoves

/-- All tokens that are left. -/
def remainingTokens (c : Cursor) : Except ParseError (List Token) × Cursor :=
  match _h : c.nextToken with
  | (.ok (some t), after) =>
    let (more, last) := after.remainingTokens
    (more.map (t :: ·), last)
  | (.ok none, after) => (.ok [], after)
  | (.error e, after) => (.error e, after)
termination_by c.remaining
decreasing_by exact (movesTo_of_nextToken _h).remaining_lt

/-- The tree that the tokens that are left continue a tree to. A refused token is taken. -/
def grow (c : Cursor) (root : Expr) : Except ParseError Expr × Cursor :=
  match _h : c.nextToken with
  | (.ok (some t), after) =>
    match root.insert? t.lexeme with
    | some (grown, _) => after.grow grown
    | none => (.error (.malformed t.position), after)
  | (.ok none, after) => (if root.isHole then .error .empty else .ok root, after)
  | (.error e, after) => (.error e, after)
termination_by c.remaining
decreasing_by exact (movesTo_of_nextToken _h).remaining_lt

/-- The tree of the tokens that are left. -/
def build (c : Cursor) : Except ParseError Expr × Cursor :=
  c.grow .hole

end Cursor

end LineCalculator
