/-
Reading expressions.

`tokenize` lists the tokens of a text, and `parse` builds its tree, taking each token in as soon as
it is read, so that of two faults the one that is met first is reported. Both are runs over the
remaining text (`readTokens`, `readTree`), which say where they stopped and what they did on the
way, and can be started at any offset.
-/
import LineCalculator.Token.Scan
import LineCalculator.Tree.Insertion

namespace LineCalculator

/-- Why a text is no expression. -/
inductive ParseError where
  | stray (char : Char) (position : Nat)
  | empty
  | malformed (position : Nat)
deriving DecidableEq, Repr

/-- What happens while a tree is built. -/
inductive ReadingEvent where
  | lexed (token : Token)
  | spliced (how : Splice) (position : Nat)
deriving DecidableEq

/-- The outcome of a run over a text, the events on the way, and where it stopped. -/
structure Reading (α : Type) where
  outcome : Except ParseError α
  events : List ReadingEvent
  next : Nat

/-- A run with events in front of its own. -/
def Reading.after {α : Type} (events : List ReadingEvent) (r : Reading α) : Reading α :=
  { r with events := events ++ r.events }

/-- The next token of a text, or none if only blanks are left. -/
def readToken (position : Nat) (cs : List Char) : Reading (Option Token) :=
  match scan position cs with
  | .token t next _ => ⟨.ok (some t), [.lexed t], next⟩
  | .stray c position next _ => ⟨.error (.stray c position), [], next⟩
  | .finished next => ⟨.ok none, [], next⟩

/-- All tokens of a text, after those that were read before. -/
def readTokens (position : Nat) (cs : List Char) : Reading (List Token) :=
  match _h : scan position cs with
  | .token t next rest =>
    let more := readTokens next rest
    { more.after [.lexed t] with outcome := more.outcome.map (t :: ·) }
  | .stray c position next _ => ⟨.error (.stray c position), [], next⟩
  | .finished next => ⟨.ok [], [], next⟩
termination_by cs.length
decreasing_by exact Scan.rest_length_lt _h

/-- The tree that a text continues a tree to. -/
def readTree (root : Expr) (position : Nat) (cs : List Char) : Reading Expr :=
  match _h : scan position cs with
  | .token t next rest =>
    match root.insert? t.lexeme with
    | some (root, how) =>
      (readTree root next rest).after
        (.lexed t :: (how.map fun how => .spliced how t.position).toList)
    | none => ⟨.error (.malformed t.position), [.lexed t], next⟩
  | .stray c position next _ => ⟨.error (.stray c position), [], next⟩
  | .finished next => ⟨if root.isHole then .error .empty else .ok root, [], next⟩
termination_by cs.length
decreasing_by exact Scan.rest_length_lt _h

/-- The tokens of a text. -/
def tokenize (source : List Char) : Except ParseError (List Token) :=
  (readTokens 0 source).outcome

/-- The tree of a text. -/
def parse (source : List Char) : Except ParseError Expr :=
  (readTree .hole 0 source).outcome

end LineCalculator
