/-
Calls on one cursor.

A cursor takes its characters one at a time and looks one character ahead; a run over a text cuts
tokens off a list.  Both read the same and stop at the same place, so what a cursor answers is told
by the characters that are left.  What was asked of it before has no part in it, be it that a call
ended in a fault or that the cursor has moved past the end.

* `Cursor.readsLiteral_readLiteral` — what is read of a literal, digit by digit;
* `Cursor.nextToken_eq_resume`, `Cursor.grow_eq_resume` — a call is a run over the rest of the text;
* `Cursor.source_after` — calls leave the text as it is;
* `Cursor.exists_nextToken_eq_none` — asking for tokens again and again comes to an end;
* `Cursor.answers_as_fresh` — after any calls a cursor answers as a fresh one over the rest of the
  text does.
-/
import LineCalculator.Cursor
import LineCalculator.Proofs.Relocation

namespace LineCalculator

/-! ### Literals under construction -/

/-- Whether a literal is what the text of its first characters stands for, and whether it has its
point. -/
inductive Literal.IsBegun : Literal → Bool → List Char → Prop
  | whole {w : List Char} (hw : w ≠ []) (hf : IsFigures w) : IsBegun ⟨w, []⟩ false w
  | pointed {w f : List Char} (hw : w ≠ []) (hf : IsFigures w) (hf' : IsFigures f) :
      IsBegun ⟨w, f⟩ true (w ++ '.' :: f)

section IsBegun

variable {l : Literal} {isPointed : Bool} {v : List Char} {d : Char}

theorem Literal.isBegun_singleton (hd : isFigure d = true) : IsBegun ⟨[d], []⟩ false [d] :=
  .whole (by simp) (List.forall_mem_singleton.mpr hd)

theorem Literal.IsBegun.isText (h : l.IsBegun isPointed v) : l.IsText v := by
  cases h with
  | whole hw hf => exact .whole hw hf
  | pointed hw hf hf' => exact .pointed hw hf hf'

theorem Literal.IsBegun.push (h : l.IsBegun isPointed v) (hd : isFigure d = true) :
    (l.push isPointed d).IsBegun isPointed (v ++ [d]) := by
  cases h with
  | whole hw hf => exact .whole (by simp) (hf.concat hd)
  | pointed hw hf hf' =>
    rw [List.append_assoc, List.cons_append]
    exact .pointed hw hf (hf'.concat hd)

theorem Literal.IsBegun.point (h : l.IsBegun false v) : l.IsBegun true (v ++ ['.']) := by
  cases h with
  | whole hw hf => exact .pointed hw hf (by simp [IsFigures])

theorem Literal.IsBegun.mem_point (h : l.IsBegun true v) : '.' ∈ v := by
  cases h with
  | pointed hw hf hf' => simp

end IsBegun

namespace Cursor

/-- The text that is left. -/
def rest (c : Cursor) : List Char :=
  c.source.drop c.taken

section Rest

variable {c : Cursor} {d : Char}

theorem rest_of_peek? (h : c.peek? = some d) : c.rest = d :: c.advance.rest := by
  obtain ⟨hlt, rfl⟩ := List.getElem?_eq_some_iff.mp h
  exact List.drop_eq_getElem_cons hlt

theorem rest_of_peek?_eq_none (h : c.peek? = none) : c.rest = [] :=
  List.drop_eq_nil_of_le (List.getElem?_eq_none_iff.mp h)

end Rest

/-! ### One token -/

/-- Whether an answer is what is read of a literal behind its first characters `v`: all that can
belong to it, unless a second point follows. -/
def ReadsLiteral (c : Cursor) (v : List Char) (r : Except ParseError Literal × Cursor) : Prop :=
  ∃ w l, r.2 = ⟨c.source, c.taken + w.length⟩ ∧ c.rest = w ++ r.2.rest ∧ l.IsText (v ++ w) ∧
    (r.1 = .ok l ∧ IsClosed r.2.rest ∨
      r.1 = .error (.stray '.' r.2.taken) ∧ '.' ∈ v ++ w ∧ ∃ u, r.2.rest = '.' :: u)

theorem ReadsLiteral.of_advance {c : Cursor} {d : Char} {v : List Char}
    {r : Except ParseError Literal × Cursor} (hd : c.peek? = some d)
    (h : c.advance.ReadsLiteral (v ++ [d]) r) : c.ReadsLiteral v r := by
  obtain ⟨w, l, hafter, hrest, hl, hread⟩ := h
  have htaken : c.advance.taken + w.length = c.taken + (d :: w).length := by
    simp only [advance, List.length_cons]
    omega
  rw [List.append_assoc, List.singleton_append] at hl hread
  refine ⟨d :: w, l, ?_, by rw [rest_of_peek? hd, hrest, List.cons_append], hl, hread⟩
  rw [hafter, htaken]
  rfl

/-- A character that is not taken leaves the literal as it was begun. -/
theorem readsLiteral_of_isClosed {c : Cursor} {l : Literal} {isPointed : Bool} {v : List Char}
    (h : l.IsBegun isPointed v) (hclosed : IsClosed c.rest) : c.ReadsLiteral v (.ok l, c) := by
  refine ⟨[], l, rfl, rfl, ?_, .inl ⟨rfl, hclosed⟩⟩
  rw [List.append_nil]
  exact h.isText

theorem readsLiteral_readLiteral (c : Cursor) {l : Literal} {isPointed : Bool} {v : List Char}
    (h : l.IsBegun isPointed v) : c.ReadsLiteral v (c.readLiteral l isPointed) := by
  fun_induction readLiteral c l isPointed generalizing v with
  | case1 c l isPointed d hd hfigure ih => exact (ih (h.push hfigure)).of_advance hd
  | case2 c l hd hfigure =>
    refine ⟨[], l, rfl, rfl, by simpa using h.isText, .inr ⟨rfl, by simpa using h.mem_point, ?_⟩⟩
    exact ⟨_, rest_of_peek? hd⟩
  | case3 c l isPointed hpointed hd _ ih =>
    rw [Bool.not_eq_true] at hpointed
    subst hpointed
    exact (ih h.point).of_advance hd
  | case4 c l isPointed d hd hfigure hpoint =>
    refine readsLiteral_of_isClosed h ?_
    rw [rest_of_peek? hd]
    intro d' hd'
    obtain rfl := Option.some.inj hd'
    exact ⟨by simpa using hfigure, hpoint⟩
  | case5 c l isPointed hd =>
    refine readsLiteral_of_isClosed h ?_
    rw [rest_of_peek?_eq_none hd]
    simp [IsClosed]

/-- The outcome of a run over the text that is left, and the cursor where the run stopped. -/
def resume {α : Type} (c : Cursor) (run : Nat → List Char → Reading α) :
    Except ParseError α × Cursor :=
  ((run c.taken c.rest).outcome, ⟨c.source, (run c.taken c.rest).next⟩)

section Scan

variable {c : Cursor} {next : Nat} {rest : List Char}

theorem resume_readToken_of_token {t : Token} (h : scan c.taken c.rest = .token t next rest) :
    c.resume readToken = (.ok (some t), ⟨c.source, next⟩) := by
  rw [resume, readToken, h]

theorem resume_readToken_of_stray {ch : Char} {k : Nat}
    (h : scan c.taken c.rest = .stray ch k next rest) :
    c.resume readToken = (.error (.stray ch k), ⟨c.source, next⟩) := by
  rw [resume, readToken, h]

theorem resume_readToken_of_finished (h : scan c.taken c.rest = .finished next) :
    c.resume readToken = (.ok none, ⟨c.source, next⟩) := by
  rw [resume, readToken, h]

end Scan

/-- A cursor reads the token that is cut off the rest of its text. -/
theorem nextToken_eq_resume (c : Cursor) : c.nextToken = c.resume readToken := by
  fun_induction nextToken c with
  | case1 c h =>
    have hscan : scan c.taken c.rest = .finished c.taken := by
      rw [rest_of_peek?_eq_none h]
      rfl
    rw [resume_readToken_of_finished hscan]
  | case2 c ch hch op hop =>
    obtain rfl := Operator.ofSymbol?_eq_some_iff.mp hop
    have hscan := scan_of_isText (.operator op c.advance.rest) c.taken
    rw [List.singleton_append, ← rest_of_peek? hch] at hscan
    rw [resume_readToken_of_token hscan]
    rfl
  | case3 c ch hch _ hfigure literal after hread =>
    have hspec : c.ReadsLiteral [] (literal, after) := by
      rw [← hread]
      exact (readsLiteral_readLiteral _ (Literal.isBegun_singleton hfigure)).of_advance hch
    obtain ⟨w, l, hafter, hrest, hl, ⟨hok, hclosed⟩ | ⟨herr, hpoint, u, hu⟩⟩ := hspec
    · have hscan := scan_of_isText (.number hl hclosed) c.taken
      simp only [List.nil_append] at hok hafter hrest hscan
      rw [← hrest] at hscan
      rw [resume_readToken_of_token hscan, hok, hafter]
      rfl
    · have hscan := scan_of_second_point hl hpoint c.taken u
      simp only [List.nil_append] at herr hafter hrest hu hscan
      rw [← hu, ← hrest] at hscan
      rw [resume_readToken_of_stray hscan, herr, hafter]
      rfl
  | case4 c ch hch _ _ hspace ih =>
    have hscan : scan c.taken c.rest = scan c.advance.taken c.advance.rest := by
      rw [rest_of_peek? hch]
      exact scan_cons_of_isSpace hspace c.taken c.advance.rest
    rw [ih, resume, resume, readToken, readToken, hscan]
    rfl
  | case5 c ch hch hop hfigure hspace =>
    have hstarts : StartsNothing ch := ⟨hop, by simpa using hfigure, by simpa using hspace⟩
    have hscan := scan_cons_of_startsNothing hstarts c.taken c.advance.rest
    rw [← rest_of_peek? hch] at hscan
    rw [resume_readToken_of_stray hscan]
    rfl

/-! ### All tokens, and trees -/

/-- What is left behind a token is the rest of the text from the place where the cursor stops. -/
theorem rest_of_scan {c : Cursor} {t : Token} {next : Nat} {rest : List Char}
    (h : scan c.taken c.rest = .token t next rest) : (⟨c.source, next⟩ : Cursor).rest = rest := by
  obtain ⟨b, w, hcs, -, -, hposition, hnext⟩ := scan_eq_token h
  have hskip : next = c.taken + (b ++ w).length := by
    rw [hnext, hposition, List.length_append, Nat.add_assoc]
  show c.source.drop next = rest
  rw [hskip, ← List.drop_drop, ← Cursor.rest, hcs, ← List.append_assoc, List.drop_left]

/-- What is cut off the rest of a text, by the answer about a token and the place where the cursor
stops. -/
theorem scan_of_nextToken {c after : Cursor} {r : Except ParseError (Option Token)}
    (h : c.nextToken = (r, after)) :
    after.source = c.source ∧
      match r with
      | .ok (some t) => scan c.taken c.rest = .token t after.taken after.rest
      | .ok none => scan c.taken c.rest = .finished after.taken
      | .error e =>
        ∃ ch k rest, e = .stray ch k ∧ scan c.taken c.rest = .stray ch k after.taken rest := by
  rw [nextToken_eq_resume] at h
  cases hscan : scan c.taken c.rest with
  | token t next rest =>
    rw [resume_readToken_of_token hscan] at h
    cases h
    exact ⟨rfl, by rw [rest_of_scan hscan]⟩
  | stray ch k next rest =>
    rw [resume_readToken_of_stray hscan] at h
    cases h
    exact ⟨rfl, ch, k, rest, rfl, rfl⟩
  | finished next =>
    rw [resume_readToken_of_finished hscan] at h
    cases h
    exact ⟨rfl, rfl⟩

/-- A cursor lists the tokens that are cut off the rest of its text. -/
theorem remainingTokens_eq_resume (c : Cursor) : c.remainingTokens = c.resume readTokens := by
  fun_induction remainingTokens c with
  | case1 c t after h more last hmore ih =>
    obtain ⟨hsource, hscan⟩ := scan_of_nextToken h
    rw [resume, readTokens_of_token hscan]
    rw [hmore, resume, hsource] at ih
    cases ih
    rfl
  | case2 c after h =>
    obtain ⟨hsource, hscan⟩ := scan_of_nextToken h
    rw [resume, readTokens_of_finished hscan, ← hsource]
  | case3 c e after h =>
    obtain ⟨hsource, ch, k, rest, rfl, hscan⟩ := scan_of_nextToken h
    rw [resume, readTokens_of_stray hscan, ← hsource]

/-- A cursor builds the tree that the rest of its text is read into. -/
theorem grow_eq_resume (c : Cursor) (root : Expr) : c.grow root = c.resume (readTree root) := by
  fun_induction grow c root with
  | case1 c root t after h grown how hgrown ih =>
    obtain ⟨hsource, hscan⟩ := scan_of_nextToken h
    rw [ih, resume, resume, readTree_eq_after hscan hgrown, hsource]
    rfl
  | case2 c root t after h hrefused =>
    obtain ⟨hsource, hscan⟩ := scan_of_nextToken h
    rw [resume, readTree_eq_of_refused hscan hrefused, ← hsource]
  | case3 c root after h =>
    obtain ⟨hsource, hscan⟩ := scan_of_nextToken h
    rw [resume, readTree_eq_of_finished hscan, ← hsource]
  | case4 c root e after h =>
    obtain ⟨hsource, ch, k, rest, rfl, hscan⟩ := scan_of_nextToken h
    rw [resume, readTree_eq_of_stray hscan, ← hsource]

theorem build_eq_resume (c : Cursor) : c.build = c.resume (readTree .hole) :=
  c.grow_eq_resume .hole

/-- A fresh cursor over a text builds the tree that the text is read into, and lists its tokens. -/
theorem answers_start (source : List Char) :
    (start source).build.1 = parse source ∧
      (start source).remainingTokens.1 = tokenize source := by
  rw [build_eq_resume, remainingTokens_eq_resume]
  exact ⟨rfl, rfl⟩

/-! ### Calls in any order -/

/-- A call on a cursor: for a token, in one of two ways, for all tokens, for a character, which is
taken or only looked at, or for a tree. -/
inductive Call where
  | next
  | iterate
  | list
  | advance
  | peek
  | build
deriving DecidableEq, Repr

/-- The cursor after a call, whatever the call has answered. -/
def call (c : Cursor) : Call → Cursor
  | .next | .iterate => c.nextToken.2
  | .list => c.remainingTokens.2
  | .advance => c.advance
  | .peek => c
  | .build => c.build.2

/-- The cursor after a row of calls. -/
def after (c : Cursor) (calls : List Call) : Cursor :=
  calls.foldl call c

/-- A call leaves the text of a cursor as it is. -/
theorem source_call (c : Cursor) (x : Call) : (c.call x).source = c.source := by
  cases x with
  | next => rw [call, nextToken_eq_resume, resume]
  | iterate => rw [call, nextToken_eq_resume, resume]
  | list => rw [call, remainingTokens_eq_resume, resume]
  | advance => rfl
  | peek => rfl
  | build => rw [call, build_eq_resume, resume]

theorem source_after (c : Cursor) (calls : List Call) : (c.after calls).source = c.source := by
  induction calls generalizing c with
  | nil => rfl
  | cons x calls ih => exact (ih (c.call x)).trans (c.source_call x)

/-- A cursor from which tokens are asked for again and again comes to an end of them, after as many
other answers as characters were left, or fewer. -/
theorem exists_nextToken_eq_none (c : Cursor) :
    ∃ n ≤ c.remaining, (c.after (List.replicate n .next)).nextToken.1 = .ok none ∧
      ∀ m < n, (c.after (List.replicate m .next)).nextToken.1 ≠ .ok none := by
  induction hn : c.remaining using Nat.strong_induction_on generalizing c with
  | _ n ih =>
    by_cases hnone : c.nextToken.1 = .ok none
    · exact ⟨0, Nat.zero_le _, hnone, by simp⟩
    · cases hpeek : c.peek? with
      | none =>
        rw [nextToken_of_peek?_eq_none hpeek] at hnone
        exact absurd rfl hnone
      | some d =>
        have hlt := (movesTo_nextToken hpeek).remaining_lt
        obtain ⟨m, hm, hend, hbefore⟩ := ih _ (hn ▸ hlt) c.nextToken.2 rfl
        refine ⟨m + 1, by omega, hend, ?_⟩
        intro k hk
        cases k with
        | zero => exact hnone
        | succ k => exact hbefore k (by omega)

/-! ### Answers are those of a fresh cursor -/

/-- The answer about a token at a later offset. -/
def later (d : Nat) (answer : Except ParseError (Option Token)) :
    Except ParseError (Option Token) :=
  (answer.map (Option.map (Token.relocate (· + d)))).mapError (ParseError.relocate (· + d))

theorem outcome_readToken_add (position d : Nat) (cs : List Char) :
    (readToken (position + d) cs).outcome = later d (readToken position cs).outcome := by
  rw [readToken, readToken, scan_add]
  cases scan position cs <;> rfl

/-- A cursor answers about a token as a fresh one over the rest of its text does, at later
offsets. -/
theorem nextToken_eq_later (c : Cursor) :
    c.nextToken.1 = later c.taken (start c.rest).nextToken.1 := by
  have hmoved := outcome_readToken_add 0 c.taken c.rest
  rw [Nat.zero_add] at hmoved
  rw [nextToken_eq_resume, nextToken_eq_resume]
  exact hmoved

/-- A cursor builds as a fresh one over the rest of its text does, with faults at later offsets. -/
theorem build_eq_later (c : Cursor) :
    c.build.1 = (start c.rest).build.1.mapError (ParseError.relocate (· + c.taken)) := by
  have hmoved := (relocates_add 0 c.taken c.rest).outcome_readTree .hole
  rw [Nat.zero_add] at hmoved
  rw [build_eq_resume, build_eq_resume]
  exact hmoved

/-- A cursor stays where it is and tells that there are no tokens at its end, and only there. -/
theorem nextToken_stays_iff (c : Cursor) :
    (c.nextToken.1 = .ok none ∧ c.nextToken.2.position = c.position) ↔ c.isAtEnd = true := by
  rw [isAtEnd, Option.isNone_iff_eq_none]
  constructor
  · rintro ⟨-, hstay⟩
    cases hpeek : c.peek? with
    | none => rfl
    | some d =>
      have hlt := (movesTo_nextToken hpeek).taken_lt
      rw [position, position] at hstay
      omega
  · intro hpeek
    rw [nextToken_of_peek?_eq_none hpeek]
    exact ⟨rfl, rfl⟩

/-- **Calls leave no trace but the place.**  After any calls on a cursor, the next answer about a
token or a tree is that of a fresh cursor over the text from the place on, with the offsets of
tokens and faults increased by as much.  Asking for a token at the end of the text changes nothing;
anywhere else it moves the cursor on, up to the last character at most, so that asking again comes
to the end after as many other answers as characters are left, or fewer. -/
theorem answers_as_fresh (source : List Char) (calls : List Call) :
    let c := (start source).after calls
    let fresh := start (source.drop (c.position + 1).toNat)
    let moved := (· + (c.position + 1).toNat)
    c.nextToken.1 = (fresh.nextToken.1.map (Option.map (Token.relocate moved))).mapError
        (ParseError.relocate moved) ∧
      c.build.1 = fresh.build.1.mapError (ParseError.relocate moved) ∧
      ((c.nextToken.1 = .ok none ∧ c.nextToken.2.position = c.position) ↔ c.isAtEnd = true) ∧
      (c.isAtEnd = false →
        c.position < c.nextToken.2.position ∧ c.nextToken.2.position < source.length) ∧
      ∃ n ≤ source.length - (c.position + 1).toNat,
        (c.after (List.replicate n .next)).nextToken.1 = .ok none ∧
          ∀ m < n, (c.after (List.replicate m .next)).nextToken.1 ≠ .ok none := by
  intro c fresh moved
  have hsource : c.source = source := source_after (start source) calls
  have hplace : (c.position + 1).toNat = c.taken := by
    rw [position]
    omega
  have hfresh : fresh = start c.rest := by
    show start (source.drop (c.position + 1).toNat) = start (c.source.drop c.taken)
    rw [hplace, hsource]
  have hmoved : moved = (· + c.taken) := by
    show (· + (c.position + 1).toNat) = (· + c.taken)
    rw [hplace]
  rw [hfresh, hmoved, hplace, ← hsource]
  refine ⟨c.nextToken_eq_later, c.build_eq_later, c.nextToken_stays_iff, ?_,
    c.exists_nextToken_eq_none⟩
  intro hend
  obtain ⟨d, hpeek⟩ := Option.isSome_iff_exists.mp (Option.isNone_eq_false_iff.mp hend)
  have hmoves := movesTo_nextToken hpeek
  have hlt := hmoves.taken_lt
  have hle := hmoves.taken_le
  rw [position, position]
  omega

end Cursor

end LineCalculator
