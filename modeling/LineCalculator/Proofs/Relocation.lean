/-
Texts at another offset.

What is read off a text is told by its characters.  The offset at which the text starts goes into
the offsets of its tokens and of its faults, and nowhere else; nor do these have a part in the
building of trees.

* `Relocates` — one run over a text reads and meets what another one does, at other offsets;
* `relocates_add` — a run that starts at a later offset;
* `Relocates.outcome_readTokens`, `Relocates.outcome_readTree` — the tokens, the trees and the faults
  that such runs give;
* `readTokens_offsets` — all offsets of a run lie within its text.
-/
import LineCalculator.Proofs.Building
import LineCalculator.Proofs.Scanning

namespace LineCalculator

/-- A token at another offset. -/
def Token.relocate (f : Nat → Nat) (t : Token) : Token :=
  { t with position := f t.position }

/-- A fault at another offset, if it has one. -/
def ParseError.relocate (f : Nat → Nat) : ParseError → ParseError
  | stray c k => stray c (f k)
  | empty => empty
  | malformed k => malformed (f k)

/-- What stopped a run, if anything did. -/
def Reading.stop? {α : Type} (r : Reading α) : Option ParseError :=
  match r.outcome with
  | .ok _ => none
  | .error e => some e

/-- Whether a run reads what another one reads, and is stopped by what stops it, with all offsets
changed by a function. -/
structure Relocates (f : Nat → Nat) (r r' : Reading (List Token)) : Prop where
  tokens : r'.tokens = r.tokens.map (Token.relocate f)
  stop : r'.stop? = r.stop?.map (ParseError.relocate f)

/-! ### One step of a run -/

section Step

variable {position next : Nat} {cs rest : List Char}

theorem tokens_of_token {t : Token} (h : scan position cs = .token t next rest) :
    (readTokens position cs).tokens = t :: (readTokens next rest).tokens := by
  rw [readTokens_of_token h]
  rfl

theorem stop?_of_token {t : Token} (h : scan position cs = .token t next rest) :
    (readTokens position cs).stop? = (readTokens next rest).stop? := by
  rw [readTokens_of_token h, Reading.stop?, Reading.stop?]
  cases (readTokens next rest).outcome <;> rfl

theorem tokens_of_stray {c : Char} {k : Nat} (h : scan position cs = .stray c k next rest) :
    (readTokens position cs).tokens = [] := by
  rw [readTokens_of_stray h]
  rfl

theorem stop?_of_stray {c : Char} {k : Nat} (h : scan position cs = .stray c k next rest) :
    (readTokens position cs).stop? = some (.stray c k) := by
  rw [readTokens_of_stray h]
  rfl

theorem tokens_of_finished (h : scan position cs = .finished next) :
    (readTokens position cs).tokens = [] := by
  rw [readTokens_of_finished h]
  rfl

theorem stop?_of_finished (h : scan position cs = .finished next) :
    (readTokens position cs).stop? = none := by
  rw [readTokens_of_finished h]
  rfl

end Step

/-! ### Runs that start later -/

/-- What stands at the front of a text that starts `d` characters later. -/
def Scan.shift (d : Nat) : Scan → Scan
  | token t next rest => token (t.relocate (· + d)) (next + d) rest
  | stray c k next rest => stray c (k + d) (next + d) rest
  | finished next => finished (next + d)

theorem scanNumber_add (position d : Nat) (cs : List Char) :
    scanNumber (position + d) cs = (scanNumber position cs).shift d := by
  have hwhole : ∀ m : Nat, position + d + m = position + m + d := by omega
  have hfraction : ∀ m n : Nat, position + d + m + 1 + n = position + m + 1 + n + d := by omega
  rw [scanNumber, scanNumber]
  split
  next =>
    split
    next => simp only [Scan.shift, hfraction]
    next => simp only [Scan.shift, hfraction, Token.relocate]
  next => simp only [Scan.shift, hwhole, Token.relocate]

theorem scan_add (position d : Nat) (cs : List Char) :
    scan (position + d) cs = (scan position cs).shift d := by
  induction cs generalizing position with
  | nil => rfl
  | cons c cs ih =>
    have hnext : position + d + 1 = position + 1 + d := by omega
    rw [scan, scan, scanNumber_add, hnext, ih]
    cases Operator.ofSymbol? c with
    | some op => rfl
    | none =>
      by_cases hc : isFigure c = true
      · simp only [if_pos hc]
      by_cases hs : isSpace c = true
      · simp only [if_neg hc, if_pos hs]
      · simp only [if_neg hc, if_neg hs, Scan.shift]

/-- A run that starts later reads the same at later offsets. -/
theorem relocates_add (position d : Nat) (cs : List Char) :
    Relocates (· + d) (readTokens position cs) (readTokens (position + d) cs) := by
  induction position, cs using readTokens.induct with
  | case1 position cs t next rest hs ih =>
    have hlater := scan_add position d cs
    rw [hs] at hlater
    constructor
    · rw [tokens_of_token hs, tokens_of_token hlater, ih.tokens]
      rfl
    · rw [stop?_of_token hs, stop?_of_token hlater, ih.stop]
  | case2 position cs c k next rest hs =>
    have hlater := scan_add position d cs
    rw [hs] at hlater
    constructor
    · rw [tokens_of_stray hs, tokens_of_stray hlater]
      rfl
    · rw [stop?_of_stray hs, stop?_of_stray hlater]
      rfl
  | case3 position cs next hs =>
    have hlater := scan_add position d cs
    rw [hs] at hlater
    constructor
    · rw [tokens_of_finished hs, tokens_of_finished hlater]
      rfl
    · rw [stop?_of_finished hs, stop?_of_finished hlater]
      rfl

/-- A text that has the tokens of another one at other offsets lists them, or has the same fault at
another offset. -/
theorem Relocates.outcome_readTokens {f : Nat → Nat} {p q : Nat} {cs ds : List Char}
    (h : Relocates f (readTokens p cs) (readTokens q ds)) :
    (readTokens q ds).outcome =
      ((readTokens p cs).outcome.map (List.map (Token.relocate f))).mapError
        (ParseError.relocate f) := by
  have hstop := h.stop
  rw [Reading.stop?, Reading.stop?] at hstop
  cases hp : (readTokens p cs).outcome with
  | error e =>
    rw [hp] at hstop
    cases hq : (readTokens q ds).outcome with
    | error e' =>
      rw [hq] at hstop
      exact congrArg Except.error (Option.some.inj hstop)
    | ok us =>
      rw [hq] at hstop
      cases hstop
  | ok ts =>
    rw [hp] at hstop
    cases hq : (readTokens q ds).outcome with
    | error e' =>
      rw [hq] at hstop
      cases hstop
    | ok us =>
      have htokens := h.tokens
      rw [tokens_of_readTokens_ok hp, tokens_of_readTokens_ok hq] at htokens
      exact congrArg Except.ok htokens

/-! ### Trees and faults -/

theorem growTree_relocate (f : Nat → Nat) (root : Expr) (ts : List Token) :
    growTree root (ts.map (Token.relocate f)) =
      (growTree root ts).mapError (ParseError.relocate f) := by
  induction ts generalizing root with
  | nil => rfl
  | cons t ts ih =>
    rw [List.map_cons]
    rcases h : root.insert? t.lexeme with _ | ⟨grown, how⟩
    · rw [growTree_cons_of_refused h, growTree_cons_of_refused (t := t.relocate f) h]
      rfl
    · rw [growTree_cons_of_insert h, growTree_cons_of_insert (t := t.relocate f) h]
      exact ih grown

theorem atEnd_relocate (f : Nat → Nat) (t : Expr) :
    (atEnd t).mapError (ParseError.relocate f) = atEnd t := by
  rw [atEnd]
  split <;> rfl

/-- What reading a text gives, from the tokens that were read and from what stopped the run. -/
theorem readTree_outcome_of_stop? (root : Expr) (position : Nat) (cs : List Char) :
    (readTree root position cs).outcome =
      (growTree root (readTokens position cs).tokens).bind fun grown =>
        (readTokens position cs).stop?.elim (atEnd grown) .error := by
  rw [readTree_outcome, Reading.stop?]
  cases (readTokens position cs).outcome <;> rfl

/-- A text that has the tokens of another one at other offsets is read into the same tree, and has
the same faults at other offsets. -/
theorem Relocates.outcome_readTree {f : Nat → Nat} {p q : Nat} {cs ds : List Char}
    (h : Relocates f (readTokens p cs) (readTokens q ds)) (root : Expr) :
    (readTree root q ds).outcome =
      (readTree root p cs).outcome.mapError (ParseError.relocate f) := by
  rw [readTree_outcome_of_stop?, readTree_outcome_of_stop?, h.tokens, h.stop, growTree_relocate]
  cases growTree root (readTokens p cs).tokens with
  | error e => rfl
  | ok grown =>
    cases (readTokens p cs).stop? with
    | some e => rfl
    | none => exact (atEnd_relocate f grown).symm

/-! ### The offsets of a run -/

/-- A stray character stands in the text that is scanned. -/
theorem position_mem_of_scan_stray {position k next : Nat} {cs rest : List Char} {c : Char}
    (h : scan position cs = .stray c k next rest) :
    position ≤ k ∧ k < position + cs.length := by
  obtain ⟨b, -, ⟨v, rfl, -, rfl, -⟩ | ⟨w, f, v, rfl, -, -, -, -, rfl, -⟩⟩ := scan_eq_stray h
  · simp only [List.length_append, List.length_cons]
    omega
  · simp only [List.length_append, List.length_cons]
    omega

/-- All offsets of a run lie within its text. -/
theorem readTokens_offsets (position : Nat) (cs : List Char) :
    (∀ t ∈ (readTokens position cs).tokens,
        position ≤ t.position ∧ t.position < position + cs.length) ∧
      ∀ e, (readTokens position cs).stop? = some e →
        ∃ c k, e = .stray c k ∧ position ≤ k ∧ k < position + cs.length := by
  induction position, cs using readTokens.induct with
  | case1 position cs t next rest hs ih =>
    have hmem := position_mem_of_scan hs
    have hstep := scan_next_add_length position cs
    rw [hs] at hstep
    simp only [Scan.next, Scan.rest] at hstep
    obtain ⟨htokens, hstop⟩ := ih
    rw [tokens_of_token hs, stop?_of_token hs]
    refine ⟨?_, ?_⟩
    · intro u hu
      rcases List.mem_cons.mp hu with rfl | hu
      · omega
      · have := htokens u hu
        omega
    · intro e he
      obtain ⟨c, k, rfl, hle, hlt⟩ := hstop e he
      exact ⟨c, k, rfl, by omega, by omega⟩
  | case2 position cs c k next rest hs =>
    rw [tokens_of_stray hs, stop?_of_stray hs]
    refine ⟨by simp, ?_⟩
    intro e he
    obtain rfl := Option.some.inj he
    exact ⟨c, k, rfl, position_mem_of_scan_stray hs⟩
  | case3 position cs next hs =>
    rw [tokens_of_finished hs, stop?_of_finished hs]
    exact ⟨by simp, by simp⟩

/-- Only what a function does to the offsets within the text matters. -/
theorem Relocates.congr {f g : Nat → Nat} {position : Nat} {cs : List Char}
    {r : Reading (List Token)} (h : Relocates f (readTokens position cs) r)
    (hfg : ∀ k, position ≤ k → k < position + cs.length → f k = g k) :
    Relocates g (readTokens position cs) r := by
  obtain ⟨htokens, hstop⟩ := readTokens_offsets position cs
  constructor
  · rw [h.tokens]
    refine List.map_congr_left ?_
    intro t ht
    obtain ⟨hle, hlt⟩ := htokens t ht
    rw [Token.relocate, Token.relocate, hfg _ hle hlt]
  · rw [h.stop]
    cases hs : (readTokens position cs).stop? with
    | none => rfl
    | some e =>
      obtain ⟨c, k, rfl, hle, hlt⟩ := hstop e hs
      simp only [Option.map_some, ParseError.relocate, hfg k hle hlt]

end LineCalculator
