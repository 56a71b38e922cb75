/-
Blanks between texts.

Blanks separate what could run together, and do nothing else.  Where no literal can run from one
text into the next, blanks that are put between the two move the tokens behind them; the tree stays
the same, and so does the fault but for its offset.

* `relocates_blanks` — the tokens of two texts, without and with blanks between them;
* `parse_insert_blanks` — the trees and the faults of the two texts.
-/
import LineCalculator.Proofs.Concatenation

namespace LineCalculator

/-- A blank is no part of a literal. -/
theorem IsBlank.isClosed {w : List Char} (hw : IsBlank w) : IsClosed w := by
  intro c hc
  have hblank := isSpace_iff.mp (hw c (List.mem_of_mem_head? hc))
  rcases hblank with rfl | rfl | rfl | rfl <;> decide

/-- Texts that are apart stay so with blanks between them. -/
theorem Apart.insert_blanks {u v w : List Char} (ha : Apart u v) (hw : IsBlank w) :
    Apart u (w ++ v) := by
  rcases ha with hu | hv
  · exact .inl hu
  · exact .inr (hw.isClosed.append fun _ => hv)

/-- Offsets of a text in the text that has `d` more characters before its character at `n`. -/
def shiftFrom (n d k : Nat) : Nat :=
  if k < n then k else k + d

theorem shiftFrom_of_lt {n d k : Nat} (h : k < n) : shiftFrom n d k = k :=
  if_pos h

theorem shiftFrom_of_le {n d k : Nat} (h : n ≤ k) : shiftFrom n d k = k + d :=
  if_neg (Nat.not_lt.mpr h)

/-- A run has its own offsets. -/
theorem Relocates.refl (r : Reading (List Token)) : Relocates (fun k => k) r r := by
  have hstop : ParseError.relocate (fun k => k) = id := by
    funext e
    cases e <;> rfl
  constructor
  · exact (List.map_id r.tokens).symm
  · rw [hstop, Option.map_id]
    rfl

/-- Runs over texts with a common beginning, whose offsets stay, are as the runs behind it. -/
theorem Relocates.append {f : Nat → Nat} {u v v' : List Char} {ts : List Token}
    (h : (readTokens 0 u).outcome = .ok ts) (ha : Apart u v) (ha' : Apart u v')
    (hu : ∀ k, k < u.length → f k = k)
    (hv : Relocates f (readTokens u.length v) (readTokens u.length v')) :
    Relocates f (readTokens 0 (u ++ v)) (readTokens 0 (u ++ v')) := by
  have hts : ts.map (Token.relocate f) = ts := by
    refine (List.map_congr_left ?_).trans (List.map_id ts)
    intro t ht
    obtain ⟨-, hlt⟩ := (readTokens_offsets 0 u).1 t (by rwa [tokens_of_readTokens_ok h])
    rw [Nat.zero_add] at hlt
    rw [Token.relocate, hu _ hlt, id]
  constructor
  · rw [tokens_readTokens_append h ha, tokens_readTokens_append h ha', List.map_append, hts,
      Nat.zero_add, hv.tokens]
  · rw [stop?_readTokens_append h ha, stop?_readTokens_append h ha', Nat.zero_add, hv.stop]

/-- Blanks between two texts move what is read behind them. -/
theorem relocates_blanks {u v w : List Char} (ha : Apart u v) (hw : IsBlank w) :
    Relocates (shiftFrom u.length w.length) (readTokens 0 (u ++ v))
      (readTokens 0 (u ++ (w ++ v))) := by
  cases h : (readTokens 0 u).outcome with
  | error e =>
    -- both runs are stopped before they come to the blanks
    rw [readTokens_append_of_error h, readTokens_append_of_error h]
    refine (Relocates.refl _).congr ?_
    intro k _ hk
    rw [Nat.zero_add] at hk
    exact (shiftFrom_of_lt hk).symm
  | ok ts =>
    refine Relocates.append h ha (ha.insert_blanks hw) (fun k hk => shiftFrom_of_lt hk) ?_
    rw [readTokens_append_of_isBlank hw]
    refine (relocates_add u.length w.length v).congr ?_
    intro k hk _
    exact (shiftFrom_of_le hk).symm

/-- **Blanks between texts.**  Where no literal runs from one text into another, blanks between the
two change neither the tree nor the kind of a fault; the offset of a fault in the first text stays,
and one behind it grows by the number of blanks. -/
theorem parse_insert_blanks {u v w : List Char} (ha : Apart u v) (hw : IsBlank w) :
    parse (u ++ w ++ v) =
      (parse (u ++ v)).mapError (ParseError.relocate (shiftFrom u.length w.length)) := by
  rw [List.append_assoc]
  exact (relocates_blanks ha hw).outcome_readTree .hole

/-- More blanks in `1 2` move the number without a place; blanks in `1+2*/3` leave its tree as it
is. -/
theorem parse_insert_blanks_pairText_crowdedText :
    parse ['1', '\t', '\n', ' ', '2'] = .error (.malformed 4) ∧
      parse ['1', '+', '2', '*', '\r', '/', '3'] = .ok crowdedTree := by
  refine ⟨?_, ?_⟩
  · have ha : Apart ['1'] [' ', '2'] := by decide
    have hw : IsBlank ['\t', '\n'] := by decide
    refine (parse_insert_blanks ha hw).trans ?_
    show (parse pairText).mapError _ = _
    rw [parse_pairText]
    rfl
  · have ha : Apart ['1', '+', '2', '*'] ['/', '3'] := by decide
    have hw : IsBlank ['\r'] := by decide
    refine (parse_insert_blanks ha hw).trans ?_
    show (parse crowdedText).mapError _ = _
    rw [parse_crowdedText]
    rfl

end LineCalculator
