/-
Tokens as parts of a text.

Each token takes a part of the text that starts at its offset: an operator its symbol, and a number
the longest literal that stands there.  The parts lie one behind the other without touching each
other's characters, and what is left between them is blank; so every character that is not blank is
read, and read once.

* `Lexeme.Munches` — the text that a token takes, in front of the text after it;
* `Tiles` — parts that make up a text together with blanks;
* `Tiles.cons` — one more part in front, after blanks;
* `exists_tiles_of_tokenize` — the tokens of a text tile it.
-/
import LineCalculator.Proofs.Lexicon

namespace LineCalculator

/-! ### The text of a token -/

/-- The literal that a text is, cut at its point. -/
def Literal.ofText (w : List Char) : Literal :=
  ⟨w.takeWhile (· ≠ '.'), (w.dropWhile (· ≠ '.')).drop 1⟩

/-- Whether a token takes a text in front of another one: an operator its symbol, and a number a
literal that has the number as its value and that does not go on behind it. -/
def Lexeme.Munches : Lexeme → List Char → List Char → Prop
  | operator op, w, _ => w = [op.symbol]
  | number x, w, rest =>
    w ∈ Lexicon.literal.matches' ∧ x = (Literal.ofText w).value ∧ IsClosed rest

theorem IsFigures.ne_point {w : List Char} (hw : IsFigures w) :
    ∀ c ∈ w, decide (c ≠ '.') = true := by
  intro c hc
  rw [decide_eq_true_iff]
  rintro rfl
  exact absurd (hw '.' hc) (by decide)

/-- A text is cut into the literal that it is the text of. -/
theorem Literal.IsText.ofText_eq {l : Literal} {w : List Char} (h : l.IsText w) :
    Literal.ofText w = l := by
  cases h with
  | whole hne hw =>
    have hdrop : w.dropWhile (· ≠ '.') = [] := List.dropWhile_eq_nil_iff.mpr hw.ne_point
    rw [Literal.ofText, List.takeWhile_eq_self_iff.mpr hw.ne_point, hdrop]
    rfl
  | pointed hne hw hf =>
    rw [Literal.ofText, List.takeWhile_append_of_pos hw.ne_point,
      List.dropWhile_append_of_pos hw.ne_point]
    simp

theorem Lexeme.IsText.munches {x : Lexeme} {w rest : List Char} (h : x.IsText w rest) :
    x.Munches w rest := by
  cases h with
  | operator op => rfl
  | number hl hrest =>
    exact ⟨Lexicon.mem_literal.mpr ⟨_, hl⟩, by rw [hl.ofText_eq], hrest⟩

/-! ### Tilings -/

/-- A token with the offset of the character behind it. -/
structure Span where
  token : Token
  stop : Nat

namespace Span

/-- The part of a text that a span stands for. -/
def text (s : Span) (source : List Char) : List Char :=
  source.extract s.token.position s.stop

/-- Whether the character at an offset belongs to a span. -/
def Covers (s : Span) (j : Nat) : Prop :=
  s.token.position ≤ j ∧ j < s.stop

end Span

/-- Whether spans make up a text from an offset on, with nothing but blanks outside of them. -/
structure Tiles (source : List Char) (start : Nat) (spans : List Span) : Prop where
  start_le : ∀ s ∈ spans, start ≤ s.token.position
  lt_stop : ∀ s ∈ spans, s.token.position < s.stop
  stop_le : ∀ s ∈ spans, s.stop ≤ source.length
  munches : ∀ s ∈ spans, s.token.lexeme.Munches (s.text source) (source.drop s.stop)
  inOrder : spans.Pairwise fun s u => s.stop ≤ u.token.position
  isSpace : ∀ j c, start ≤ j → source[j]? = some c → (∀ s ∈ spans, ¬ s.Covers j) →
    isSpace c = true

section Tiles

variable {source : List Char} {start : Nat} {spans : List Span}

/-- A text that is blank to its end needs no spans. -/
theorem tiles_nil (hb : IsBlank (source.drop start)) : Tiles source start [] := by
  refine ⟨by simp, by simp, by simp, by simp, List.Pairwise.nil, ?_⟩
  intro j c hj hc _
  refine hb c (List.mem_of_getElem? (i := j - start) ?_)
  rw [List.getElem?_drop, Nat.add_sub_cancel' hj]
  exact hc

/-- A span may be put in front, with blanks before it. -/
theorem Tiles.cons {s : Span} {b w : List Char} (h : Tiles source s.stop spans)
    (hsource : source.drop start = b ++ (w ++ source.drop s.stop)) (hb : IsBlank b)
    (hposition : s.token.position = start + b.length)
    (hstop : s.stop = s.token.position + w.length) (hlt : s.token.position < s.stop)
    (hle : s.stop ≤ source.length) (hw : s.token.lexeme.Munches w (source.drop s.stop)) :
    Tiles source start (s :: spans) := by
  have htext : s.text source = w := by
    have hdrop : source.drop s.token.position = w ++ source.drop s.stop := by
      rw [hposition, ← List.drop_drop, hsource, List.drop_left]
    rw [Span.text, List.extract_eq_take_drop, hdrop, hstop, Nat.add_sub_cancel_left]
    exact List.take_left
  refine ⟨?_, ?_, ?_, ?_, List.pairwise_cons.mpr ⟨h.start_le, h.inOrder⟩, ?_⟩
  · refine List.forall_mem_cons.mpr ⟨by omega, fun u hu => ?_⟩
    have := h.start_le u hu
    omega
  · exact List.forall_mem_cons.mpr ⟨hlt, h.lt_stop⟩
  · exact List.forall_mem_cons.mpr ⟨hle, h.stop_le⟩
  · exact List.forall_mem_cons.mpr ⟨htext.symm ▸ hw, h.munches⟩
  · intro j c hj hc hout
    obtain ⟨hs, hspans⟩ := List.forall_mem_cons.mp hout
    -- outside of the first span a character stands among the blanks before it, or behind it
    by_cases hbefore : j < s.token.position
    · refine hb c (List.mem_of_getElem? (i := j - start) ?_)
      have hchar : (source.drop start)[j - start]? = some c := by
        rw [List.getElem?_drop, Nat.add_sub_cancel' hj]
        exact hc
      rwa [hsource, List.getElem?_append_left (by omega)] at hchar
    · have hbehind : s.stop ≤ j := by
        by_contra hlt'
        exact hs ⟨by omega, by omega⟩
      exact h.isSpace j c hbehind hc hspans

/-- Two spans of a tiling do not share a character. -/
theorem Tiles.eq_of_covers (h : Tiles source start spans) {s u : Span} (hs : s ∈ spans)
    (hu : u ∈ spans) {j : Nat} (hsj : s.Covers j) (huj : u.Covers j) : s = u := by
  have hpair : spans.Pairwise fun s u => s.Covers j → u.Covers j → s = u := by
    refine h.inOrder.imp fun {s u} hle hsj huj => ?_
    have := hsj.2
    have := huj.1
    omega
  have hflip : spans.Pairwise (flip fun s u : Span => s.Covers j → u.Covers j → s = u) :=
    hpair.imp fun h hsj huj => (h huj hsj).symm
  exact hpair.forall_of_forall_of_flip (fun _ _ _ _ => rfl) hflip hs hu hsj huj

/-- The spans of a tiling start one behind the other. -/
theorem Tiles.position_lt (h : Tiles source start spans) :
    (spans.map Span.token).Pairwise (·.position < ·.position) := by
  rw [List.pairwise_map]
  refine h.inOrder.imp_of_mem fun hs _ hle => ?_
  exact Nat.lt_of_lt_of_le (h.lt_stop _ hs) hle

end Tiles

/-! ### Reading tiles a text -/

/-- The tokens that are read off the rest of a text tile it. -/
theorem exists_tiles_of_readTokens {source : List Char} {position : Nat} {cs : List Char}
    {ts : List Token} (hcs : source.drop position = cs) (hle : position ≤ source.length)
    (h : (readTokens position cs).outcome = .ok ts) :
    ∃ spans, spans.map Span.token = ts ∧ Tiles source position spans := by
  induction position, cs using readTokens.induct generalizing ts with
  | case1 position cs t next rest hs ih =>
    obtain ⟨us, hus, rfl⟩ := (readTokens_ok_iff hs).mp h
    obtain ⟨b, w, rfl, hb, hw, hposition, hnext⟩ := scan_eq_token hs
    have hend : next ≤ source.length := by
      have := congrArg List.length hcs
      simp only [List.length_drop, List.length_append] at this
      omega
    have hrest : source.drop next = rest := by
      have hskip : next = position + (b ++ w).length := by
        rw [hnext, hposition, List.length_append, Nat.add_assoc]
      rw [hskip, ← List.drop_drop, hcs, ← List.append_assoc, List.drop_left]
    obtain ⟨spans, hspans, htiles⟩ := ih hrest hend hus
    refine ⟨⟨t, next⟩ :: spans, by rw [List.map_cons, hspans], ?_⟩
    exact htiles.cons (hrest.symm ▸ hcs) hb hposition hnext (position_mem_of_scan hs).2 hend
      (hrest.symm ▸ hw.munches)
  | case2 position cs c k next rest hs =>
    rw [readTokens_of_stray hs] at h
    cases h
  | case3 position cs next hs =>
    rw [readTokens_of_finished hs] at h
    cases h
    exact ⟨[], rfl, tiles_nil (hcs.symm ▸ (scan_eq_finished hs).1)⟩

/-- **Tokens tile their text by maximal munch.**  Every token of a text takes the part of the text
from its offset to some later one: an operator its symbol, a number a literal of its value that does
not go on.  The parts follow one another, and every character outside of them is blank; so the
offsets increase, and a character that is not blank belongs to one token and to no other. -/
theorem exists_tiles_of_tokenize {source : List Char} {ts : List Token}
    (h : tokenize source = .ok ts) :
    ∃ spans, spans.map Span.token = ts ∧ Tiles source 0 spans ∧
      ts.Pairwise (·.position < ·.position) ∧
      ∀ j c, source[j]? = some c → isSpace c = false → ∃! s, s ∈ spans ∧ s.Covers j := by
  obtain ⟨spans, rfl, htiles⟩ := exists_tiles_of_readTokens rfl (Nat.zero_le _) h
  refine ⟨spans, rfl, htiles, htiles.position_lt, ?_⟩
  intro j c hc hspace
  by_contra hnone
  have hout : ∀ s ∈ spans, ¬ s.Covers j := by
    intro s hs hsj
    exact hnone ⟨s, ⟨hs, hsj⟩, fun u ⟨hu, huj⟩ => htiles.eq_of_covers hu hs huj hsj⟩
  rw [htiles.isSpace j c (Nat.zero_le j) hc hout] at hspace
  cases hspace

/-- The text ` 2.*13`, in which a literal ends with its point. -/
def looseText : List Char := [' ', '2', '.', '*', '1', '3']

/-- The tokens of the loose text. -/
def looseTokens : List Token :=
  [⟨.number (Literal.value ⟨['2'], []⟩), 1⟩, ⟨.operator .mul, 3⟩,
    ⟨.number (Literal.value ⟨['1', '3'], []⟩), 4⟩]

/-- The point belongs to the number before it, and both figures behind the product sign to the
other number. -/
theorem exists_tiles_of_tokenize_looseText :
    tokenize looseText = .ok looseTokens ∧
      ∃ spans, spans.map Span.token = looseTokens ∧ Tiles looseText 0 spans ∧
        ∀ j c, looseText[j]? = some c → isSpace c = false → ∃! s, s ∈ spans ∧ s.Covers j := by
  have htokens : tokenize looseText = .ok looseTokens := by
    rw [tokenize, looseText]
    repeat rw [readTokens_of_token rfl]
    rw [readTokens_of_finished rfl]
    rfl
  obtain ⟨spans, hspans, htiles, -, hcover⟩ := exists_tiles_of_tokenize htokens
  exact ⟨htokens, spans, hspans, htiles, hcover⟩

end LineCalculator
