/-
Building a tree from a list of tokens.

Reading pulls a token off the text and takes it into the tree before it looks at the next one. Here
the two halves come apart: `growTree` takes a finished list of tokens in, and a text is read into
the tree that grows from its tokens.

* `readTree_outcome` — what reading a text gives, from the tokens that were read and from how the
  run over them ended;
* `parse_of_growTree` and `tokenize_of_parse` — the two sides of that where no character is in the
  way;
* `growTree_append`, `growTree_induct` — a list of tokens is taken in one part after the other, so
  what every single token keeps holds of the whole tree;
* `tokenize_position_lt` — the offsets of the tokens of a text increase.
-/
import LineCalculator.Expression
import LineCalculator.Proofs.Insertion
import Mathlib.Data.List.Induction

namespace LineCalculator

/-! ### One step of a run over a text -/

section Step

variable {position next : Nat} {cs rest : List Char} {t : Token}

theorem readTokens_of_token (h : scan position cs = .token t next rest) :
    readTokens position cs =
      { (readTokens next rest).after [.lexed t] with
        outcome := (readTokens next rest).outcome.map (t :: ·) } := by
  rw [readTokens]
  split
  next t' next' rest' h' =>
    rw [h] at h'
    cases h'
    rfl
  next h' => rw [h] at h'; cases h'
  next h' => rw [h] at h'; cases h'

theorem readTokens_of_stray {c : Char} {at' : Nat}
    (h : scan position cs = .stray c at' next rest) :
    readTokens position cs = ⟨.error (.stray c at'), [], next⟩ := by
  rw [readTokens]
  split
  next h' => rw [h] at h'; cases h'
  next h' =>
    rw [h] at h'
    cases h'
    rfl
  next h' => rw [h] at h'; cases h'

theorem readTokens_of_finished (h : scan position cs = .finished next) :
    readTokens position cs = ⟨.ok [], [], next⟩ := by
  rw [readTokens]
  split
  next h' => rw [h] at h'; cases h'
  next h' => rw [h] at h'; cases h'
  next h' =>
    rw [h] at h'
    cases h'
    rfl

/-- A run over a text that starts with a token succeeds if the run over the rest does. -/
theorem readTokens_ok_iff {ts : List Token} (h : scan position cs = .token t next rest) :
    (readTokens position cs).outcome = .ok ts ↔
      ∃ us, (readTokens next rest).outcome = .ok us ∧ t :: us = ts := by
  rw [readTokens_of_token h]
  cases (readTokens next rest).outcome with
  | error e => simp [Except.map]
  | ok us => simp [Except.map]

/-- A run over a text that starts with a token fails as the run over the rest does. -/
theorem readTokens_error_iff {e : ParseError} (h : scan position cs = .token t next rest) :
    (readTokens position cs).outcome = .error e ↔ (readTokens next rest).outcome = .error e := by
  rw [readTokens_of_token h]
  cases (readTokens next rest).outcome with
  | error e' => simp [Except.map]
  | ok us => simp [Except.map]

theorem readTree_eq_after {root grown : Expr} {how : Option Splice}
    (h : scan position cs = .token t next rest) (hi : root.insert? t.lexeme = some (grown, how)) :
    readTree root position cs =
      (readTree grown next rest).after
        (.lexed t :: (how.map fun how => .spliced how t.position).toList) := by
  rw [readTree]
  split
  next h' =>
    rw [h] at h'
    cases h'
    simp only [hi]
  next h' => rw [h] at h'; cases h'
  next h' => rw [h] at h'; cases h'

theorem readTree_eq_of_refused {root : Expr} (h : scan position cs = .token t next rest)
    (hi : root.insert? t.lexeme = none) :
    readTree root position cs = ⟨.error (.malformed t.position), [.lexed t], next⟩ := by
  rw [readTree]
  split
  next h' =>
    rw [h] at h'
    cases h'
    simp only [hi]
  next h' => rw [h] at h'; cases h'
  next h' => rw [h] at h'; cases h'

theorem readTree_eq_of_stray {root : Expr} {c : Char} {at' : Nat}
    (h : scan position cs = .stray c at' next rest) :
    readTree root position cs = ⟨.error (.stray c at'), [], next⟩ := by
  rw [readTree]
  split
  next h' => rw [h] at h'; cases h'
  next h' =>
    rw [h] at h'
    cases h'
    rfl
  next h' => rw [h] at h'; cases h'

theorem readTree_eq_of_finished {root : Expr} (h : scan position cs = .finished next) :
    readTree root position cs = ⟨if root.isHole then .error .empty else .ok root, [], next⟩ := by
  rw [readTree]
  split
  next h' => rw [h] at h'; cases h'
  next h' => rw [h] at h'; cases h'
  next h' =>
    rw [h] at h'
    cases h'
    rfl

theorem readTree_of_token {root grown : Expr} {how : Option Splice}
    (h : scan position cs = .token t next rest) (hi : root.insert? t.lexeme = some (grown, how)) :
    (readTree root position cs).outcome = (readTree grown next rest).outcome := by
  rw [readTree_eq_after h hi]
  rfl

theorem readTree_of_refused {root : Expr} (h : scan position cs = .token t next rest)
    (hi : root.insert? t.lexeme = none) :
    (readTree root position cs).outcome = .error (.malformed t.position) := by
  rw [readTree_eq_of_refused h hi]

theorem readTree_of_stray {root : Expr} {c : Char} {at' : Nat}
    (h : scan position cs = .stray c at' next rest) :
    (readTree root position cs).outcome = .error (.stray c at') := by
  rw [readTree_eq_of_stray h]

theorem readTree_of_finished {root : Expr} (h : scan position cs = .finished next) :
    (readTree root position cs).outcome = if root.isHole then .error .empty else .ok root := by
  rw [readTree_eq_of_finished h]

end Step

/-- A run over a text is stopped by a stray character only. -/
theorem readTokens_error {position : Nat} {cs : List Char} {e : ParseError}
    (h : (readTokens position cs).outcome = .error e) : ∃ c k, e = .stray c k := by
  induction position, cs using readTokens.induct with
  | case1 position cs t next rest hs ih => exact ih ((readTokens_error_iff hs).mp h)
  | case2 position cs c k next rest hs =>
    rw [readTokens_of_stray hs] at h
    cases h
    exact ⟨c, k, rfl⟩
  | case3 position cs next hs =>
    rw [readTokens_of_finished hs] at h
    cases h

/-! ### Building from a finished list -/

/-- The token that an event tells of, if it tells of one. -/
def ReadingEvent.token? : ReadingEvent → Option Token
  | lexed t => some t
  | spliced .. => none

/-- The tokens that a run has read, whatever became of it. -/
def Reading.tokens {α : Type} (r : Reading α) : List Token :=
  r.events.filterMap ReadingEvent.token?

/-- The tree that a list of tokens continues a tree to, or the fault at the first token that the
tree refuses. -/
def growTree (root : Expr) : List Token → Except ParseError Expr
  | [] => .ok root
  | t :: ts =>
    match root.insert? t.lexeme with
    | some (grown, _) => growTree grown ts
    | none => .error (.malformed t.position)

/-- What a text is read into if it ends at a tree: a tree without a token is none. -/
def atEnd (root : Expr) : Except ParseError Expr :=
  if root.isHole then .error .empty else .ok root

@[simp] theorem growTree_nil (root : Expr) : growTree root [] = .ok root := rfl

theorem growTree_cons_of_insert {root grown : Expr} {how : Option Splice} {t : Token}
    (h : root.insert? t.lexeme = some (grown, how)) (ts : List Token) :
    growTree root (t :: ts) = growTree grown ts := by
  rw [growTree, h]

theorem growTree_cons_of_refused {root : Expr} {t : Token} (h : root.insert? t.lexeme = none)
    (ts : List Token) : growTree root (t :: ts) = .error (.malformed t.position) := by
  rw [growTree, h]

/-- A list of tokens is taken in one part after the other. -/
theorem growTree_append (root : Expr) (ts us : List Token) :
    growTree root (ts ++ us) = (growTree root ts).bind (growTree · us) := by
  induction ts generalizing root with
  | nil => rfl
  | cons t ts ih =>
    rw [List.cons_append]
    rcases h : root.insert? t.lexeme with _ | ⟨grown, how⟩
    · rw [growTree_cons_of_refused h, growTree_cons_of_refused h]
      rfl
    · rw [growTree_cons_of_insert h, growTree_cons_of_insert h]
      exact ih grown

theorem growTree_snoc_of_takes {root t grown : Expr} {ts : List Token} {u : Token}
    (h : growTree root ts = .ok t) (hu : Takes t u.lexeme grown) :
    growTree root (ts ++ [u]) = .ok grown := by
  obtain ⟨how, hi⟩ := takes_iff.mp hu
  rw [growTree_append, h]
  exact growTree_cons_of_insert hi []

theorem growTree_snoc_of_refused {root t : Expr} {ts : List Token} {u : Token}
    (h : growTree root ts = .ok t) (hu : t.insert? u.lexeme = none) :
    growTree root (ts ++ [u]) = .error (.malformed u.position) := by
  rw [growTree_append, h]
  exact growTree_cons_of_refused hu []

/-- A list of tokens that is not taken in has a first token that is refused, by the tree of those in
front of it. -/
theorem exists_refused_of_growTree {root : Expr} {ts : List Token} {e : ParseError}
    (h : growTree root ts = .error e) :
    ∃ us t vs grown, ts = us ++ t :: vs ∧ growTree root us = .ok grown ∧
      grown.insert? t.lexeme = none ∧ e = .malformed t.position := by
  induction ts generalizing root with
  | nil => cases h
  | cons t ts ih =>
    rcases hi : root.insert? t.lexeme with _ | ⟨grown, how⟩
    · rw [growTree_cons_of_refused hi] at h
      cases h
      exact ⟨[], t, ts, root, rfl, rfl, hi, rfl⟩
    · rw [growTree_cons_of_insert hi] at h
      obtain ⟨us, u, vs, grown', rfl, hgrown, hrefused, he⟩ := ih h
      refine ⟨t :: us, u, vs, grown', rfl, ?_, hrefused, he⟩
      rw [growTree_cons_of_insert hi]
      exact hgrown

/-- What holds of the empty tree and is kept by every token that is taken in holds of every tree
that is built, together with the tokens that it was built from. -/
theorem growTree_induct {P : List Lexeme → Expr → Prop} (start : P [] .hole)
    (step : ∀ {ws t w t'}, P ws t → Takes t w t' → P (ws ++ [w]) t')
    {ts : List Token} {t : Expr} (h : growTree .hole ts = .ok t) : P (ts.map Token.lexeme) t := by
  -- from the right: the tree before the last token is built from the tokens before it
  induction ts using List.reverseRecOn generalizing t with
  | nil =>
    cases h
    exact start
  | append_singleton ts u ih =>
    rw [growTree_append] at h
    cases hg : growTree .hole ts with
    | error e => rw [hg] at h; cases h
    | ok t' =>
      rw [hg] at h
      change growTree t' [u] = .ok t at h
      rcases hi : t'.insert? u.lexeme with _ | ⟨grown, how⟩
      · rw [growTree_cons_of_refused hi] at h
        cases h
      · rw [growTree_cons_of_insert hi] at h
        cases h
        rw [List.map_append]
        exact step (ih hg) (takes_iff.mpr ⟨how, hi⟩)

/-- The tokens of a run that succeeds are its result. -/
theorem tokens_of_readTokens_ok {position : Nat} {cs : List Char} {ts : List Token}
    (h : (readTokens position cs).outcome = .ok ts) : (readTokens position cs).tokens = ts := by
  induction position, cs using readTokens.induct generalizing ts with
  | case1 position cs t next rest hs ih =>
    obtain ⟨us, hus, rfl⟩ := (readTokens_ok_iff hs).mp h
    rw [readTokens_of_token hs]
    show t :: (readTokens next rest).tokens = t :: us
    rw [ih hus]
  | case2 position cs c at' next rest hs => rw [readTokens_of_stray hs] at h; cases h
  | case3 position cs next hs =>
    rw [readTokens_of_finished hs] at h ⊢
    cases h
    rfl

/-- What reading a text gives: the tokens that can be read are taken in first, then the character
that stopped the run is reported. -/
theorem readTree_outcome (root : Expr) (position : Nat) (cs : List Char) :
    (readTree root position cs).outcome =
      (growTree root (readTokens position cs).tokens).bind fun grown =>
        (readTokens position cs).outcome.bind fun _ => atEnd grown := by
  induction position, cs using readTokens.induct generalizing root with
  | case1 position cs t next rest hs ih =>
    rw [readTokens_of_token hs]
    show _ = (growTree root (t :: (readTokens next rest).tokens)).bind _
    rcases hi : root.insert? t.lexeme with _ | ⟨grown, how⟩
    · rw [readTree_of_refused hs hi, growTree_cons_of_refused hi]
      rfl
    · rw [readTree_of_token hs hi, growTree_cons_of_insert hi, ih grown]
      -- the whole run fails where that over the rest does, with the same fault
      cases growTree grown (readTokens next rest).tokens with
      | error e => rfl
      | ok t' => cases (readTokens next rest).outcome <;> rfl
  | case2 position cs c at' next rest hs =>
    -- no token is left to be refused before the stray character
    rw [readTree_of_stray hs, readTokens_of_stray hs]
    rfl
  | case3 position cs next hs =>
    rw [readTree_of_finished hs, readTokens_of_finished hs]
    rfl

/-- A text without stray characters is read into the tree that its tokens build. -/
theorem parse_of_tokenize {source : List Char} {ts : List Token} (h : tokenize source = .ok ts) :
    parse source = (growTree .hole ts).bind atEnd := by
  rw [parse, readTree_outcome, tokens_of_readTokens_ok h]
  rw [tokenize] at h
  rw [h]
  rfl

theorem atEnd_of_ne_hole {t : Expr} (h : t ≠ .hole) : atEnd t = .ok t := by
  rw [atEnd, if_neg (mt Tree.isHole_eq_true.mp h)]

/-- A text without stray characters is read into the tree that grows from its tokens, if that is
not the empty one. -/
theorem parse_of_growTree {source : List Char} {ts : List Token} {t : Expr}
    (h : tokenize source = .ok ts) (hg : growTree .hole ts = .ok t) (hne : t ≠ .hole) :
    parse source = .ok t := by
  rw [parse_of_tokenize h, hg]
  exact atEnd_of_ne_hole hne

/-- A text that is read into a tree has no stray character, and the tree grows from its tokens, of
which there is at least one. -/
theorem tokenize_of_parse {source : List Char} {t : Expr} (h : parse source = .ok t) :
    ∃ ts, tokenize source = .ok ts ∧ growTree .hole ts = .ok t ∧ t ≠ .hole := by
  rw [parse, readTree_outcome] at h
  cases hg : growTree .hole (readTokens 0 source).tokens with
  | error e => rw [hg] at h; cases h
  | ok grown =>
    cases ho : (readTokens 0 source).outcome with
    | error e => rw [hg, ho] at h; cases h
    | ok ts =>
      rw [hg, ho] at h
      rw [tokens_of_readTokens_ok ho] at hg
      change atEnd grown = .ok t at h
      rw [atEnd] at h
      by_cases hhole : grown.isHole = true
      · rw [if_pos hhole] at h
        cases h
      · rw [if_neg hhole] at h
        cases h
        exact ⟨ts, ho, hg, mt Tree.isHole_eq_true.mpr hhole⟩

/-! ### Offsets -/

/-- The offset of a token that starts at or after `position` and ends before `next`. -/
theorem scanNumber_token {position next : Nat} {cs rest : List Char} {t : Token}
    (h : scanNumber position cs = .token t next rest) : t.position = position := by
  rw [scanNumber] at h
  split at h
  · split at h
    · cases h
    · cases h
      rfl
  · cases h
    rfl

/-- A token stands in the part of the text that its scan takes. -/
theorem position_mem_of_scan {position next : Nat} {cs rest : List Char} {t : Token}
    (h : scan position cs = .token t next rest) : position ≤ t.position ∧ t.position < next := by
  fun_induction scan position cs with
  | case1 => cases h
  | case2 position c cs op hc =>
    cases h
    exact ⟨Nat.le_refl _, Nat.lt_succ_self _⟩
  | case3 position c cs hc hd =>
    have hgt := @scanNumber_next_gt position c cs hd
    rw [h] at hgt
    rw [scanNumber_token h]
    exact ⟨Nat.le_refl _, hgt⟩
  | case4 position c cs _ _ _ ih =>
    obtain ⟨hle, hlt⟩ := ih h
    exact ⟨by omega, hlt⟩
  | case5 => cases h

/-- The tokens that a run reads start at or after its offset, each after the one before it. -/
theorem tokens_pairwise (position : Nat) (cs : List Char) :
    (∀ t ∈ (readTokens position cs).tokens, position ≤ t.position) ∧
      (readTokens position cs).tokens.Pairwise (·.position < ·.position) := by
  induction position, cs using readTokens.induct with
  | case1 position cs t next rest hs ih =>
    obtain ⟨hle, hlt⟩ := position_mem_of_scan hs
    obtain ⟨hge, hpair⟩ := ih
    rw [readTokens_of_token hs]
    show (∀ u ∈ t :: (readTokens next rest).tokens, _) ∧
      (t :: (readTokens next rest).tokens).Pairwise _
    -- the run over the rest starts behind the token, and so does each of its tokens
    have hafter : ∀ u ∈ (readTokens next rest).tokens, t.position < u.position := by
      intro u hu
      have := hge u hu
      omega
    refine ⟨?_, List.pairwise_cons.mpr ⟨hafter, hpair⟩⟩
    intro u hu
    rcases List.mem_cons.mp hu with rfl | hu
    · exact hle
    · have := hafter u hu
      omega
  | case2 position cs c at' next rest hs =>
    rw [readTokens_of_stray hs]
    exact ⟨by simp [Reading.tokens], List.Pairwise.nil⟩
  | case3 position cs next hs =>
    rw [readTokens_of_finished hs]
    exact ⟨by simp [Reading.tokens], List.Pairwise.nil⟩

/-- The offsets of the tokens of a text increase. -/
theorem tokenize_position_lt {source : List Char} {ts : List Token}
    (h : tokenize source = .ok ts) : ts.Pairwise (·.position < ·.position) :=
  tokens_of_readTokens_ok h ▸ (tokens_pairwise 0 source).2

/-! ### A crowded text -/

/-- The text `1+2*/3`, in which two operators stand next to each other. -/
def crowdedText : List Char := ['1', '+', '2', '*', '/', '3']

/-- The number that a single figure stands for. -/
def figureNumber (c : Char) : Float := Literal.value ⟨[c], []⟩

/-- The tokens of the crowded text. -/
def crowdedTokens : List Token :=
  [⟨.number (figureNumber '1'), 0⟩, ⟨.operator .add, 1⟩, ⟨.number (figureNumber '2'), 2⟩,
    ⟨.operator .mul, 3⟩, ⟨.operator .div, 4⟩, ⟨.number (figureNumber '3'), 5⟩]

/-- The tree of the crowded text: the product lacks its right operand. -/
def crowdedTree : Expr :=
  .operation .add (.number (figureNumber '1'))
    (.operation .div (.operation .mul (.number (figureNumber '2')) .hole)
      (.number (figureNumber '3')))

theorem tokenize_crowdedText : tokenize crowdedText = .ok crowdedTokens := by
  rw [tokenize, crowdedText]
  repeat rw [readTokens_of_token rfl]
  rw [readTokens_of_finished rfl]
  rfl

theorem parse_crowdedText : parse crowdedText = .ok crowdedTree := by
  rw [parse_of_tokenize tokenize_crowdedText]
  rfl

end LineCalculator
