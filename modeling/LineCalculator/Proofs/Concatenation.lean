/-
Texts one behind the other.

A scan looks one character ahead, and this only to see whether a literal goes on.  So a text is read
behind another one as it is read on its own, unless a literal may run from the one into the other;
and what stops the reading of a text stops it whatever stands behind.

* `Apart` — no literal runs from one text into another;
* `scan_append_of_token`, `scan_append_of_stray`, `scan_append_of_finished` — one scan of a text
  with another one behind it;
* `readTokens_append`, `readTokens_append_of_error` — the tokens of a text with another one behind
  it;
* `readTree_append` — the tree that a text is read into is continued by the text behind it;
* `tokenize_append` — two texts have the tokens of the first and then those of the second.
-/
import LineCalculator.Proofs.Relocation
import Mathlib.Data.List.Basic

namespace LineCalculator

/-- Whether no literal can run from one text into another: the first does not end with a digit or a
point, or the second does not start with one. -/
def Apart (u v : List Char) : Prop :=
  (∀ c ∈ u.getLast?, isFigure c = false ∧ c ≠ '.') ∨ IsClosed v

instance (u v : List Char) : Decidable (Apart u v) :=
  @instDecidableOr _ _ u.getLast?.decidableForallMem inferInstance

theorem apart_nil (v : List Char) : Apart [] v :=
  .inl (by simp)

theorem Apart.of_append {u v s : List Char} (h : Apart (u ++ v) s) (hv : v ≠ []) : Apart v s := by
  rcases h with h | h
  · left
    rwa [List.getLast?_append_of_ne_nil u hv] at h
  · exact .inr h

theorem IsClosed.append {u v : List Char} (hu : IsClosed u) (hv : u = [] → IsClosed v) :
    IsClosed (u ++ v) := by
  cases u with
  | nil => exact hv rfl
  | cons c u => exact hu

/-- Behind a literal that is apart from it, a text does not continue the literal. -/
theorem Apart.isClosed {l : Literal} {w s : List Char} (h : Apart w s) (hl : l.IsText w) :
    IsClosed s := by
  rcases h with h | h
  · -- a literal ends with a digit or a point
    obtain ⟨hfigure, hpoint⟩ := h _ (List.getLast?_eq_some_getLast hl.ne_nil)
    rcases hl.mem (List.getLast_mem hl.ne_nil) with hend | hend
    · rw [hfigure] at hend
      cases hend
    · exact absurd hend hpoint
  · exact h

/-! ### One scan -/

section Scan

variable {position next : Nat} {cs rest : List Char}

theorem Lexeme.IsText.ne_nil {x : Lexeme} {w : List Char} (h : x.IsText w rest) : w ≠ [] := by
  cases h with
  | operator op => simp
  | number hl => exact hl.ne_nil

theorem Lexeme.IsText.append {x : Lexeme} {w s : List Char} (h : x.IsText w rest)
    (hs : rest = [] → Apart w s) : x.IsText w (rest ++ s) := by
  cases h with
  | operator op => exact .operator op _
  | number hl hrest => exact .number hl (hrest.append fun hnil => (hs hnil).isClosed hl)

/-- A token is taken off a longer text in the same way if it does not go on there. -/
theorem scan_append_of_token {t : Token} {s : List Char}
    (h : scan position cs = .token t next rest) (hs : rest = [] → Apart cs s) :
    scan position (cs ++ s) = .token t next (rest ++ s) := by
  obtain ⟨b, w, rfl, hb, hw, hposition, hnext⟩ := scan_eq_token h
  have hw' : t.lexeme.IsText w (rest ++ s) := by
    refine hw.append ?_
    rintro rfl
    have hcs := hs rfl
    rw [List.append_nil] at hcs
    exact hcs.of_append hw.ne_nil
  rw [List.append_assoc, List.append_assoc, scan_append_of_isBlank hb, scan_of_isText hw',
    ← hposition, ← hnext]

/-- What stops a scan stops that of a longer text. -/
theorem scan_append_of_stray {c : Char} {k : Nat} (h : scan position cs = .stray c k next rest)
    (s : List Char) : scan position (cs ++ s) = .stray c k next (rest ++ s) := by
  obtain ⟨b, hb, ⟨v, rfl, hc, rfl, rfl, rfl⟩ | ⟨w, f, v, rfl, hne, hw, hf, rfl, rfl, rfl, rfl⟩⟩ :=
    scan_eq_stray h
  · rw [List.append_assoc, scan_append_of_isBlank hb, List.cons_append,
      scan_cons_of_startsNothing hc]
  · have hl : (⟨w, f⟩ : Literal).IsText (w ++ '.' :: f) := .pointed hne hw hf
    have hstop := scan_of_second_point hl (by simp) (position + b.length) (v ++ s)
    have hlength : position + (b ++ (w ++ '.' :: f)).length =
        position + b.length + (w ++ '.' :: f).length := by
      simp only [List.length_append]
      omega
    rw [List.append_assoc, scan_append_of_isBlank hb, List.append_assoc, List.cons_append, hstop,
      hlength]

theorem scan_append_of_finished (h : scan position cs = .finished next) (s : List Char) :
    scan position (cs ++ s) = scan next s := by
  obtain ⟨hb, rfl⟩ := scan_eq_finished h
  exact scan_append_of_isBlank hb position s

end Scan

/-! ### All tokens -/

theorem readTokens_congr {p q : Nat} {cs ds : List Char} (h : scan p cs = scan q ds) :
    readTokens p cs = readTokens q ds := by
  cases hs : scan q ds with
  | token t next rest =>
    rw [readTokens_of_token (h.trans hs), readTokens_of_token hs]
  | stray c k next rest =>
    rw [readTokens_of_stray (h.trans hs), readTokens_of_stray hs]
  | finished next =>
    rw [readTokens_of_finished (h.trans hs), readTokens_of_finished hs]

theorem readTree_congr {p q : Nat} {cs ds : List Char} (h : scan p cs = scan q ds) (root : Expr) :
    (readTree root p cs).outcome = (readTree root q ds).outcome := by
  rw [readTree_outcome, readTree_outcome, readTokens_congr h]

theorem readTokens_nil (position : Nat) : readTokens position [] = ⟨.ok [], [], position⟩ :=
  readTokens_of_finished rfl

/-- A text whose reading is stopped is read in the same way whatever stands behind it. -/
theorem readTokens_append_of_error {position : Nat} {u : List Char} {e : ParseError}
    (h : (readTokens position u).outcome = .error e) (v : List Char) :
    readTokens position (u ++ v) = readTokens position u := by
  induction position, u using readTokens.induct with
  | case1 position u t next rest hs ih =>
    have herr := (readTokens_error_iff hs).mp h
    have hlong : scan position (u ++ v) = .token t next (rest ++ v) := by
      refine scan_append_of_token hs ?_
      -- what stops the reading is still to come
      rintro rfl
      rw [readTokens_nil] at herr
      cases herr
    rw [readTokens_of_token hlong, readTokens_of_token hs, ih herr]
  | case2 position u c k next rest hs =>
    rw [readTokens_of_stray (scan_append_of_stray hs v), readTokens_of_stray hs]
  | case3 position u next hs =>
    rw [readTokens_of_finished hs] at h
    cases h

/-- The tokens of two texts that are apart are those of the first and then those of the second. -/
theorem readTokens_append {position : Nat} {u v : List Char} {ts : List Token}
    (h : (readTokens position u).outcome = .ok ts) (ha : Apart u v) :
    readTokens position (u ++ v) =
      { (readTokens (position + u.length) v).after (ts.map .lexed) with
        outcome := (readTokens (position + u.length) v).outcome.map (ts ++ ·) } := by
  induction position, u using readTokens.induct generalizing ts with
  | case1 position u t next rest hs ih =>
    obtain ⟨us, hus, rfl⟩ := (readTokens_ok_iff hs).mp h
    have hrest : Apart rest v := by
      by_cases hnil : rest = []
      · subst hnil
        exact apart_nil v
      · obtain ⟨b, w, rfl, -⟩ := scan_eq_token hs
        rw [← List.append_assoc] at ha
        exact ha.of_append hnil
    have hnext : next + rest.length = position + u.length := by
      have hstep := scan_next_add_length position u
      rw [hs] at hstep
      exact hstep
    rw [readTokens_of_token (scan_append_of_token hs fun _ => ha), ih hus hrest, hnext]
    cases hv : (readTokens (position + u.length) v).outcome with
    | error e => simp [Reading.after, Except.map]
    | ok vs => simp [Reading.after, Except.map]
  | case2 position u c k next rest hs =>
    rw [readTokens_of_stray hs] at h
    cases h
  | case3 position u next hs =>
    rw [readTokens_of_finished hs] at h
    cases h
    obtain ⟨-, rfl⟩ := scan_eq_finished hs
    rw [readTokens_congr (scan_append_of_finished hs v)]
    cases hv : (readTokens (position + u.length) v).outcome with
    | error e => simp [Reading.after, Except.map, ← hv]
    | ok vs => simp [Reading.after, Except.map, ← hv]

/-- A blank text in front only moves what stands behind it. -/
theorem readTokens_append_of_isBlank {b : List Char} (hb : IsBlank b) (position : Nat)
    (v : List Char) : readTokens position (b ++ v) = readTokens (position + b.length) v :=
  readTokens_congr (scan_append_of_isBlank hb position v)

section Append

variable {position : Nat} {u v : List Char} {ts : List Token}
  (h : (readTokens position u).outcome = .ok ts) (ha : Apart u v)
include h ha

theorem tokens_readTokens_append :
    (readTokens position (u ++ v)).tokens = ts ++ (readTokens (position + u.length) v).tokens := by
  have hlexed : (ts.map ReadingEvent.lexed).filterMap ReadingEvent.token? = ts := by
    rw [List.filterMap_map]
    exact List.filterMap_some
  rw [readTokens_append h ha]
  show (ts.map ReadingEvent.lexed ++ _).filterMap ReadingEvent.token? = _
  rw [List.filterMap_append, hlexed]
  rfl

theorem stop?_readTokens_append :
    (readTokens position (u ++ v)).stop? = (readTokens (position + u.length) v).stop? := by
  rw [readTokens_append h ha, Reading.stop?, Reading.stop?]
  cases (readTokens (position + u.length) v).outcome <;> rfl

/-- The tree that a text is read into is continued by a text behind it. -/
theorem readTree_append {root t : Expr} (hg : growTree root ts = .ok t) :
    (readTree root position (u ++ v)).outcome =
      (readTree t (position + u.length) v).outcome := by
  rw [readTree_outcome_of_stop?, readTree_outcome_of_stop?, tokens_readTokens_append h ha,
    stop?_readTokens_append h ha, growTree_append, hg]
  rfl

end Append

/-! ### Lists of tokens -/

/-- Whether a text ends with a character that a literal may go on behind, and another one starts with
one that a literal may go on with. -/
def Joins (u v : List Char) : Prop :=
  (∃ c ∈ u.getLast?, isFigure c = true ∨ c = '.') ∧ ∃ c ∈ v.head?, isFigure c = true ∨ c = '.'

theorem apart_of_not_joins {u v : List Char} (h : ¬ Joins u v) : Apart u v := by
  by_cases hu : ∃ c ∈ u.getLast?, isFigure c = true ∨ c = '.'
  · right
    intro c hc
    have hv : ¬ (isFigure c = true ∨ c = '.') := fun hcont => h ⟨hu, c, hc, hcont⟩
    rw [not_or, Bool.not_eq_true] at hv
    exact hv
  · left
    intro c hc
    have hcont : ¬ (isFigure c = true ∨ c = '.') := fun hcont => hu ⟨c, hc, hcont⟩
    rw [not_or, Bool.not_eq_true] at hcont
    exact hcont

/-- **Tokens of texts one behind the other.**  If no literal can run from a text that has tokens into
another one, the two together have the tokens of the first and then those of the second, as many
places later as the first is long; and if the second has a fault, they have the same fault as many
places later. -/
theorem tokenize_append {u v : List Char} {ts : List Token} (h : tokenize u = .ok ts)
    (hj : ¬ Joins u v) :
    (∀ us, tokenize v = .ok us →
        tokenize (u ++ v) = .ok (ts ++ us.map (Token.relocate (· + u.length)))) ∧
      ∀ c k, tokenize v = .error (.stray c k) →
        tokenize (u ++ v) = .error (.stray c (k + u.length)) := by
  have hmoved := (relocates_add 0 u.length v).outcome_readTokens
  have happend : tokenize (u ++ v) = (readTokens (0 + u.length) v).outcome.map (ts ++ ·) := by
    rw [tokenize, readTokens_append h (apart_of_not_joins hj)]
  rw [happend, hmoved, ← tokenize]
  constructor
  · intro us hus
    rw [hus]
    rfl
  · intro c k herr
    rw [herr]
    rfl

/-- The text `1.`, behind which a literal may go on. -/
def endedText : List Char := ['1', '.']

/-- Behind a literal that ends with its point, a product sign is read as on its own, and so is a
point that no literal starts with. -/
theorem tokenize_append_endedText :
    tokenize (endedText ++ ['*', '2']) =
        .ok [⟨.number (figureNumber '1'), 0⟩, ⟨.operator .mul, 2⟩, ⟨.number (figureNumber '2'), 3⟩] ∧
      tokenize (endedText ++ ['*', '.']) = .error (.stray '.' 3) := by
  have hended : tokenize endedText = .ok [⟨.number (figureNumber '1'), 0⟩] := by
    rw [tokenize, endedText, readTokens_of_token rfl, readTokens_of_finished rfl]
    rfl
  have hjoins : ∀ c, ¬ Joins endedText ['*', c] := by
    rintro c ⟨-, d, hd, hcont⟩
    obtain rfl := Option.some.inj hd
    exact absurd hcont (by decide)
  refine ⟨(tokenize_append hended (hjoins '2')).1
    [⟨.operator .mul, 0⟩, ⟨.number (figureNumber '2'), 1⟩] ?_,
    (tokenize_append hended (hjoins '.')).2 '.' 1 ?_⟩
  · rw [tokenize, readTokens_of_token rfl, readTokens_of_token rfl, readTokens_of_finished rfl]
    rfl
  · rw [tokenize, readTokens_of_token rfl, readTokens_of_stray rfl]
    rfl

/-! ### Two numbers -/

/-- The text `1 2`, in which two numbers meet. -/
def pairText : List Char := ['1', ' ', '2']

theorem parse_pairText : parse pairText = .error (.malformed 2) := by
  rw [parse, pairText, readTree_of_token rfl rfl, readTree_of_refused rfl rfl]
  rfl

end LineCalculator
