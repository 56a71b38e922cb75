/-
Faults of a text that goes on.

A fault is reported where the first character or the first token stands that has no place, and what
is typed behind it does not take it back.  One thing may still change: a number without a place is
refused only when it has been read to its end, so if the text ends with that number and goes on with
two points in it, the second point is met before the number is refused.

* `readTree_stopped` — where the reading of a text is stopped, and what reading goes on with there
  if the text goes on;
* `scan_literal_cases` — a literal in front of any text is a number, or runs into a second point;
* `faults_stay` — the faults of a text are those of any longer text, but for that exception; so what
  a text with a tree begins with has a tree as well, or is empty.
-/
import LineCalculator.Proofs.Concatenation

namespace LineCalculator

/-! ### Where reading is stopped -/

/-- Reading is stopped by a stray character, whatever stands behind it, or at a token that the tree
refuses.  In a longer text, it comes to the same token with the same tree. -/
theorem readTree_stopped {root : Expr} {position : Nat} {cs : List Char} {e : ParseError}
    (h : (readTree root position cs).outcome = .error e) (he : e ≠ .empty) :
    ((∃ c k, e = .stray c k) ∧ ∀ s, (readTree root position (cs ++ s)).outcome = .error e) ∨
      ∃ u w rest grown x, cs = u ++ (w ++ rest) ∧ Lexeme.IsText x w rest ∧
        Tree.insert? grown x = none ∧ e = .malformed (position + u.length) ∧
        ∀ s, (readTree root position (cs ++ s)).outcome =
          (readTree grown (position + u.length) (w ++ (rest ++ s))).outcome := by
  induction position, cs using readTokens.induct generalizing root with
  | case1 position cs t next rest hs ih =>
    obtain ⟨b, w, rfl, hb, hw, hposition, hnext⟩ := scan_eq_token hs
    rcases hi : root.insert? t.lexeme with _ | ⟨grown, how⟩
    · rw [readTree_of_refused hs hi] at h
      obtain rfl := Except.error.inj h
      refine .inr ⟨b, w, rest, root, t.lexeme, rfl, hw, hi, by rw [hposition], ?_⟩
      intro s
      rw [List.append_assoc, List.append_assoc]
      exact readTree_congr (scan_append_of_isBlank hb position _) root
    · rw [readTree_of_token hs hi] at h
      have hlong : ∀ s, (readTree root position (b ++ (w ++ rest) ++ s)).outcome =
          (readTree grown next (rest ++ s)).outcome := by
        intro s
        refine readTree_of_token (scan_append_of_token hs ?_) hi
        -- the fault is still to come, so the token does not end the text
        rintro rfl
        rw [readTree_of_finished rfl] at h
        split at h
        · exact absurd (Except.error.inj h).symm he
        · cases h
      rcases ih h with ⟨hstray, hall⟩ | ⟨u, w', rest', grown', x, rfl, hx, hi', rfl, hall⟩
      · refine .inl ⟨hstray, ?_⟩
        intro s
        rw [hlong, hall]
      · have hoffset : next + u.length = position + (b ++ (w ++ u)).length := by
          simp only [List.length_append]
          omega
        refine .inr ⟨b ++ (w ++ u), w', rest', grown', x, by simp, hx, hi', by rw [hoffset], ?_⟩
        intro s
        rw [hlong, hall, hoffset]
  | case2 position cs c k next rest hs =>
    rw [readTree_of_stray hs] at h
    obtain rfl := Except.error.inj h
    refine .inl ⟨⟨c, k, rfl⟩, ?_⟩
    intro s
    exact readTree_of_stray (scan_append_of_stray hs s)
  | case3 position cs next hs =>
    rw [readTree_of_finished hs] at h
    split at h
    · exact absurd (Except.error.inj h).symm he
    · cases h

/-! ### Literals that go on -/

theorem scanNumber_ne_finished (position next : Nat) (cs : List Char) :
    scanNumber position cs ≠ .finished next := by
  rw [scanNumber]
  split
  · split <;> simp
  · simp

/-- A literal in front of any text is a number at its place, longer perhaps, or goes on to a second
point. -/
theorem scan_literal_cases {l : Literal} {w : List Char} (hl : l.IsText w) (position : Nat)
    (v : List Char) :
    (∃ x next rest, scan position (w ++ v) = .token ⟨.number x, position⟩ next rest) ∨
      ∃ m v', v = m ++ '.' :: v' ∧ (∃ l' : Literal, l'.IsText (w ++ m)) ∧ '.' ∈ w ++ m := by
  obtain ⟨c, u, rfl, hc⟩ := hl.head
  rw [List.cons_append, scan_cons_of_isFigure hc]
  cases hs : scanNumber position (c :: (u ++ v)) with
  | token t next rest =>
    obtain ⟨l', -, -, -, -, rfl, -⟩ := scanNumber_eq_token hc hs
    exact .inl ⟨l'.value, next, rest, rfl⟩
  | finished next => exact absurd hs (scanNumber_ne_finished _ _ _)
  | stray d k next rest =>
    obtain ⟨w, f, v', hsplit, hne, hw, hf, -⟩ := scanNumber_eq_stray hc hs
    have hpointed : (⟨w, f⟩ : Literal).IsText (w ++ '.' :: f) := .pointed hne hw hf
    right
    rw [← List.cons_append, List.append_eq_append_iff] at hsplit
    rcases hsplit with ⟨m, hm, hv⟩ | ⟨z, hz, hv⟩
    · refine ⟨m, v', hv, ⟨⟨w, f⟩, ?_⟩, ?_⟩
      · rw [← hm]
        exact hpointed
      · rw [← hm]
        simp
    · cases z with
      | nil =>
        rw [List.append_nil] at hz
        refine ⟨[], v', hv.symm, ⟨l, ?_⟩, ?_⟩
        · rw [List.append_nil]
          exact hl
        · rw [List.append_nil, hz]
          simp
      | cons z zs =>
        -- the second point would stand in the literal itself
        obtain ⟨rfl, -⟩ := List.cons.inj hv
        have hcount := hl.count_point
        rw [hz] at hcount
        simp only [List.count_append, List.count_cons_self] at hcount
        omega

/-- Whether the text from an offset on is a literal that goes on, in the text behind, to a second
point: what stands before that point is `m`. -/
def RunsIntoPoint (p s : List Char) (k : Nat) (m : List Char) : Prop :=
  (∃ l : Literal, l.IsText (p.drop k)) ∧ (∃ l : Literal, l.IsText (p.drop k ++ m)) ∧
    '.' ∈ p.drop k ++ m ∧ ∃ v, s = m ++ '.' :: v

/-! ### Faults of a longer text -/

section Longer

variable {p : List Char}

theorem parse_append_of_stray {c : Char} {k : Nat} (h : parse p = .error (.stray c k))
    (s : List Char) : parse (p ++ s) = .error (.stray c k) := by
  rcases readTree_stopped h (by simp) with ⟨-, hall⟩ | ⟨u, w, rest, grown, x, -, -, -, he, -⟩
  · exact hall s
  · cases he

/-- The token that is refused stands at the offset of the fault, and is met in a longer text as
well. -/
theorem refused_of_parse {k : Nat} (h : parse p = .error (.malformed k)) :
    ∃ w rest grown x, p.drop k = w ++ rest ∧ k ≤ p.length ∧ Lexeme.IsText x w rest ∧
      Tree.insert? grown x = none ∧
      ∀ s, parse (p ++ s) = (readTree grown k (w ++ (rest ++ s))).outcome := by
  rcases readTree_stopped h (by simp) with
    ⟨⟨c, k', he⟩, -⟩ | ⟨u, w, rest, grown, x, rfl, hx, hi, he, hall⟩
  · cases he
  · obtain rfl := ParseError.malformed.inj he
    rw [Nat.zero_add] at hall ⊢
    refine ⟨w, rest, grown, x, List.drop_left, ?_, hx, hi, hall⟩
    rw [List.length_append]
    exact Nat.le_add_right _ _

theorem parse_append_of_runsIntoPoint {k : Nat} (h : parse p = .error (.malformed k))
    {s m : List Char} (hm : RunsIntoPoint p s k m) :
    parse (p ++ s) = .error (.stray '.' (p.length + m.length)) := by
  obtain ⟨w, rest, grown, x, hdrop, hk, -, -, hall⟩ := refused_of_parse h
  obtain ⟨-, ⟨l, hl⟩, hp, v, rfl⟩ := hm
  have hlength : k + (p.drop k ++ m).length = p.length + m.length := by
    rw [List.length_append, List.length_drop]
    omega
  have hscan := scan_of_second_point hl hp k v
  rw [hlength] at hscan
  rw [hall, ← List.append_assoc w, ← hdrop, ← List.append_assoc]
  exact readTree_of_stray hscan

theorem parse_append_of_not_runsIntoPoint {k : Nat} (h : parse p = .error (.malformed k))
    {s : List Char} (hno : ∀ m, ¬ RunsIntoPoint p s k m) :
    parse (p ++ s) = .error (.malformed k) := by
  obtain ⟨w, rest, grown, x, hdrop, hk, hx, hi, hall⟩ := refused_of_parse h
  rw [hall]
  cases hx with
  | operator op =>
    have hscan := scan_of_isText (Lexeme.IsText.operator op (rest ++ s)) k
    exact readTree_of_refused hscan hi
  | number hl hrest =>
    rcases scan_literal_cases hl k (rest ++ s) with ⟨y, next, rest', hscan⟩ | ⟨m, v, hm, hlm, hp⟩
    · -- a number is refused whatever its value is
      exact readTree_of_refused hscan (insert?_number_eq_none.mpr (insert?_number_eq_none.mp hi))
    · exfalso
      cases rest with
      | nil =>
        rw [List.append_nil] at hdrop
        exact hno m ⟨⟨_, hdrop ▸ hl⟩, hdrop ▸ hlm, hdrop ▸ hp, v, hm⟩
      | cons c rest =>
        -- the literal has ended before what it would have to go on with
        obtain ⟨hfigure, hpoint⟩ := hrest c rfl
        cases m with
        | nil => exact hpoint (List.cons.inj hm).1
        | cons d m =>
          obtain ⟨rfl, -⟩ := List.cons.inj hm
          obtain ⟨l', hl'⟩ := hlm
          rcases hl'.mem (List.mem_append_right w List.mem_cons_self) with hc | hc
          · rw [hfigure] at hc
            cases hc
          · exact hpoint hc

end Longer

/-- **Faults stay when a text goes on.**  A stray character is reported in every longer text, and so
is a token out of place, unless it is a number at the end of the text that goes on to a second point:
then this point is reported.  So a text that goes on to one with a tree has a tree itself, or no
tokens. -/
theorem faults_stay (p s : List Char) :
    (∀ c k, parse p = .error (.stray c k) → parse (p ++ s) = .error (.stray c k)) ∧
      (∀ k, parse p = .error (.malformed k) →
        (∀ m, RunsIntoPoint p s k m →
          parse (p ++ s) = .error (.stray '.' (p.length + m.length))) ∧
        ((∀ m, ¬ RunsIntoPoint p s k m) → parse (p ++ s) = .error (.malformed k))) ∧
      ∀ t, parse (p ++ s) = .ok t → (∃ t', parse p = .ok t') ∨ parse p = .error .empty := by
  refine ⟨fun c k h => parse_append_of_stray h s, ?_, ?_⟩
  · intro k h
    exact ⟨fun m hm => parse_append_of_runsIntoPoint h hm,
      fun hno => parse_append_of_not_runsIntoPoint h hno⟩
  · intro t ht
    cases h : parse p with
    | ok t' => exact .inl ⟨t', rfl⟩
    | error e =>
      cases e with
      | empty => exact .inr rfl
      | stray c k =>
        rw [parse_append_of_stray h s] at ht
        cases ht
      | malformed k =>
        by_cases hm : ∃ m, RunsIntoPoint p s k m
        · obtain ⟨m, hm⟩ := hm
          rw [parse_append_of_runsIntoPoint h hm] at ht
          cases ht
        · rw [parse_append_of_not_runsIntoPoint h fun m hrun => hm ⟨m, hrun⟩] at ht
          cases ht

/-- The number without a place in `1 2` is reported at its offset when a sign follows; when it goes
on to a second point, that point is reported. -/
theorem faults_stay_pairText :
    parse (pairText ++ ['+']) = .error (.malformed 2) ∧
      parse (pairText ++ ['.', '5', '.', '3']) = .error (.stray '.' 5) := by
  refine ⟨?_, ?_⟩
  · refine ((faults_stay pairText ['+']).2.1 2 parse_pairText).2 ?_
    rintro m ⟨-, ⟨l, hl⟩, -, v, hv⟩
    -- a literal would go on with the sign, or end in front of a point where the sign stands
    cases m with
    | nil => exact absurd (List.cons.inj hv).1 (by decide)
    | cons c m =>
      obtain ⟨rfl, -⟩ := List.cons.inj hv
      have hsign := hl.mem (List.mem_append_right _ List.mem_cons_self)
      exact absurd hsign (by decide)
  · have htwo : (⟨['2'], []⟩ : Literal).IsText ['2'] := .whole (by simp) (by decide)
    have hmore : (⟨['2'], ['5']⟩ : Literal).IsText ['2', '.', '5'] :=
      .pointed (by simp) (by decide) (by decide)
    refine ((faults_stay pairText ['.', '5', '.', '3']).2.1 2 parse_pairText).1 ['.', '5'] ?_
    exact ⟨⟨_, htwo⟩, ⟨_, hmore⟩, by decide, ['3'], rfl⟩

end LineCalculator
