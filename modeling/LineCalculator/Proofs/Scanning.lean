/-
What one scan takes off a text.

A scan takes blanks, and then the text of one token as far as it goes, or it stops at a character
that neither starts a token nor continues one.  Everything that is proved about reading a text is
one case for each of these ways:

* `scan_eq_token` — the text of a token, after blanks and in front of a text that it cannot take
  anything of;
* `scan_eq_stray` — a character after blanks that starts no token, or the second point of a number;
* `scan_eq_finished` — blanks alone.

The other way round, a text of one of these forms is scanned in that way:

* `scan_append_of_isBlank`, `scan_of_isText` — blanks are skipped, and a token that does not go on
  is taken;
* `scan_cons_of_startsNothing`, `scan_of_second_point` — the two ways in which a scan is stopped.
-/
import Mathlib.Data.List.TakeWhile
import LineCalculator.Token.Scan

namespace LineCalculator

/-- Whether a text is a row of digits. -/
def IsFigures (w : List Char) : Prop := ∀ c ∈ w, isFigure c = true

instance (w : List Char) : Decidable (IsFigures w) :=
  List.decidableBAll (fun c => isFigure c = true) w

/-- Whether a text has nothing but blanks. -/
def IsBlank (w : List Char) : Prop := ∀ c ∈ w, isSpace c = true

instance (w : List Char) : Decidable (IsBlank w) :=
  List.decidableBAll (fun c => isSpace c = true) w

/-- Whether a text starts with neither a digit nor a point, so that no number goes on in it. -/
def IsClosed (rest : List Char) : Prop := ∀ c ∈ rest.head?, isFigure c = false ∧ c ≠ '.'

instance (rest : List Char) : Decidable (IsClosed rest) :=
  rest.head?.decidableForallMem

/-- The texts of a literal: a row of digits, or two with a point between them of which the second
may be empty. -/
inductive Literal.IsText : Literal → List Char → Prop
  | whole {w : List Char} (hw : w ≠ []) (hf : IsFigures w) : IsText ⟨w, []⟩ w
  | pointed {w f : List Char} (hw : w ≠ []) (hf : IsFigures w) (hf' : IsFigures f) :
      IsText ⟨w, f⟩ (w ++ '.' :: f)

/-- Whether a text is that of a token in front of another text: a symbol, or a literal that does not
go on. -/
inductive Lexeme.IsText : Lexeme → List Char → List Char → Prop
  | operator (op : Operator) (rest : List Char) : IsText (.operator op) [op.symbol] rest
  | number {l : Literal} {w rest : List Char} (hl : l.IsText w) (hrest : IsClosed rest) :
      IsText (.number l.value) w rest

theorem isFigures_cons {c : Char} {w : List Char} :
    IsFigures (c :: w) ↔ isFigure c = true ∧ IsFigures w :=
  List.forall_mem_cons

theorem isFigures_takeWhile (cs : List Char) : IsFigures (cs.takeWhile isFigure) :=
  fun _ => List.mem_takeWhile_imp

theorem IsFigures.concat {w : List Char} {c : Char} (hw : IsFigures w) (hc : isFigure c = true) :
    IsFigures (w ++ [c]) :=
  List.forall_mem_append.mpr ⟨hw, List.forall_mem_singleton.mpr hc⟩

theorem isFigure_of_head?_dropWhile {cs : List Char} {c : Char}
    (h : c ∈ (cs.dropWhile isFigure).head?) : isFigure c = false := by
  have hnot := List.head?_dropWhile_not isFigure cs
  rw [Option.mem_def.mp h] at hnot
  exact hnot

/-! ### Numbers -/

section Number

variable {position next : Nat} {cs rest : List Char} {c : Char}

theorem takeWhile_isFigure_ne_nil (hc : isFigure c = true) (cs : List Char) :
    (c :: cs).takeWhile isFigure ≠ [] := by
  simp [hc]

/-- A number is the longest literal at the front of a text. -/
theorem scanNumber_eq_token {t : Token} (hc : isFigure c = true)
    (h : scanNumber position (c :: cs) = .token t next rest) :
    ∃ (l : Literal) (w : List Char), c :: cs = w ++ rest ∧ l.IsText w ∧ IsClosed rest ∧
      t = ⟨.number l.value, position⟩ ∧ next = position + w.length := by
  have hne := takeWhile_isFigure_ne_nil hc cs
  have hsplit : (c :: cs).takeWhile isFigure ++ (c :: cs).dropWhile isFigure = c :: cs :=
    List.takeWhile_append_dropWhile
  rw [scanNumber] at h
  split at h
  next after hafter =>
    have hsplit' : after.takeWhile isFigure ++ after.dropWhile isFigure = after :=
      List.takeWhile_append_dropWhile
    split at h
    next => cases h
    next hpoint =>
      cases h
      refine ⟨_, _, ?_, .pointed hne (isFigures_takeWhile _) (isFigures_takeWhile _), ?_, rfl, ?_⟩
      · rw [List.append_assoc, List.cons_append, hsplit', ← hafter, hsplit]
      · intro d hd
        refine ⟨isFigure_of_head?_dropWhile hd, ?_⟩
        rintro rfl
        obtain ⟨v, hv⟩ := List.head?_eq_some_iff.mp hd
        exact hpoint v hv
      · rw [List.length_append, List.length_cons]
        omega
  next hpoint =>
    cases h
    refine ⟨_, _, hsplit.symm, .whole hne (isFigures_takeWhile _), ?_, rfl, rfl⟩
    intro d hd
    refine ⟨isFigure_of_head?_dropWhile hd, ?_⟩
    rintro rfl
    obtain ⟨v, hv⟩ := List.head?_eq_some_iff.mp hd
    exact hpoint v hv

/-- A number is stopped by its second point alone. -/
theorem scanNumber_eq_stray {d : Char} {k : Nat} (hc : isFigure c = true)
    (h : scanNumber position (c :: cs) = .stray d k next rest) :
    ∃ w f v, c :: cs = w ++ '.' :: f ++ '.' :: v ∧ w ≠ [] ∧ IsFigures w ∧ IsFigures f ∧ d = '.' ∧
      k = position + (w ++ '.' :: f).length ∧ next = k ∧ rest = '.' :: v := by
  have hne := takeWhile_isFigure_ne_nil hc cs
  have hsplit : (c :: cs).takeWhile isFigure ++ (c :: cs).dropWhile isFigure = c :: cs :=
    List.takeWhile_append_dropWhile
  rw [scanNumber] at h
  split at h
  next after hafter =>
    have hsplit' : after.takeWhile isFigure ++ after.dropWhile isFigure = after :=
      List.takeWhile_append_dropWhile
    split at h
    next v hv =>
      cases h
      refine ⟨(c :: cs).takeWhile isFigure, after.takeWhile isFigure, v, ?_, hne,
        isFigures_takeWhile _, isFigures_takeWhile _, rfl, ?_, rfl, rfl⟩
      · rw [List.append_assoc, List.cons_append, ← hv, hsplit', ← hafter, hsplit]
      · rw [List.length_append, List.length_cons]
        omega
    next => cases h
  next => cases h

end Number

/-! ### Tokens, stray characters, ends -/

section Scan

variable {position next : Nat} {cs rest : List Char}

theorem IsBlank.cons {c : Char} {b : List Char} (hc : isSpace c = true) (hb : IsBlank b) :
    IsBlank (c :: b) :=
  List.forall_mem_cons.mpr ⟨hc, hb⟩

/-- A token is taken after blanks, and with all that belongs to it. -/
theorem scan_eq_token {t : Token} (h : scan position cs = .token t next rest) :
    ∃ b w, cs = b ++ (w ++ rest) ∧ IsBlank b ∧ t.lexeme.IsText w rest ∧
      t.position = position + b.length ∧ next = t.position + w.length := by
  fun_induction scan position cs with
  | case1 => cases h
  | case2 position c cs op hop =>
    cases h
    obtain rfl := Operator.ofSymbol?_eq_some_iff.mp hop
    exact ⟨[], [op.symbol], rfl, by simp [IsBlank], .operator op _, rfl, rfl⟩
  | case3 position c cs hop hc =>
    obtain ⟨l, w, hcs, hl, hrest, rfl, rfl⟩ := scanNumber_eq_token hc h
    exact ⟨[], w, hcs, by simp [IsBlank], .number hl hrest, rfl, rfl⟩
  | case4 position c cs hop hc hs ih =>
    obtain ⟨b, w, rfl, hb, hw, hpos, hnext⟩ := ih h
    refine ⟨c :: b, w, rfl, hb.cons hs, hw, ?_, hnext⟩
    rw [hpos, List.length_cons]
    omega
  | case5 => cases h

/-- Whether a character can neither start a token nor stand between tokens. -/
def StartsNothing (c : Char) : Prop :=
  Operator.ofSymbol? c = none ∧ isFigure c = false ∧ isSpace c = false

/-- A scan is stopped, after blanks, by a character that starts nothing or by the second point of a
number. -/
theorem scan_eq_stray {c : Char} {k : Nat} (h : scan position cs = .stray c k next rest) :
    ∃ b, IsBlank b ∧
      ((∃ v, cs = b ++ c :: v ∧ StartsNothing c ∧ k = position + b.length ∧ next = k + 1 ∧
          rest = v) ∨
        ∃ w f v, cs = b ++ (w ++ '.' :: f ++ '.' :: v) ∧ w ≠ [] ∧ IsFigures w ∧ IsFigures f ∧
          c = '.' ∧ k = position + (b ++ (w ++ '.' :: f)).length ∧ next = k ∧ rest = '.' :: v) := by
  fun_induction scan position cs with
  | case1 => cases h
  | case2 => cases h
  | case3 position d cs hop hd =>
    obtain ⟨w, f, v, hcs, hw, hf, hf', rfl, hk, hnext, hrest⟩ := scanNumber_eq_stray hd h
    exact ⟨[], by simp [IsBlank], .inr ⟨w, f, v, hcs, hw, hf, hf', rfl, hk, hnext, hrest⟩⟩
  | case4 position d cs hop hd hs ih =>
    obtain ⟨b, hb, ⟨v, rfl, hc, hk, hnext⟩ | ⟨w, f, v, rfl, hw, hf, hf', hc, hk, hnext⟩⟩ := ih h
    · refine ⟨d :: b, hb.cons hs, .inl ⟨v, rfl, hc, ?_, hnext⟩⟩
      rw [hk, List.length_cons]
      omega
    · refine ⟨d :: b, hb.cons hs, .inr ⟨w, f, v, rfl, hw, hf, hf', hc, ?_, hnext⟩⟩
      rw [hk, List.cons_append, List.length_cons]
      omega
  | case5 position d cs hop hd hs =>
    cases h
    exact ⟨[], by simp [IsBlank],
      .inl ⟨_, rfl, ⟨hop, by simpa using hd, by simpa using hs⟩, rfl, rfl, rfl⟩⟩

/-- A scan that finds no token has taken blanks alone. -/
theorem scan_eq_finished (h : scan position cs = .finished next) :
    IsBlank cs ∧ next = position + cs.length := by
  fun_induction scan position cs with
  | case1 =>
    cases h
    exact ⟨by simp [IsBlank], rfl⟩
  | case2 => cases h
  | case3 position c cs hop hc =>
    -- what starts with a digit is a number or has a second point
    rw [scanNumber] at h
    split at h
    · split at h <;> cases h
    · cases h
  | case4 position c cs hop hc hs ih =>
    obtain ⟨hb, hnext⟩ := ih h
    refine ⟨hb.cons hs, ?_⟩
    rw [hnext, List.length_cons]
    omega
  | case5 => cases h

end Scan

/-! ### Scanning a text of a given form -/

theorem ofSymbol?_of_isFigure {c : Char} (hc : isFigure c = true) : Operator.ofSymbol? c = none := by
  rw [Option.eq_none_iff_forall_ne_some]
  intro op hop
  rw [Operator.ofSymbol?_eq_some_iff.mp hop] at hc
  cases op <;> cases hc

theorem scan_cons_of_isFigure {c : Char} (hc : isFigure c = true) (position : Nat)
    (cs : List Char) : scan position (c :: cs) = scanNumber position (c :: cs) := by
  rw [scan, ofSymbol?_of_isFigure hc]
  exact if_pos hc

theorem isSpace_iff {c : Char} : isSpace c = true ↔ c = ' ' ∨ c = '\t' ∨ c = '\n' ∨ c = '\r' := by
  simp [isSpace, or_assoc]

theorem scan_cons_of_isSpace {c : Char} (hc : isSpace c = true) (position : Nat) (cs : List Char) :
    scan position (c :: cs) = scan (position + 1) cs := by
  rcases isSpace_iff.mp hc with rfl | rfl | rfl | rfl <;> rfl

/-- Blanks are skipped. -/
theorem scan_append_of_isBlank {b : List Char} (hb : IsBlank b) (position : Nat)
    (cs : List Char) : scan position (b ++ cs) = scan (position + b.length) cs := by
  induction b generalizing position with
  | nil => rfl
  | cons c b ih =>
    obtain ⟨hc, hb⟩ := List.forall_mem_cons.mp hb
    rw [List.cons_append, scan_cons_of_isSpace hc, ih hb, List.length_cons]
    congr 1
    omega

/-- A character that starts nothing stops a scan. -/
theorem scan_cons_of_startsNothing {c : Char} (hc : StartsNothing c) (position : Nat)
    (cs : List Char) : scan position (c :: cs) = .stray c position (position + 1) cs := by
  obtain ⟨hop, hfigure, hspace⟩ := hc
  rw [scan, hop]
  simp [hfigure, hspace]

section Figures

variable {w rest : List Char}

theorem takeWhile_figures (hw : IsFigures w) (hrest : ∀ c ∈ rest.head?, isFigure c = false) :
    (w ++ rest).takeWhile isFigure = w := by
  have hstop : rest.takeWhile isFigure = [] := by
    cases rest with
    | nil => rfl
    | cons c rest => exact List.takeWhile_cons_of_neg (by simp [hrest c rfl])
  rw [List.takeWhile_append_of_pos hw, hstop, List.append_nil]

theorem dropWhile_figures (hw : IsFigures w) (hrest : ∀ c ∈ rest.head?, isFigure c = false) :
    (w ++ rest).dropWhile isFigure = rest := by
  rw [List.dropWhile_append_of_pos hw]
  cases rest with
  | nil => rfl
  | cons c rest => exact List.dropWhile_cons_of_neg (by simp [hrest c rfl])

end Figures

theorem Literal.IsText.head {l : Literal} {w : List Char} (h : l.IsText w) :
    ∃ c v, w = c :: v ∧ isFigure c = true := by
  have hfirst : ∀ {u v : List Char}, u ≠ [] → IsFigures u →
      ∃ c v', u ++ v = c :: v' ∧ isFigure c = true := by
    intro u v hne hu
    obtain ⟨c, u, rfl⟩ := List.exists_cons_of_ne_nil hne
    exact ⟨c, u ++ v, rfl, (isFigures_cons.mp hu).1⟩
  cases h with
  | whole hne hw => simpa using hfirst (v := []) hne hw
  | pointed hne hw hf => exact hfirst hne hw

theorem Literal.IsText.ne_nil {l : Literal} {w : List Char} (h : l.IsText w) : w ≠ [] := by
  obtain ⟨c, v, rfl, -⟩ := h.head
  simp

/-- A literal has digits and points only. -/
theorem Literal.IsText.mem {l : Literal} {w : List Char} (h : l.IsText w) {c : Char}
    (hc : c ∈ w) : isFigure c = true ∨ c = '.' := by
  cases h with
  | whole hne hw => exact .inl (hw c hc)
  | pointed hne hw hf =>
    rcases List.mem_append.mp hc with hc | hc
    · exact .inl (hw c hc)
    · rcases List.mem_cons.mp hc with hc | hc
      · exact .inr hc
      · exact .inl (hf c hc)

/-- A literal has at most one point. -/
theorem Literal.IsText.count_point {l : Literal} {w : List Char} (h : l.IsText w) :
    w.count '.' ≤ 1 := by
  have hnone : ∀ {u : List Char}, IsFigures u → u.count '.' = 0 := by
    intro u hu
    exact List.count_eq_zero.mpr fun hp => absurd (hu '.' hp) (by decide)
  cases h with
  | whole hne hw =>
    rw [hnone hw]
    exact Nat.zero_le 1
  | pointed hne hw hf => simp [hnone hw, hnone hf]

theorem scan_literal_append {l : Literal} {w : List Char} (h : l.IsText w) (position : Nat)
    (v : List Char) : scan position (w ++ v) = scanNumber position (w ++ v) := by
  obtain ⟨c, u, rfl, hc⟩ := h.head
  exact scan_cons_of_isFigure hc position (u ++ v)

/-- A literal that does not go on is a token. -/
theorem scan_of_isText {x : Lexeme} {w rest : List Char} (h : x.IsText w rest) (position : Nat) :
    scan position (w ++ rest) = .token ⟨x, position⟩ (position + w.length) rest := by
  cases h with
  | operator op => simp [scan]
  | number hl hrest =>
    rw [scan_literal_append hl]
    cases hl with
    | whole hne hw =>
      have htake := takeWhile_figures hw fun c hc => (hrest c hc).1
      have hdrop := dropWhile_figures hw fun c hc => (hrest c hc).1
      rw [scanNumber, htake, hdrop]
      split
      next after => exact absurd rfl (hrest '.' rfl).2
      next => rfl
    | @pointed u f hne hw hf =>
      have hpoint : ∀ c ∈ ('.' :: (f ++ rest)).head?, isFigure c = false := by
        intro c hc
        cases hc
        rfl
      have htake := takeWhile_figures hw hpoint
      have hdrop := dropWhile_figures hw hpoint
      have htake' := takeWhile_figures hf fun c hc => (hrest c hc).1
      have hdrop' := dropWhile_figures hf fun c hc => (hrest c hc).1
      rw [List.append_assoc, List.cons_append, scanNumber, htake, hdrop]
      simp only [htake', hdrop']
      split
      next after => exact absurd rfl (hrest '.' rfl).2
      next => simp [Nat.add_assoc, Nat.add_comm, Nat.add_left_comm]

/-- A literal that has its point is stopped by a second one. -/
theorem scan_of_second_point {l : Literal} {w : List Char} (h : l.IsText w) (hp : '.' ∈ w)
    (position : Nat) (v : List Char) :
    scan position (w ++ '.' :: v) =
      .stray '.' (position + w.length) (position + w.length) ('.' :: v) := by
  have hstop : ∀ u, ∀ c ∈ ('.' :: u : List Char).head?, isFigure c = false := by
    intro u c hc
    cases hc
    rfl
  rw [scan_literal_append h]
  cases h with
  | whole hne hw => exact absurd (hw '.' hp) (by decide)
  | @pointed u f hne hw hf =>
    have htake := takeWhile_figures hw (hstop (f ++ '.' :: v))
    have hdrop := dropWhile_figures hw (hstop (f ++ '.' :: v))
    have htake' := takeWhile_figures hf (hstop v)
    have hdrop' := dropWhile_figures hf (hstop v)
    rw [List.append_assoc, List.cons_append, scanNumber, htake, hdrop]
    simp only [htake', hdrop']
    simp [Nat.add_assoc, Nat.add_comm, Nat.add_left_comm]

end LineCalculator
