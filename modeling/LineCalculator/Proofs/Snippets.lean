/-
Faults and the places that they point at.

A fault of a text has an offset: that of a stray character, or that of a refused token.  There the
text has a character, the one that is named or the first one of the token, and so the message shows
the text with a caret under it.  Nothing in a message breaks its lines, as a quoted character is
never written as a line break.

* `Text.newline_not_mem_quoted` — a quoted text stands on one line;
* `splitOn_message` — the four lines of the message on a place;
* `blames_of_tokenize`, `blames_of_parse` — what stands at the offset of a fault;
* `faults_point` — the message on a fault points at its place.
-/
import LineCalculator.Fault
import LineCalculator.Proofs.Concatenation
import LineCalculator.Proofs.Lexicon
import LineCalculator.Proofs.Pulling

namespace LineCalculator

/-! ### What stands on one line -/

namespace Text

theorem newline_not_mem_toDigits (n : Nat) : '\n' ∉ Nat.toDigits 16 n := by
  have hdigit : ∀ m < 16, '\n' ≠ Nat.digitChar m := by decide
  induction n using Nat.strong_induction_on with
  | _ n ih =>
    rw [Nat.toDigits_eq_if (by decide)]
    by_cases hn : n < 16
    · rw [if_pos hn]
      exact mt List.mem_singleton.mp (hdigit n hn)
    · rw [if_neg hn, List.mem_append, not_or]
      exact ⟨ih _ (by omega), mt List.mem_singleton.mp (hdigit _ (Nat.mod_lt _ (by decide)))⟩

theorem newline_not_mem_hex (width n : Nat) : '\n' ∉ hex width n := by
  rw [hex, List.mem_append, not_or]
  refine ⟨?_, newline_not_mem_toDigits n⟩
  intro h
  exact absurd (List.eq_of_mem_replicate h) (by decide)

theorem newline_not_mem_escapeNumber (c : Char) : '\n' ∉ escapeNumber c := by
  have hdigits := fun width => newline_not_mem_hex width c.toNat
  rw [escapeNumber]
  split
  · simp [hdigits]
  · split <;> simp [hdigits]

theorem newline_not_mem_escape {mark : Char} (hmark : mark ≠ '\n') (c : Char) :
    '\n' ∉ escape mark c := by
  have hnumber := newline_not_mem_escapeNumber c
  by_cases hc : c = '\n'
  · subst hc
    simp [escape, hmark.symm]
  · have hc' : '\n' ≠ c := fun h => hc h.symm
    rw [escape]
    repeat' split
    all_goals simp [hc', hnumber]

/-- A quoted text stands on one line. -/
theorem newline_not_mem_quoted (cs : List Char) : '\n' ∉ quoted cs := by
  have hmark : quoteMark cs ≠ '\n' := by
    rw [quoteMark]
    split <;> decide
  have hcs : '\n' ∉ cs.flatMap (escape (quoteMark cs)) := by
    rw [List.mem_flatMap]
    rintro ⟨c, -, hc⟩
    exact newline_not_mem_escape hmark c hc
  simp [quoted, hmark.symm, hcs]

end Text

theorem newline_not_mem_integerText (n : Int) : '\n' ∉ Decimal.integerText n := by
  have hfigures : '\n' ∉ Decimal.figures n.natAbs := by
    intro h
    exact absurd (Nat.isDigit_of_mem_toDigits (by decide) (by decide) h) (by decide)
  rw [Decimal.integerText]
  split
  · simp [hfigures]
  · exact hfigures

/-! ### The lines of a message -/

/-- What stands in front of the text in a message, and in front of the caret. -/
def margin : List Char := "   | ".toList

/-- The line with a caret under the character at an offset. -/
def caretLine (k : Nat) : List Char :=
  margin ++ List.replicate k ' ' ++ ['^']

/-- Whether a message points at a character of a text: it has four lines, of which the third shows
the text, and the fourth ends, in the column of the character, with its only caret. -/
def PointsAt (message source : List Char) (k : Nat) : Prop :=
  ∃ headline column caret, message.splitOn '\n' = [headline, column, margin ++ source, caret] ∧
    (margin ++ source)[margin.length + k]? = source[k]? ∧
    caret.length = margin.length + k + 1 ∧
    ∀ i, caret[i]? = some '^' ↔ i = margin.length + k

/-- The caret line ends with its only caret. -/
theorem getElem?_caretLine (k i : Nat) :
    (caretLine k)[i]? = some '^' ↔ i = margin.length + k := by
  have hfront : '^' ∉ margin ++ List.replicate k ' ' := by
    rw [List.mem_append, not_or]
    refine ⟨by decide, fun h => ?_⟩
    exact absurd (List.eq_of_mem_replicate h) (by decide)
  have hlength : (margin ++ List.replicate k ' ').length = margin.length + k := by
    rw [List.length_append, List.length_replicate]
  rw [caretLine]
  rcases Nat.lt_or_ge i (margin.length + k) with hi | hi
  · rw [List.getElem?_append_left (by omega)]
    refine iff_of_false (fun h => hfront (List.mem_of_getElem? h)) (by omega)
  · rw [List.getElem?_append_right (by omega), hlength, List.getElem?_singleton]
    constructor
    · intro h
      split at h
      · omega
      · cases h
    · rintro rfl
      rw [Nat.sub_self]
      rfl

theorem text_snippet {source : List Char} {k : Nat} (hk : k < source.length) :
    (⟨source, k⟩ : Snippet).text =
      "col ".toList ++ Decimal.integerText (k + 1) ++ '\n' :: (margin ++ source) ++
        '\n' :: caretLine k := by
  have hplace : (0 : Int) ≤ k ∧ (k : Int) ≤ source.length := by omega
  have hmargin : "\n   | ".toList = '\n' :: margin := rfl
  rw [Snippet.text]
  dsimp only
  rw [if_pos hplace, hmargin, caretLine]
  simp

section Message

variable {f : Fault} {source : List Char} {k : Nat}

/-- The four lines of the message on a fault in a text of one line. -/
theorem splitOn_message (hf : '\n' ∉ f.headline) (hplace : f.place? = some ⟨source, k⟩)
    (hsource : '\n' ∉ source) (hk : k < source.length) :
    f.message.splitOn '\n' =
      [f.headline, "col ".toList ++ Decimal.integerText (k + 1), margin ++ source,
        caretLine k] := by
  have hmargin : '\n' ∉ margin := by decide
  have hlines : f.message = ['\n'].intercalate
      [f.headline, "col ".toList ++ Decimal.integerText (k + 1), margin ++ source,
        caretLine k] := by
    rw [Fault.message, hplace]
    dsimp only
    rw [text_snippet hk]
    simp [List.intercalate]
  rw [hlines]
  refine List.splitOn_intercalate '\n' ?_ (by simp)
  intro l hl
  simp only [List.mem_cons, List.not_mem_nil, or_false] at hl
  rcases hl with rfl | rfl | rfl | rfl
  · exact hf
  · simp [newline_not_mem_integerText]
  · simp [hmargin, hsource]
  · simp [caretLine, hmargin]

theorem pointsAt_message (hf : '\n' ∉ f.headline) (hplace : f.place? = some ⟨source, k⟩)
    (hsource : '\n' ∉ source) (hk : k < source.length) : PointsAt f.message source k := by
  refine ⟨_, _, _, splitOn_message hf hplace hsource hk, ?_, ?_, getElem?_caretLine k⟩
  · rw [List.getElem?_append_right (Nat.le_add_right _ _), Nat.add_sub_cancel_left]
  · simp [caretLine]
    omega

end Message

/-! ### What stands at the offset of a fault -/

/-- Whether a token begins with a character: an operator is written with it, or it is a digit. -/
def Lexeme.BeginsWith : Lexeme → Char → Prop
  | operator op, c => c = op.symbol
  | number _, c => isFigure c = true

/-- Whether a token of a text is refused: the tree of the tokens in front of it has no place for
it. -/
def Refuses (source : List Char) (t : Token) : Prop :=
  ∃ us vs grown, (readTokens 0 source).tokens = us ++ t :: vs ∧ growTree .hole us = .ok grown ∧
    grown.insert? t.lexeme = none

/-- The offset of a fault, if it has one. -/
def ParseError.offset? : ParseError → Option Nat
  | stray _ k => some k
  | empty => none
  | malformed k => some k

/-- Whether a fault blames what stands at its offset: the character that it names, or the first one
of a token that is refused. -/
def ParseError.Blames (source : List Char) : ParseError → Prop
  | stray c k => source[k]? = some c
  | empty => False
  | malformed k => ∃ t w rest c, Refuses source t ∧ t.position = k ∧ source[k]? = some c ∧
      t.lexeme.BeginsWith c ∧ source.drop k = c :: w ++ rest ∧ t.lexeme.IsText (c :: w) rest

theorem Lexeme.IsText.beginsWith {x : Lexeme} {w rest : List Char} (h : x.IsText w rest) :
    ∃ c v, w = c :: v ∧ x.BeginsWith c := by
  cases h with
  | operator op => exact ⟨op.symbol, [], rfl, rfl⟩
  | number hl hrest => exact hl.head

/-- A token that is read off a text stands there with its text. -/
theorem isText_of_mem_tokens {position : Nat} {cs : List Char} {t : Token}
    (ht : t ∈ (readTokens position cs).tokens) :
    ∃ u w rest, cs = u ++ (w ++ rest) ∧ t.position = position + u.length ∧
      t.lexeme.IsText w rest := by
  induction position, cs using readTokens.induct with
  | case1 position cs t' next rest hs ih =>
    obtain ⟨b, w, rfl, -, hw, hposition, hnext⟩ := scan_eq_token hs
    rw [tokens_of_token hs] at ht
    rcases List.mem_cons.mp ht with rfl | ht
    · exact ⟨b, w, rest, rfl, hposition, hw⟩
    · obtain ⟨u, w', rest', rfl, hposition', hw'⟩ := ih ht
      refine ⟨b ++ (w ++ u), w', rest', by simp, ?_, hw'⟩
      simp only [List.length_append]
      omega
  | case2 position cs c k next rest hs =>
    rw [tokens_of_stray hs] at ht
    cases ht
  | case3 position cs next hs =>
    rw [tokens_of_finished hs] at ht
    cases ht

section Blames

variable {source : List Char} {e : ParseError}

theorem blames_of_tokenize (h : tokenize source = .error e) : e.Blames source := by
  obtain ⟨u, c, v, rfl, rfl, -⟩ := leaves_of_tokenize_error h
  show (u ++ c :: v)[u.length]? = some c
  simp

/-- A stray character that stops the building stops the reading of the tokens alone. -/
theorem tokenize_of_parse_stray {c : Char} {k : Nat} (h : parse source = .error (.stray c k)) :
    tokenize source = .error (.stray c k) := by
  cases ht : tokenize source with
  | ok ts =>
    rw [parse_of_tokenize ht] at h
    exact absurd h (build_ne_stray ts c k)
  | error e =>
    have hstopped : parse source = .error e := by
      refine parse_of_stopped_of_not_malformed ht ?_
      intro k' hk'
      rw [parse_eq_malformed_iff.mpr hk'] at h
      cases h
    rw [h] at hstopped
    exact congrArg Except.error (Except.error.inj hstopped.symm)

theorem blames_of_parse (h : parse source = .error e) (he : e ≠ .empty) : e.Blames source := by
  cases e with
  | stray c k => exact blames_of_tokenize (tokenize_of_parse_stray h)
  | empty => exact absurd rfl he
  | malformed k =>
    obtain ⟨us, t, vs, grown, htokens, hgrown, hrefused, hk⟩ :=
      exists_refused_of_growTree (parse_eq_malformed_iff.mp h)
    obtain rfl := ParseError.malformed.inj hk
    have ht : t ∈ (readTokens 0 source).tokens := by simp [htokens]
    obtain ⟨u, w, rest, rfl, hposition, hw⟩ := isText_of_mem_tokens ht
    obtain ⟨c, v, rfl, hc⟩ := hw.beginsWith
    rw [Nat.zero_add] at hposition
    refine ⟨t, v, rest, c, ⟨us, vs, grown, htokens, hgrown, hrefused⟩, rfl, ?_, hc, ?_, hw⟩
    · rw [hposition, List.getElem?_append_right (Nat.le_refl _), Nat.sub_self]
      rfl
    · rw [hposition, List.drop_left]

/-- The offset of a fault that blames something lies in the text. -/
theorem ParseError.Blames.lt {k : Nat} (h : e.Blames source) (hk : e.offset? = some k) :
    k < source.length := by
  cases e with
  | stray c j =>
    obtain rfl := Option.some.inj hk
    exact (List.getElem?_eq_some_iff.mp h).1
  | empty => cases hk
  | malformed j =>
    obtain rfl := Option.some.inj hk
    obtain ⟨t, w, rest, c, -, -, hc, -⟩ := h
    exact (List.getElem?_eq_some_iff.mp hc).1

end Blames

theorem newline_not_mem_headline (source : List Char) (e : ParseError) :
    '\n' ∉ (e.fault source).headline := by
  cases e with
  | stray c k =>
    show '\n' ∉ "Unexpected character ".toList ++ Text.quoted [c] ++ " at position ".toList ++
      Decimal.integerText k
    simp only [List.mem_append, not_or]
    exact ⟨⟨⟨by decide, Text.newline_not_mem_quoted [c]⟩, by decide⟩,
      newline_not_mem_integerText k⟩
  | empty =>
    show '\n' ∉ "Expression is empty".toList
    decide
  | malformed k =>
    show '\n' ∉ "Invalid format at position ".toList ++ Decimal.integerText k
    rw [List.mem_append, not_or]
    exact ⟨by decide, newline_not_mem_integerText k⟩

/-- **Faults point at their places.**  The offset of a fault lies in the text.  There stands the
character that the fault names, or the first character of the token that is refused; and the message
on a fault in a text of one line shows the text with a caret under that character. -/
theorem faults_point {source : List Char} {e : ParseError} {k : Nat} (hsource : '\n' ∉ source)
    (h : tokenize source = .error e ∨ parse source = .error e) (hk : e.offset? = some k) :
    k < source.length ∧ e.Blames source ∧ PointsAt (e.fault source).message source k := by
  have hblames : e.Blames source := by
    rcases h with h | h
    · exact blames_of_tokenize h
    · refine blames_of_parse h ?_
      rintro rfl
      cases hk
  have hlt := hblames.lt hk
  have hplace : (e.fault source).place? = some ⟨source, k⟩ := by
    cases e with
    | stray c j =>
      obtain rfl := Option.some.inj hk
      rfl
    | empty => cases hk
    | malformed j =>
      obtain rfl := Option.some.inj hk
      rfl
  exact ⟨hlt, hblames, pointsAt_message (newline_not_mem_headline source e) hplace hsource hlt⟩

/-- The message on the second number of `1 2` points at it, and so does the message on the point in
front of `.5`. -/
theorem faults_point_pairText :
    (2 < pairText.length ∧ (ParseError.malformed 2).Blames pairText ∧
        PointsAt ((ParseError.malformed 2).fault pairText).message pairText 2) ∧
      ['.', '5'][0]? = some '.' ∧
        PointsAt ((ParseError.stray '.' 0).fault ['.', '5']).message ['.', '5'] 0 := by
  have hstray : tokenize ['.', '5'] = .error (.stray '.' 0) := by
    rw [tokenize, readTokens_of_stray rfl]
  obtain ⟨-, hblames, hpoints⟩ := faults_point (by decide) (.inl hstray) rfl
  exact ⟨faults_point (by decide) (.inr parse_pairText) rfl, hblames, hpoints⟩

example : ((ParseError.malformed 2).fault pairText).message =
    "Invalid format at position 2\ncol 3\n   | 1 2\n   |   ^".toList := by
  decide

end LineCalculator
