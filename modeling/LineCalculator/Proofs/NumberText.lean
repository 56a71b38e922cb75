/-
The texts of results.

A result is written in full, if it is a natural number below the bound, and otherwise with its
fewest digits, the zeros of its exponent cut off.  Either way its text is a numeral, because the
fewest digits of a double are a natural number only if the double is one too.  The numeral rounds
back to the result, so that results are read back as they were and two numbers have two texts.

* `NumberStyle.exists_numeral_layout` — a decimal is laid out as a numeral;
* `NumberStyle.exists_numeral_magnitude` — a magnitude is written as a numeral that rounds back;
* `write_cases` — the text of a number;
* `write_injective` — two doubles have two texts;
* `result_reads_back` — a number is read back, and the form of its text.
-/
import LineCalculator.Proofs.Numerals
import LineCalculator.Proofs.Substitution

namespace LineCalculator

open Decimal

namespace NumberStyle

theorem isFigures_zeros (n : ℕ) : IsFigures (zeros n) := by
  intro c hc
  rw [List.eq_of_mem_replicate hc]
  decide

/-! ### Exponents -/

theorem trimExponent_of_not_mem {text : List Char} (h : 'e' ∉ text) : trimExponent text = text := by
  have hdrop : text.dropWhile (· ≠ 'e') = [] := by
    rw [List.dropWhile_eq_nil_iff]
    intro c hc
    simp only [decide_eq_true_eq]
    rintro rfl
    exact h hc
  rw [trimExponent, hdrop]

theorem trimExponent_append {text : List Char} (h : 'e' ∉ text) (sign : Char) (w : List Char) :
    trimExponent (text ++ 'e' :: sign :: w) = text ++ 'e' :: sign :: w.dropWhile (· = '0') := by
  have hall : ∀ c ∈ text, decide (c ≠ 'e') = true := by
    intro c hc
    simp only [decide_eq_true_eq]
    rintro rfl
    exact h hc
  have hdrop : (text ++ 'e' :: sign :: w).dropWhile (· ≠ 'e') = 'e' :: sign :: w := by
    rw [List.dropWhile_append_of_pos hall]
    rfl
  have htake : (text ++ 'e' :: sign :: w).takeWhile (· ≠ 'e') = text := by
    rw [List.takeWhile_append_of_pos hall]
    simp
  rw [trimExponent, hdrop, htake]

theorem dropWhile_zeros_figures {n : ℕ} (hn : n ≠ 0) (k : ℕ) :
    (zeros k ++ figures n).dropWhile (· = '0') = figures n := by
  obtain ⟨c, w, hw, hc⟩ := exists_figures_cons hn
  rw [List.dropWhile_append_of_pos (by simp [zeros]), hw]
  exact List.dropWhile_cons_of_neg (by simpa using hc)

/-- With the zeros cut off, an exponent is that of a numeral. -/
theorem trimExponent_exponent {text : List Char} (h : 'e' ∉ text) {e : ℤ} (he : e ≠ 0) :
    trimExponent (text ++ exponent e) = text ++ Numeral.exponentText (some e) := by
  have hne : e.natAbs ≠ 0 := Int.natAbs_ne_zero.mpr he
  rw [exponent, trimExponent_append h, dropWhile_zeros_figures hne, Numeral.exponentText]

/-! ### Layouts -/

section Layout

variable {d : Decimal}

/-- Below one, the digits stand behind a point and zeros. -/
theorem exists_numeral_of_point_nonpos (hd : d.digits % 10 ≠ 0)
    (hpoint : d.exponent + (figures d.digits).length ≤ 0) :
    ∃ n : Numeral, n.IsCanonical ∧ n.decimal = d ∧ n.exponent? = none ∧
      positional (figures d.digits) (d.exponent + (figures d.digits).length) = n.spelling := by
  generalize hw : figures d.digits = w at *
  have hne : w ≠ [] := hw ▸ figures_ne_nil d.digits
  generalize hz : zeros (-(d.exponent + w.length)).toNat = z
  have hzlen : (z.length : ℤ) = -(d.exponent + w.length) := by
    rw [← hz, zeros, List.length_replicate]
    omega
  refine ⟨⟨⟨['0'], z ++ w⟩, none⟩, ⟨by simp, isFigures_cons.mpr ⟨rfl, List.forall_mem_nil _⟩, ?_, ?_, by simp⟩,
    ?_, rfl, ?_⟩
  · rw [← hz, ← hw]
    exact List.forall_mem_append.mpr ⟨isFigures_zeros _, isFigures_figures _⟩
  · rw [List.getLast?_append_of_ne_nil _ hne, ← hw]
    exact getLast?_figures hd
  · have hdigits : ofFigures ('0' :: (z ++ w)) = d.digits := by
      rw [← List.cons_append, ofFigures_append, ← hw, ofFigures_figures, ← hz]
      show ofFigures (zeros (_ + 1)) * _ + _ = _
      rw [ofFigures_zeros, Nat.zero_mul, Nat.zero_add]
    have hexp : (0 : ℤ) + -((z ++ w).length : ℤ) = d.exponent := by
      rw [List.length_append]
      push_cast
      omega
    exact congrArg₂ Decimal.mk hdigits hexp
  · rw [positional, if_pos hpoint, hz]
    simp [Numeral.spelling, Numeral.exponentText, Literal.spelling, hne]

/-- Where digits are left behind the point, they are the fraction. -/
theorem exists_numeral_of_point_lt (hd : d.digits % 10 ≠ 0)
    (hpos : 0 < d.exponent + (figures d.digits).length) (hexp : d.exponent < 0) :
    ∃ n : Numeral, n.IsCanonical ∧ n.decimal = d ∧ n.exponent? = none ∧
      positional (figures d.digits) (d.exponent + (figures d.digits).length) = n.spelling := by
  generalize hw : figures d.digits = w at *
  have hfigures : IsFigures w := hw ▸ isFigures_figures d.digits
  generalize hk : (d.exponent + w.length).toNat = k
  have hlt : k < w.length := by omega
  have hdrop : w.drop k ≠ [] := by simpa using hlt
  refine ⟨⟨⟨w.take k, w.drop k⟩, none⟩, ⟨?_, ?_, ?_, ?_, by simp⟩, ?_, rfl, ?_⟩
  · show w.take k ≠ []
    rw [← List.length_pos_iff, List.length_take]
    omega
  · exact fun c hc => hfigures c (List.mem_of_mem_take hc)
  · exact fun c hc => hfigures c (List.mem_of_mem_drop hc)
  · have hlast := getLast?_figures hd
    rw [hw, ← List.take_append_drop k w, List.getLast?_append_of_ne_nil _ hdrop] at hlast
    exact hlast
  · have hdigits : ofFigures (w.take k ++ w.drop k) = d.digits := by
      rw [List.take_append_drop, ← hw, ofFigures_figures]
    have hexp : (0 : ℤ) + -((w.drop k).length : ℤ) = d.exponent := by
      rw [List.length_drop]
      omega
    exact congrArg₂ Decimal.mk hdigits hexp
  · rw [positional, if_neg (by omega), hk]
    dsimp only
    rw [if_neg (by omega)]
    simp [Numeral.spelling, Numeral.exponentText, Literal.spelling, hlt]

/-- Scientific form is a literal with a single whole digit, and the exponent. -/
theorem scientific_cons (c : Char) (w : List Char) (e : ℤ) :
    scientific (c :: w) e = Literal.spelling ⟨[c], w⟩ ++ exponent e := by
  cases w <;> rfl

/-- In scientific form one digit stands before the point. -/
theorem exists_numeral_scientific (hd : d.digits % 10 ≠ 0)
    (hpoint : d.exponent + (figures d.digits).length - 1 ≠ 0) :
    ∃ n : Numeral, n.IsCanonical ∧ n.decimal = d ∧
      trimExponent (scientific (figures d.digits) (d.exponent + (figures d.digits).length - 1)) =
        n.spelling := by
  obtain ⟨c, w, hw⟩ := List.exists_cons_of_ne_nil (figures_ne_nil d.digits)
  have hfigures := isFigures_figures d.digits
  have hlast := getLast?_figures hd
  have hdigits := ofFigures_figures d.digits
  rw [hw] at hfigures hlast hdigits hpoint ⊢
  obtain ⟨hc, hw'⟩ := isFigures_cons.mp hfigures
  have hend : w.getLast? ≠ some '0' := by
    cases w with
    | nil => nofun
    | cons c' w => rwa [List.getLast?_cons_cons] at hlast
  have hn : Numeral.IsCanonical ⟨⟨[c], w⟩, some (d.exponent + (c :: w).length - 1)⟩ :=
    ⟨List.cons_ne_nil _ _, isFigures_cons.mpr ⟨hc, List.forall_mem_nil _⟩, hw', hend,
      fun h => hpoint (Option.some.inj h)⟩
  have hexp : d.exponent + ((c :: w).length : ℕ) - 1 + -(w.length : ℤ) = d.exponent := by
    rw [List.length_cons]
    push_cast
    ring
  refine ⟨_, hn, congrArg₂ Decimal.mk hdigits hexp, ?_⟩
  rw [scientific_cons, trimExponent_exponent hn.e_not_mem hpoint]
  rfl

/-- A decimal that ends in no zero is laid out as a numeral, unless it is a natural number below
`10 ^ 16`. -/
theorem exists_numeral_layout (hd : d.digits % 10 ≠ 0) :
    (∃ n : Numeral, n.IsCanonical ∧ n.decimal = d ∧ trimExponent (layout d) = n.spelling) ∨
      0 ≤ d.exponent ∧ d.digits * 10 ^ d.exponent.toNat < 10 ^ 16 := by
  have hplain {n : Numeral} (hn : n.IsCanonical) (he : n.exponent? = none) :
      trimExponent n.spelling = n.spelling := by
    refine trimExponent_of_not_mem ?_
    rw [Numeral.spelling, he, Numeral.exponentText, List.append_nil]
    exact hn.e_not_mem
  by_cases hrange : -4 < d.exponent + (figures d.digits).length ∧
      d.exponent + (figures d.digits).length ≤ 16
  · have hlayout : layout d =
        positional (figures d.digits) (d.exponent + (figures d.digits).length) := if_pos hrange
    -- the point is in front of the digits, among them, or behind them with zeros between
    rcases lt_or_ge 0 (d.exponent + (figures d.digits).length) with hpos | hle
    · rcases lt_or_ge d.exponent 0 with hexp | hexp
      · obtain ⟨n, hn, hdec, he, htext⟩ := exists_numeral_of_point_lt hd hpos hexp
        exact .inl ⟨n, hn, hdec, by rw [hlayout, htext, hplain hn he]⟩
      · refine .inr ⟨hexp, ?_⟩
        calc d.digits * 10 ^ d.exponent.toNat
            < 10 ^ (figures d.digits).length * 10 ^ d.exponent.toNat :=
              Nat.mul_lt_mul_of_pos_right (lt_ten_pow_figures _) (Nat.pow_pos (by decide))
          _ = 10 ^ ((figures d.digits).length + d.exponent.toNat) := (pow_add ..).symm
          _ ≤ 10 ^ 16 := Nat.pow_le_pow_right (by decide) (by omega)
    · obtain ⟨n, hn, hdec, he, htext⟩ := exists_numeral_of_point_nonpos hd hle
      exact .inl ⟨n, hn, hdec, by rw [hlayout, htext, hplain hn he]⟩
  · have hlayout : layout d =
        scientific (figures d.digits) (d.exponent + (figures d.digits).length - 1) :=
      if_neg hrange
    obtain ⟨n, hn, hdec, htext⟩ := exists_numeral_scientific hd (by omega)
    exact .inl ⟨n, hn, hdec, by rw [hlayout, htext]⟩

end Layout

/-! ### Results -/

variable {m : Magnitude}

/-- The text of a whole result below the bound is that of a natural number. -/
theorem magnitude_of_lt {k : ℕ} (hk : m.natural? = some k) (hlt : k < wholeBound) :
    result.magnitude m = figures k := by
  rw [magnitude, hk]
  exact if_pos ⟨rfl, hlt⟩

/-- All other results are written with the fewest digits. -/
theorem magnitude_of_not_lt (h : ∀ k, m.natural? = some k → wholeBound ≤ k) :
    result.magnitude m = trimExponent (layout (Decimal.shortest m)) := by
  rw [magnitude]
  split
  next k hk =>
    have hle := h k hk
    have hne : k ≠ 0 := by
      rintro rfl
      exact absurd hle (by decide)
    rw [if_neg fun hand => absurd hand.2 (Nat.not_lt.mpr hle), if_neg hne]
    rfl
  next => rfl

/-- What is not a natural number below the bound is no natural number below `10 ^ 16` either after
it was rounded. -/
theorem nearestBits_ne_of_not_lt (hm : m.IsDouble)
    (h : ∀ k, m.natural? = some k → wholeBound ≤ k) {j : ℕ} (hj : j < 10 ^ 16) :
    nearestBits j 1 ≠ m.bits := by
  intro hbits
  obtain ⟨k, hk⟩ := hm.exists_natural? hbits
  have hle : 2 ^ 69 ≤ k := le_trans (by decide) (h k hk)
  have hlow := le_nearestBits_natural (by decide) hle
  have hhigh := nearestBits_natural_le (i := 53) (lt_of_lt_of_le hj (by decide))
  rw [hm.nearestBits_natural hk] at hlow
  omega

/-- A magnitude is written as a numeral that rounds back to it. -/
theorem exists_numeral_magnitude (hm : m.IsDouble) :
    ∃ n : Numeral, n.IsCanonical ∧ result.magnitude m = n.spelling ∧
      n.decimal.toBits = m.bits := by
  by_cases h : ∀ k, m.natural? = some k → wholeBound ≤ k
  · have hpos : 0 < m.significand := by
      rw [Nat.pos_iff_ne_zero]
      intro hzero
      have hnat : m.natural? = some 0 := by
        refine Magnitude.natural?_eq_some ?_
        rw [Magnitude.numerator_eq, hzero, Nat.zero_mul, Nat.zero_mul]
      exact absurd (h 0 hnat) (by decide)
    rw [magnitude_of_not_lt h]
    have hbits := toBits_shortest hm
    rcases exists_numeral_layout (digits_shortest hm hpos) with ⟨n, hn, hdec, htext⟩ | ⟨hexp, hlt⟩
    · exact ⟨n, hn, htext, by rw [hdec, hbits]⟩
    · refine absurd ?_ (nearestBits_ne_of_not_lt hm h hlt)
      rw [← toBits_natural, ← hbits]
      refine toBits_congr ?_
      rw [value, value, zpow_zero, mul_one]
      push_cast
      rw [← zpow_natCast, Int.toNat_of_nonneg hexp]
  · push Not at h
    obtain ⟨k, hk, hlt⟩ := h
    refine ⟨⟨⟨figures k, []⟩, none⟩,
      ⟨figures_ne_nil k, isFigures_figures k, List.forall_mem_nil _, by simp, by simp⟩, ?_, ?_⟩
    · rw [magnitude_of_lt hk hlt]
      simp [Numeral.spelling, Numeral.exponentText, Literal.spelling]
    · have hdec : (⟨⟨figures k, []⟩, none⟩ : Numeral).decimal = ⟨k, 0⟩ := by
        simp [Numeral.decimal, Literal.decimal, ofFigures_figures]
      rw [hdec, toBits_natural, hm.nearestBits_natural hk]

end NumberStyle

/-! ### Texts of doubles -/

open NumberStyle

theorem signedDouble_infinityBits (negative : Bool) :
    signedDouble negative infinityBits = infinite negative := by
  cases negative <;> rfl

theorem readNumber?_signed {cs : List Char} (h : ∀ c ∈ cs.head?, c ≠ '-') (negative : Bool) :
    readNumber? (signed negative cs) = (readMagnitude? cs).map (signedDouble negative) := by
  cases negative with
  | true => rfl
  | false =>
    show readNumber? cs = _
    unfold readNumber?
    split
    next cs' => exact absurd rfl (h '-' rfl)
    next => rfl

theorem Numeral.IsCanonical.head_spelling {n : Numeral} (h : n.IsCanonical) :
    ∃ c w, n.spelling = c :: w ∧ isFigure c = true := by
  obtain ⟨c, w, hw, hc⟩ := h.isText.head
  exact ⟨c, w ++ _, by rw [Numeral.spelling, hw, List.cons_append], hc⟩

theorem Numeral.IsCanonical.readMagnitude?_spelling {n : Numeral} (h : n.IsCanonical) :
    readMagnitude? n.spelling = some n.decimal.toBits := by
  have hne : n.spelling ≠ "Infinity".toList := by
    obtain ⟨c, w, hw, hc⟩ := h.head_spelling
    rw [hw]
    intro heq
    cases heq
    exact absurd hc (by decide)
  rw [readMagnitude?, if_neg hne, h.readDecimal?_spelling]
  rfl

section Write

variable {x : Float}

theorem write_of_isNaN (h : x.isNaN = true) : result.write x = "NaN".toList := by
  rw [write, ofFloat_eq_nan_iff.mpr h]
  rfl

/-- The text of a result that is a number: an infinity or a numeral that rounds back to the result,
with its sign. -/
theorem write_cases (h : x.isNaN = false) :
    (∃ negative, x = infinite negative ∧
        result.write x = signed negative "Infinity".toList) ∨
      ∃ negative, ∃ n : Numeral, n.IsCanonical ∧ x = signedDouble negative n.decimal.toBits ∧
        result.write x = signed negative n.spelling := by
  cases hx : Datum.ofFloat x with
  | nan => exact absurd (ofFloat_eq_nan_iff.mp hx) (Bool.eq_false_iff.mp h)
  | infinity negative =>
    exact .inl ⟨negative, (infinite_of_ofFloat hx).symm, by rw [write, hx]; rfl⟩
  | finite negative m =>
    obtain ⟨hm, hbits⟩ := isDouble_of_finite hx
    obtain ⟨n, hn, htext, hdec⟩ := exists_numeral_magnitude hm
    exact .inr ⟨negative, n, hn, by rw [hdec, hbits], by rw [write, hx, ← htext]⟩

/-- A result that is a number is read as it was. -/
theorem readNumber?_write (h : x.isNaN = false) : readNumber? (result.write x) = some x := by
  rcases write_cases h with ⟨negative, hx, htext⟩ | ⟨negative, n, hn, hx, htext⟩
  · have hhead : ∀ c ∈ "Infinity".toList.head?, c ≠ '-' := by
      rintro _ ⟨⟩
      decide
    rw [htext, readNumber?_signed hhead, readMagnitude?, if_pos rfl, hx,
      ← signedDouble_infinityBits]
    rfl
  · obtain ⟨c, w, hw, hc⟩ := hn.head_spelling
    have hhead : ∀ c ∈ n.spelling.head?, c ≠ '-' := by
      rw [hw]
      rintro _ ⟨⟩ rfl
      exact absurd hc (by decide)
    rw [htext, readNumber?_signed hhead, hn.readMagnitude?_spelling, hx]
    rfl

/-- What is not a number is written as something that is not read as a number. -/
theorem readNumber?_write_of_isNaN (h : x.isNaN = true) : readNumber? (result.write x) = none := by
  rw [write_of_isNaN h]
  rfl

theorem write_injective : Function.Injective result.write := by
  intro x y h
  cases hx : x.isNaN with
  | false =>
    have hread := readNumber?_write hx
    cases hy : y.isNaN with
    | false =>
      rw [h, readNumber?_write hy] at hread
      exact (Option.some.inj hread).symm
    | true =>
      rw [h, readNumber?_write_of_isNaN hy] at hread
      cases hread
  | true =>
    cases hy : y.isNaN with
    | false =>
      have hread := readNumber?_write hy
      rw [← h, readNumber?_write_of_isNaN hx] at hread
      cases hread
    | true => exact sameDouble_iff.mp (.inr ⟨hx, hy⟩)

theorem not_pointZero_suffix_signed {cs : List Char} (h : ¬ ['.', '0'] <:+ cs) (negative : Bool) :
    ¬ ['.', '0'] <:+ signed negative cs := by
  cases negative with
  | false => exact h
  | true =>
    intro hsuffix
    rcases List.suffix_cons_iff.mp hsuffix with heq | hs
    · cases heq
    · exact h hs

theorem exists_of_signed_eq {cs front back : List Char} {negative : Bool}
    (h : signed negative cs = front ++ 'e' :: back) : ∃ front', cs = front' ++ 'e' :: back := by
  cases negative with
  | false => exact ⟨front, h⟩
  | true =>
    cases front with
    | nil => cases h
    | cons c front => exact ⟨front, (List.cons.inj h).2⟩

/-- **Results lose no information.** The text of a number is read as that number, so that two
numbers have two texts; it does not end in a fraction of zero, and behind the mark of an exponent
stand a sign and figures, of which the first is not zero. -/
theorem result_reads_back (hx : x.isNaN = false) :
    readNumber? (result.write x) = some x ∧
      (∀ y : Float, y.isNaN = false → y ≠ x → result.write y ≠ result.write x) ∧
      ¬ ['.', '0'] <:+ result.write x ∧
      ∀ front back, result.write x = front ++ 'e' :: back →
        ∃ sign first more, back = sign :: first :: more ∧ (sign = '+' ∨ sign = '-') ∧
          first ≠ '0' ∧ IsFigures (first :: more) := by
  refine ⟨readNumber?_write hx, fun y _ hne => write_injective.ne hne, ?_⟩
  rcases write_cases hx with ⟨negative, -, htext⟩ | ⟨negative, n, hn, -, htext⟩
  · rw [htext]
    refine ⟨not_pointZero_suffix_signed (by decide) negative, ?_⟩
    intro front back h
    obtain ⟨front', h'⟩ := exists_of_signed_eq h
    have hmem : 'e' ∈ "Infinity".toList := h' ▸ List.mem_append_right _ List.mem_cons_self
    exact absurd hmem (by decide)
  · rw [htext]
    refine ⟨not_pointZero_suffix_signed hn.not_pointZero_suffix negative, ?_⟩
    intro front back h
    obtain ⟨front', h'⟩ := exists_of_signed_eq h
    exact hn.exponent_form h'

/-- The double nearest to one ten-millionth, negative. -/
def minusTenMillionth : Float := signedDouble true (Decimal.toBits ⟨1, -7⟩)

/-- The exponent of a ten-millionth loses its zero. -/
theorem result_reads_back_minusTenMillionth :
    minusTenMillionth.isNaN = false ∧ result.write minusTenMillionth = "-1e-7".toList ∧
      readNumber? "-1e-7".toList = some minusTenMillionth := by
  have hx : minusTenMillionth.isNaN = false := by decide +kernel
  have hdatum : Datum.ofFloat minusTenMillionth = .finite true ⟨7555786372591432, -76⟩ := by
    decide +kernel
  have hshortest : Decimal.shortest ⟨7555786372591432, -76⟩ = ⟨1, -7⟩ := by
    have hfound : ((List.range 17).findSome? fun n : ℕ =>
        onGrid? ⟨7555786372591432, -76⟩ (scale (Magnitude.numerator ⟨7555786372591432, -76⟩)
          (Magnitude.denominator ⟨7555786372591432, -76⟩) - (n + 1))) = some ⟨10, -8⟩ := by
      decide +kernel
    rw [Decimal.shortest, hfound, Option.getD_some, dropZeros, dif_pos (by decide), dropZeros,
      dif_neg (by decide)]
    rfl
  have hnatural : Magnitude.natural? ⟨7555786372591432, -76⟩ = none := by decide +kernel
  have htext : result.write minusTenMillionth = "-1e-7".toList := by
    rw [write, hdatum]
    dsimp only
    rw [magnitude_of_not_lt (by simp [hnatural]), hshortest]
    decide +kernel
  exact ⟨hx, htext, htext ▸ (result_reads_back hx).1⟩

end Write

end LineCalculator
