/-
Decimals and their doubles.

The figures of a number stand for it and start with no zero, and the double nearest to a decimal
depends on the value of the decimal alone.  The shortest decimal of a double is one that was seen to
round back, or the exact value of the double, in either case without the zeros at its end; so it
reads back.

* `Decimal.ofFigures_figures` — figures stand for the number that they are written for;
* `Decimal.toBits_congr` — decimals of one value have one nearest double;
* `Decimal.toBits_shortest`, `Decimal.digits_shortest` — the shortest decimal of a double reads back
  and ends in no zero.
-/
import LineCalculator.Proofs.Nearest
import LineCalculator.Proofs.Scanning

namespace LineCalculator

namespace Decimal

/-! ### Figures -/

theorem figures_of_lt {n : ℕ} (h : n < 10) : figures n = [n.digitChar] :=
  Nat.toDigits_of_lt_base h

theorem figures_of_ge {n : ℕ} (h : 10 ≤ n) :
    figures n = figures (n / 10) ++ [(n % 10).digitChar] := by
  rw [figures, Nat.toDigits_eq_if (by decide), if_neg (Nat.not_lt.mpr h)]
  rfl

theorem isFigure_digitChar {n : ℕ} (h : n < 10) : isFigure n.digitChar = true := by
  revert n
  decide

theorem figureValue_digitChar {n : ℕ} (h : n < 10) : figureValue n.digitChar = n := by
  revert n
  decide

theorem digitChar_ne_zero {n : ℕ} (h : n < 10) (hn : n ≠ 0) : n.digitChar ≠ '0' := by
  revert n
  decide

theorem ofFigures_snoc (w : List Char) (c : Char) :
    ofFigures (w ++ [c]) = 10 * ofFigures w + figureValue c := by
  rw [ofFigures, ofFigures, List.foldl_append]
  rfl

/-- The figures of a row stand for the number of its front, as many places up, and its end. -/
theorem ofFigures_append (u v : List Char) :
    ofFigures (u ++ v) = ofFigures u * 10 ^ v.length + ofFigures v := by
  induction v using List.reverseRecOn with
  | nil => simp [ofFigures]
  | append_singleton v c ih =>
    rw [← List.append_assoc, ofFigures_snoc, ofFigures_snoc, ih, List.length_append, pow_add]
    simp only [List.length_singleton, pow_one]
    ring

/-- A row of zeros stands for zero. -/
theorem ofFigures_zeros (n : ℕ) : ofFigures (NumberStyle.zeros n) = 0 := by
  induction n with
  | zero => rfl
  | succ n ih =>
    rw [NumberStyle.zeros] at ih
    rw [NumberStyle.zeros, List.replicate_succ', ofFigures_snoc, ih]
    rfl

theorem ofFigures_figures (n : ℕ) : ofFigures (figures n) = n := by
  induction n using Nat.strong_induction_on with
  | _ n ih =>
    rcases Nat.lt_or_ge n 10 with h | h
    · rw [figures_of_lt h]
      exact (Nat.zero_add _).trans (figureValue_digitChar h)
    · rw [figures_of_ge h, ofFigures_snoc, ih (n / 10) (by omega),
        figureValue_digitChar (Nat.mod_lt n (by decide))]
      exact Nat.div_add_mod n 10

theorem isFigures_figures (n : ℕ) : IsFigures (figures n) := by
  induction n using Nat.strong_induction_on with
  | _ n ih =>
    rcases Nat.lt_or_ge n 10 with h | h
    · rw [figures_of_lt h]
      exact List.forall_mem_singleton.mpr (isFigure_digitChar h)
    · rw [figures_of_ge h]
      exact (ih (n / 10) (by omega)).concat (isFigure_digitChar (Nat.mod_lt n (by decide)))

theorem figures_ne_nil (n : ℕ) : figures n ≠ [] :=
  Nat.toDigits_ne_nil

theorem lt_ten_pow_figures (n : ℕ) : n < 10 ^ (figures n).length :=
  (Nat.length_toDigits_le_iff (by decide) Nat.length_toDigits_pos).mp le_rfl

/-- The figures of a number that is not zero start with another figure than zero. -/
theorem exists_figures_cons {n : ℕ} (hn : n ≠ 0) : ∃ c w, figures n = c :: w ∧ c ≠ '0' := by
  induction n using Nat.strong_induction_on with
  | _ n ih =>
    rcases Nat.lt_or_ge n 10 with h | h
    · exact ⟨_, [], figures_of_lt h, digitChar_ne_zero h hn⟩
    · obtain ⟨c, w, hw, hc⟩ := ih (n / 10) (by omega) (by omega)
      exact ⟨c, w ++ [_], by rw [figures_of_ge h, hw, List.cons_append], hc⟩

/-- The last figure of a number that is no multiple of ten is not zero. -/
theorem getLast?_figures {n : ℕ} (hn : n % 10 ≠ 0) : (figures n).getLast? ≠ some '0' := by
  rcases Nat.lt_or_ge n 10 with h | h
  · rw [figures_of_lt h]
    have := digitChar_ne_zero h (by omega)
    simpa using this
  · rw [figures_of_ge h]
    have := digitChar_ne_zero (Nat.mod_lt n (by decide)) hn
    simpa using this

/-! ### Values -/

/-- The exact value of a decimal. -/
def value (d : Decimal) : ℚ := d.digits * 10 ^ d.exponent

theorem fraction_eq_value (d : Decimal) : (d.numerator : ℚ) / d.denominator = d.value := by
  rw [value, zpow_eq_div, numerator, denominator, Nat.pow_eq, Nat.pow_eq]
  push_cast
  rw [mul_div_assoc]

/-- The double nearest to a decimal depends on its value alone. -/
theorem toBits_congr {d d' : Decimal} (h : d.value = d'.value) : d.toBits = d'.toBits := by
  have hd := d.denominator_pos
  have hd' := d'.denominator_pos
  refine nearestBits_congr hd hd' ?_
  rw [← fraction_eq_value, ← fraction_eq_value, div_eq_div_iff (by positivity) (by positivity)] at h
  exact_mod_cast h

theorem toBits_of_value_eq {d : Decimal} {m : Magnitude} (hm : m.IsDouble)
    (h : d.value = m.value) : d.toBits = m.bits := by
  have hd := d.denominator_pos
  have hm' := m.denominator_pos
  refine hm.nearestBits_eq_of_mul hd ?_
  rw [← fraction_eq_value, ← m.fraction_eq_value,
    div_eq_div_iff (by positivity) (by positivity)] at h
  exact_mod_cast h

/-- A decimal without places is rounded as the natural number that it is. -/
theorem toBits_natural (n : ℕ) : toBits ⟨n, 0⟩ = nearestBits n 1 := by
  show nearestBits (n * 1) 1 = _
  rw [Nat.mul_one]

/-! ### The fewest digits -/

theorem value_dropZeros (d : Decimal) : (dropZeros d).value = d.value := by
  fun_induction dropZeros d with
  | case1 d h ih =>
    have hdigits : (d.digits : ℚ) = 10 * (d.digits / 10 : ℕ) := by
      exact_mod_cast (Nat.mul_div_cancel' (Nat.dvd_of_mod_eq_zero h.2)).symm
    rw [ih, value, value, hdigits, zpow_add_one₀ (by norm_num)]
    ring
  | case2 => rfl

theorem digits_dropZeros {d : Decimal} (h : d.digits ≠ 0) : (dropZeros d).digits % 10 ≠ 0 := by
  fun_induction dropZeros d with
  | case1 d hd ih =>
    refine ih ?_
    show d.digits / 10 ≠ 0
    omega
  | case2 d hd => exact fun hmod => hd ⟨h, hmod⟩

theorem value_exact (m : Magnitude) : (exact m).value = m.value := by
  rw [value, Magnitude.value, exact, zpow_eq_div 2, zpow_neg, zpow_natCast]
  simp only [Nat.pow_eq]
  push_cast
  have h10 : (10 : ℚ) ^ (-m.exponent).toNat =
      2 ^ (-m.exponent).toNat * 5 ^ (-m.exponent).toNat := by
    rw [← mul_pow]
    norm_num
  rw [h10]
  field_simp

/-- What is found on a grid rounds back. -/
theorem toBits_of_onGrid? {m : Magnitude} {place : ℤ} {d : Decimal}
    (h : onGrid? m place = some d) : d.toBits = m.bits := by
  unfold onGrid? at h
  extract_lets numerator denominator below readsBack at h
  have hreads (n : ℕ) : readsBack n = true → toBits ⟨n, place⟩ = m.bits := eq_of_beq
  split at h
  next hbelow =>
    split at h
    next habove =>
      cases h
      rcases roundEven_eq_or numerator denominator with hround | hround <;> rw [hround]
      · exact hreads _ hbelow
      · exact hreads _ habove
    next =>
      cases h
      exact hreads _ hbelow
  next =>
    split at h
    next habove =>
      cases h
      exact hreads _ habove
    next => cases h

/-- The fewest digits read back to the double. -/
theorem toBits_shortest {m : Magnitude} (hm : m.IsDouble) : (shortest m).toBits = m.bits := by
  unfold shortest
  extract_lets lead found
  rw [toBits_congr (value_dropZeros _)]
  cases hfound : found with
  | none => exact toBits_of_value_eq hm (value_exact m)
  | some d =>
    obtain ⟨n, -, hn⟩ := List.exists_of_findSome?_eq_some hfound
    exact toBits_of_onGrid? hn

/-- The fewest digits of a double that is not zero do not end in a zero. -/
theorem digits_shortest {m : Magnitude} (hm : m.IsDouble) (hpos : 0 < m.significand) :
    (shortest m).digits % 10 ≠ 0 := by
  have hbits := toBits_shortest hm
  unfold shortest at hbits ⊢
  extract_lets at hbits ⊢
  refine digits_dropZeros fun hzero => ?_
  rw [toBits_congr (value_dropZeros _), toBits, numerator, hzero, Nat.zero_mul, nearestBits,
    if_pos rfl, m.bits_eq] at hbits
  omega

end Decimal

end LineCalculator
