/-
The order of doubles.

The bits of a double without a sign count its exponent field and its fraction as one number, and by
this number such doubles are compared.  Rounding keeps the order of fractions, because a fraction
with a greater last place has a leading bit that a smaller one lacks.

* `lt_iff_bits_lt`, `le_iff_bits_le` — finite doubles without a sign are ordered as their bits are;
* `nearestBits_mono` — the nearest double grows with the fraction.
-/
import LineCalculator.Proofs.Nearest

open Float.Model Float.Model.UnpackedFloat

namespace LineCalculator

/-! ### Comparisons -/

namespace Magnitude

variable {m m' : Magnitude}

/-- A greater last place makes a greater double, whatever the significands are. -/
theorem IsDouble.bits_lt_of_exponent_lt (hm : m.IsDouble) (hm' : m'.IsDouble)
    (h : m.exponent < m'.exponent) : m.bits < m'.bits := by
  have hlt := hm.lt
  have hge := hm.ge
  have hnormal : 2 ^ 52 ≤ m'.significand := hm'.normal.resolve_right (by omega)
  rw [bits_eq, bits_eq]
  omega

/-- Doubles without a sign are ordered as their bits are. -/
theorem IsDouble.compare_eq (hm : m.IsDouble) (hm' : m'.IsDouble) :
    (compare m.exponent m'.exponent).then (compare m.significand m'.significand) =
      compare m.bits m'.bits := by
  rcases lt_trichotomy m.exponent m'.exponent with h | h | h
  · rw [compare_lt_iff_lt.mpr h, compare_lt_iff_lt.mpr (hm.bits_lt_of_exponent_lt hm' h)]
    rfl
  · rw [compare_eq_iff_eq.mpr h, Ordering.eq_then, bits_eq, bits_eq, h]
    rcases lt_trichotomy m.significand m'.significand with hs | hs | hs
    · rw [compare_lt_iff_lt.mpr hs, compare_lt_iff_lt.mpr (by omega)]
    · rw [compare_eq_iff_eq.mpr hs, compare_eq_iff_eq.mpr (by omega)]
    · rw [compare_gt_iff_gt.mpr hs, compare_gt_iff_gt.mpr (by omega)]
  · rw [compare_gt_iff_gt.mpr h, compare_gt_iff_gt.mpr (hm'.bits_lt_of_exponent_lt hm h)]
    rfl

/-- The bits of zero alone are zero. -/
theorem IsDouble.bits_eq_zero_iff (hm : m.IsDouble) : m.bits = 0 ↔ m.significand = 0 := by
  have hge := hm.ge
  rw [bits_eq]
  constructor
  · omega
  · intro h
    have := hm.normal.resolve_left (by omega)
    omega

end Magnitude

/-- Finite doubles without a sign are compared by their bits. -/
theorem compare_unpacked {m m' : Magnitude} (hm : m.IsDouble) (hm' : m'.IsDouble) :
    (Datum.finite false m).unpacked.compare (Datum.finite false m').unpacked =
      some (compare m.bits m'.bits) := by
  have hzero := hm.bits_eq_zero_iff
  have hzero' := hm'.bits_eq_zero_iff
  rw [Datum.unpacked, Datum.unpacked]
  split
  · split
    · exact congrArg some (hm.compare_eq hm')
    · exact congrArg some (compare_gt_iff_gt.mpr (by omega)).symm
  · split
    · exact congrArg some (compare_lt_iff_lt.mpr (by omega)).symm
    · exact congrArg some (compare_eq_iff_eq.mpr (by omega)).symm

section Finite

variable {x y : Float} {m m' : Magnitude}

theorem lt_iff_bits_lt (hx : Datum.ofFloat x = .finite false m)
    (hy : Datum.ofFloat y = .finite false m') : x < y ↔ m.bits < m'.bits := by
  have hlt : x < y ↔ x.toModel.unpack.lt y.toModel.unpack = true := decide_eq_true_iff
  rw [hlt, unpack_eq_unpacked, unpack_eq_unpacked, hx, hy, UnpackedFloat.lt,
    compare_unpacked (isDouble_of_finite hx).1 (isDouble_of_finite hy).1, beq_iff_eq,
    Option.some.injEq, compare_lt_iff_lt]

theorem le_iff_bits_le (hx : Datum.ofFloat x = .finite false m)
    (hy : Datum.ofFloat y = .finite false m') : x ≤ y ↔ m.bits ≤ m'.bits := by
  have hle : x ≤ y ↔ x.toModel.unpack.le y.toModel.unpack = true := decide_eq_true_iff
  rw [hle, unpack_eq_unpacked, unpack_eq_unpacked, hx, hy, UnpackedFloat.le,
    compare_unpacked (isDouble_of_finite hx).1 (isDouble_of_finite hy).1, Option.any_some,
    ← Ordering.ne_gt_iff_isLE]
  exact compare_le_iff_le

end Finite

/-! ### Rounding keeps the order -/

theorem le_roundEven {n d bound : ℕ} (hd : 0 < d) (h : bound * d ≤ n) : bound ≤ roundEven n d := by
  have hle : bound ≤ n / d := (Nat.le_div_iff_mul_le hd).mpr h
  rcases roundEven_eq_or n d with heq | heq <;> omega

theorem roundEven_mono_left {n n' : ℕ} (d : ℕ) (h : n ≤ n') : roundEven n d ≤ roundEven n' d := by
  rcases Nat.lt_or_ge (n / d) (n' / d) with hlt | hge
  · rcases roundEven_eq_or n d with heq | heq <;> rcases roundEven_eq_or n' d with heq' | heq' <;>
      omega
  · -- both have the same whole part, and the second one the greater remainder
    have hquotient : n / d = n' / d := le_antisymm (Nat.div_le_div_right h) hge
    have hremainder : n % d ≤ n' % d := by
      have := Nat.div_add_mod n d
      have := Nat.div_add_mod n' d
      rw [hquotient] at *
      omega
    unfold roundEven
    rw [hquotient]
    dsimp only
    split_ifs <;> omega

/-- A rounded quotient grows with the fraction. -/
theorem roundEven_mono {n d n' d' : ℕ} (hd : 0 < d) (hd' : 0 < d') (h : n * d' ≤ n' * d) :
    roundEven n d ≤ roundEven n' d' := by
  rw [← roundEven_mul_right n d hd', ← roundEven_mul_right n' d' hd, Nat.mul_comm d' d]
  exact roundEven_mono_left _ h

/-- Counted in its last place, a fraction has 53 bits, unless it is too small for that. -/
theorem le_of_lastPlace {n d : ℕ} (hn : 0 < n) (hd : 0 < d) (hplace : -1074 < lastPlace n d) :
    2 ^ 52 * (d * 2 ^ (lastPlace n d).toNat) ≤ n * 2 ^ (-lastPlace n d).toNat := by
  have hd' : (0 : ℚ) < d := by exact_mod_cast hd
  have hpos : (0 : ℚ) < n / d := div_pos (by exact_mod_cast hn) hd'
  have heq := lastPlace_eq hn hd
  by_contra h
  rw [not_le, ← Nat.mul_assoc, mul_two_pow_lt_iff n (Nat.mul_pos (by decide) hd)] at h
  have hlt : (n : ℚ) / d < 2 ^ (lastPlace n d + 52) := by
    rw [zpow_add₀ two_ne_zero]
    push_cast at h
    rw [div_lt_iff₀ (by positivity)] at h
    rw [div_lt_iff₀ hd']
    calc (n : ℚ) < 2 ^ lastPlace n d * (2 ^ 52 * d) := h
      _ = 2 ^ lastPlace n d * 2 ^ (52 : ℤ) * d := by norm_num; ring
  have hlog := (Int.lt_zpow_iff_log_lt (b := 2) (by decide) hpos).mp (by exact_mod_cast hlt)
  omega

theorem lastPlace_mono {n d n' d' : ℕ} (hn : 0 < n) (hd : 0 < d) (hd' : 0 < d')
    (h : n * d' ≤ n' * d) : lastPlace n d ≤ lastPlace n' d' := by
  have hn' : 0 < n' := Nat.pos_of_mul_pos_right (lt_of_lt_of_le (Nat.mul_pos hn hd') h)
  have hpos : (0 : ℚ) < n / d := div_pos (by exact_mod_cast hn) (by exact_mod_cast hd)
  have hle : (n : ℚ) / d ≤ n' / d' := by
    rw [div_le_div_iff₀ (by exact_mod_cast hd) (by exact_mod_cast hd')]
    exact_mod_cast h
  rw [lastPlace_eq hn hd, lastPlace_eq hn' hd']
  have := Int.log_mono_right (b := 2) hpos hle
  omega

/-- The nearest double grows with the fraction. -/
theorem nearestBits_mono {n d n' d' : ℕ} (hd : 0 < d) (hd' : 0 < d') (h : n * d' ≤ n' * d) :
    nearestBits n d ≤ nearestBits n' d' := by
  rcases Nat.eq_zero_or_pos n with rfl | hn
  · rw [nearestBits, if_pos rfl]
    exact Nat.zero_le _
  have hn' : 0 < n' := Nat.pos_of_mul_pos_right (lt_of_lt_of_le (Nat.mul_pos hn hd') h)
  have hplace := lastPlace_mono hn hd hd' h
  have hlow : -1074 ≤ lastPlace n d := by
    rw [lastPlace_eq hn hd]
    exact le_max_right ..
  rw [nearestBits.eq_def n', if_neg hn'.ne']
  dsimp only
  split
  · exact nearestBits_le n hd
  next hfinite =>
    rw [nearestBits, if_neg hn.ne']
    dsimp only
    rw [if_neg (by omega), Magnitude.bits_eq, Magnitude.bits_eq]
    dsimp only
    simp only [Nat.pow_eq]
    rcases hplace.eq_or_lt with heq | hlt
    · rw [heq]
      refine Nat.add_le_add_left (roundEven_mono (Nat.mul_pos hd (Nat.two_pow_pos _))
        (Nat.mul_pos hd' (Nat.two_pow_pos _)) ?_) _
      rw [Nat.mul_mul_mul_comm, Nat.mul_mul_mul_comm n']
      exact Nat.mul_le_mul_right _ h
    · -- the second double has all of its bits, and the first one at most one more
      have hhigh := roundEven_le (lt_of_lastPlace n hd)
      have hfull := le_roundEven (Nat.mul_pos hd' (Nat.two_pow_pos _))
        (le_of_lastPlace hn' hd' (by omega))
      omega

end LineCalculator
