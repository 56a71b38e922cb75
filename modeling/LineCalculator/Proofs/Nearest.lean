/-
The nearest double.

A fraction is rounded in the last place that a double near it has.  That place, and with it the
double, depends on the value of the fraction alone; so a double is the nearest one to itself,
however its value is written.  A natural number of at most 53 bits is a double, and the nearest
double to any natural number is whole.

* `lastPlace_eq` — the last place, by the logarithm of the value;
* `nearestBits_congr` — equal fractions have one nearest double;
* `Magnitude.IsDouble.nearestBits_eq` — a double is the nearest one to itself;
* `Magnitude.IsDouble.exists_natural?` — the nearest double to a natural number is whole;
* `isDouble_of_finite`, `infinite_of_ofFloat` — a double is put together again from its parts;
* `unpack_eq_unpacked` — what the operations on doubles see of a double is what it stands for.
-/
import LineCalculator.Proofs.Signs

open Float.Model Float.Model.UnpackedFloat

namespace LineCalculator

/-! ### The last place -/

theorem zpow_eq_div (b : ℚ) (k : ℤ) : b ^ k = b ^ k.toNat / b ^ (-k).toNat := by
  obtain ⟨j, rfl | rfl⟩ := Int.eq_nat_or_neg k <;> simp

/-- A fraction compared with a power of two, without fractions. -/
theorem mul_two_pow_lt_iff (n : ℕ) {d : ℕ} (hd : 0 < d) (k : ℤ) :
    n * 2 ^ (-k).toNat < d * 2 ^ k.toNat ↔ (n : ℚ) / d < 2 ^ k := by
  have hd' : (0 : ℚ) < d := by exact_mod_cast hd
  rw [zpow_eq_div, div_lt_div_iff₀ hd' (by positivity), ← Nat.cast_lt (α := ℚ)]
  push_cast
  rw [mul_comm (2 ^ k.toNat : ℚ)]

theorem log_fraction_bounds {n d : ℕ} (hn : 0 < n) (hd : 0 < d) :
    (n.log2 : ℤ) - d.log2 - 1 ≤ Int.log 2 ((n : ℚ) / d) ∧
      Int.log 2 ((n : ℚ) / d) ≤ (n.log2 : ℤ) - d.log2 := by
  have hn' : (0 : ℚ) < n := by exact_mod_cast hn
  have hd' : (0 : ℚ) < d := by exact_mod_cast hd
  have hpos : (0 : ℚ) < n / d := div_pos hn' hd'
  have hn₁ : (2 : ℚ) ^ n.log2 ≤ n := by exact_mod_cast Nat.log2_self_le hn.ne'
  have hn₂ : (n : ℚ) < 2 ^ (n.log2 + 1) := by exact_mod_cast Nat.lt_log2_self
  have hd₁ : (2 : ℚ) ^ d.log2 ≤ d := by exact_mod_cast Nat.log2_self_le hd.ne'
  have hd₂ : (d : ℚ) < 2 ^ (d.log2 + 1) := by exact_mod_cast Nat.lt_log2_self
  constructor
  · rw [← Int.zpow_le_iff_le_log (by decide) hpos, le_div_iff₀ hd']
    calc ((2 : ℕ) : ℚ) ^ ((n.log2 : ℤ) - d.log2 - 1) * d
        ≤ 2 ^ ((n.log2 : ℤ) - d.log2 - 1) * 2 ^ (d.log2 + 1) := by
          push_cast
          gcongr
      _ = 2 ^ n.log2 := by
          rw [← zpow_natCast, ← zpow_add₀ two_ne_zero, ← zpow_natCast]
          congr 1
          push_cast
          ring
      _ ≤ n := hn₁
  · rw [← Int.lt_add_one_iff, ← Int.lt_zpow_iff_log_lt (by decide) hpos, div_lt_iff₀ hd']
    calc (n : ℚ) < 2 ^ (n.log2 + 1) := hn₂
      _ = 2 ^ ((n.log2 : ℤ) - d.log2 + 1) * 2 ^ d.log2 := by
          rw [← zpow_natCast, ← zpow_natCast, ← zpow_add₀ two_ne_zero]
          congr 1
          push_cast
          ring
      _ ≤ ((2 : ℕ) : ℚ) ^ ((n.log2 : ℤ) - d.log2 + 1) * d := by
          push_cast
          gcongr

/-- The last place lies 52 places below the leading bit. -/
theorem lastPlace_eq {n d : ℕ} (hn : 0 < n) (hd : 0 < d) :
    lastPlace n d = max (Int.log 2 ((n : ℚ) / d) - 52) (-1074) := by
  obtain ⟨hlow, hhigh⟩ := log_fraction_bounds hn hd
  have hpos : (0 : ℚ) < n / d := div_pos (by exact_mod_cast hn) (by exact_mod_cast hd)
  have hlt := mul_two_pow_lt_iff n hd ((n.log2 : ℤ) - d.log2)
  have hlog := Int.lt_zpow_iff_log_lt (b := 2) (by decide) (x := (n.log2 : ℤ) - d.log2) hpos
  push_cast at hlog
  rw [lastPlace]
  simp only [Nat.pow_eq]
  split
  next h =>
    have := hlog.mp (hlt.mp h)
    congr 2
    omega
  next h =>
    have := mt hlog.mpr (mt hlt.mpr h)
    congr 2
    omega

/-! ### Rounding -/

theorem roundEven_mul_right (n d : ℕ) {c : ℕ} (hc : 0 < c) :
    roundEven (n * c) (d * c) = roundEven n d := by
  have hlt (a b : ℕ) : 2 * (a * c) < b * c ↔ 2 * a < b := by
    rw [← Nat.mul_assoc, Nat.mul_lt_mul_right hc]
  have hgt (a b : ℕ) : b * c < 2 * (a * c) ↔ b < 2 * a := by
    rw [← Nat.mul_assoc, Nat.mul_lt_mul_right hc]
  unfold roundEven
  rw [Nat.mul_div_mul_right _ _ hc, Nat.mul_mod_mul_right]
  simp only [hlt, hgt]

/-- The rounded quotient of equal fractions is the same. -/
theorem roundEven_congr {n d n' d' : ℕ} (hd : 0 < d) (hd' : 0 < d') (h : n * d' = n' * d) :
    roundEven n d = roundEven n' d' := by
  rw [← roundEven_mul_right n d hd', ← roundEven_mul_right n' d' hd, h, Nat.mul_comm d d']

/-- A rounded quotient is one of the two whole numbers next to it. -/
theorem roundEven_eq_or (n d : ℕ) : roundEven n d = n / d ∨ roundEven n d = n / d + 1 := by
  unfold roundEven
  dsimp only
  split
  · exact .inl rfl
  · split
    · exact .inr rfl
    · rcases Nat.mod_two_eq_zero_or_one (n / d) with h | h <;> rw [h]
      · exact .inl rfl
      · exact .inr rfl

/-- A quotient that is whole is not changed. -/
theorem roundEven_of_mul (s : ℕ) {d : ℕ} (hd : 0 < d) : roundEven (s * d) d = s := by
  have h := roundEven_mul_right s 1 hd
  rw [Nat.one_mul] at h
  rw [h]
  simp [roundEven, Nat.mod_one]

/-- The nearest double depends on the value of a fraction alone. -/
theorem nearestBits_congr {n d n' d' : ℕ} (hd : 0 < d) (hd' : 0 < d') (h : n * d' = n' * d) :
    nearestBits n d = nearestBits n' d' := by
  by_cases hn : n = 0
  · have hn' : n' = 0 := by
      rw [hn, Nat.zero_mul] at h
      exact (Nat.mul_eq_zero.mp h.symm).resolve_right hd.ne'
    rw [nearestBits, nearestBits, if_pos hn, if_pos hn']
  · have hn' : n' ≠ 0 := by
      rintro rfl
      rw [Nat.zero_mul] at h
      exact (Nat.mul_pos (Nat.pos_of_ne_zero hn) hd').ne' h
    have hvalue : (n : ℚ) / d = n' / d' := by
      rw [div_eq_div_iff (by exact_mod_cast hd.ne') (by exact_mod_cast hd'.ne')]
      exact_mod_cast h
    have hplace : lastPlace n d = lastPlace n' d' := by
      rw [lastPlace_eq (Nat.pos_of_ne_zero hn) hd, lastPlace_eq (Nat.pos_of_ne_zero hn') hd',
        hvalue]
    rw [nearestBits, nearestBits, if_neg hn, if_neg hn', hplace]
    dsimp only
    split
    · rfl
    · congr 2
      refine roundEven_congr (Nat.mul_pos hd (Nat.two_pow_pos _))
        (Nat.mul_pos hd' (Nat.two_pow_pos _)) ?_
      rw [Nat.mul_mul_mul_comm, h, Nat.mul_mul_mul_comm]

/-! ### Doubles -/

namespace Magnitude

/-- Whether a magnitude is that of a finite double, written with its last place. -/
structure IsDouble (m : Magnitude) : Prop where
  lt : m.significand < 2 ^ 53
  normal : 2 ^ 52 ≤ m.significand ∨ m.exponent = -1074
  ge : -1074 ≤ m.exponent
  le : m.exponent ≤ 971

/-- The exact value of a magnitude. -/
def value (m : Magnitude) : ℚ := m.significand * 2 ^ m.exponent

theorem numerator_eq (m : Magnitude) : m.numerator = m.significand * 2 ^ m.exponent.toNat := rfl

theorem denominator_eq (m : Magnitude) : m.denominator = 2 ^ (-m.exponent).toNat := rfl

theorem fraction_eq_value (m : Magnitude) : (m.numerator : ℚ) / m.denominator = m.value := by
  rw [numerator_eq, denominator_eq, value, zpow_eq_div]
  push_cast
  rw [mul_div_assoc]

theorem bits_eq (m : Magnitude) :
    m.bits = (m.exponent + 1074).toNat * 2 ^ 52 + m.significand := rfl

variable {m : Magnitude}

theorem log_value (hs : 2 ^ 52 ≤ m.significand) (hlt : m.significand < 2 ^ 53) :
    Int.log 2 m.value = 52 + m.exponent := by
  have hpow : (0 : ℚ) < 2 ^ m.exponent := by positivity
  have hlow : (2 ^ 52 : ℚ) ≤ m.significand := by exact_mod_cast hs
  have hhigh : (m.significand : ℚ) < 2 ^ 53 := by exact_mod_cast hlt
  have hpos : 0 < m.value := mul_pos (lt_of_lt_of_le (by norm_num) hlow) hpow
  have hle : 52 + m.exponent ≤ Int.log 2 m.value := by
    rw [← Int.zpow_le_iff_le_log (by decide) hpos]
    push_cast
    rw [zpow_add₀ two_ne_zero]
    exact mul_le_mul_of_nonneg_right (by exact_mod_cast hlow) hpow.le
  have hge : Int.log 2 m.value < 53 + m.exponent := by
    rw [← Int.lt_zpow_iff_log_lt (by decide) hpos]
    push_cast
    rw [zpow_add₀ two_ne_zero]
    exact mul_lt_mul_of_pos_right (by exact_mod_cast hhigh) hpow
  omega

theorem log_value_lt (hs : 0 < m.significand) (hlt : m.significand < 2 ^ 52) :
    Int.log 2 m.value < 52 + m.exponent := by
  have hpow : (0 : ℚ) < 2 ^ m.exponent := by positivity
  have hhigh : (m.significand : ℚ) < 2 ^ 52 := by exact_mod_cast hlt
  have hpos : 0 < m.value := mul_pos (by exact_mod_cast hs) hpow
  rw [← Int.lt_zpow_iff_log_lt (by decide) hpos]
  push_cast
  rw [zpow_add₀ two_ne_zero]
  exact mul_lt_mul_of_pos_right (by exact_mod_cast hhigh) hpow

/-- The last place of a double is where its significand ends. -/
theorem IsDouble.lastPlace_eq (hm : m.IsDouble) (hpos : 0 < m.significand) :
    lastPlace m.numerator m.denominator = m.exponent := by
  have hn : 0 < m.numerator := Nat.mul_pos hpos (Nat.two_pow_pos _)
  rw [LineCalculator.lastPlace_eq hn m.denominator_pos, fraction_eq_value]
  have hlow := hm.ge
  rcases Nat.lt_or_ge m.significand (2 ^ 52) with hlt | hge
  · have hexp := hm.normal.resolve_left (Nat.not_le.mpr hlt)
    have := log_value_lt hpos hlt
    omega
  · rw [log_value hge hm.lt]
    omega

/-- A double is the nearest one to itself. -/
theorem IsDouble.nearestBits_eq (hm : m.IsDouble) :
    nearestBits m.numerator m.denominator = m.bits := by
  rcases Nat.eq_zero_or_pos m.significand with hzero | hpos
  · have hn : m.numerator = 0 := by rw [numerator_eq, hzero, Nat.zero_mul]
    have hexp : m.exponent = -1074 := hm.normal.resolve_left (by rw [hzero]; decide)
    rw [nearestBits, if_pos hn, bits_eq, hzero, hexp]
    rfl
  · have hn : 0 < m.numerator := Nat.mul_pos hpos (Nat.two_pow_pos _)
    rw [nearestBits, if_neg hn.ne', hm.lastPlace_eq hpos]
    dsimp only
    rw [if_neg (not_lt.mpr hm.le)]
    -- scaled to its last place the fraction is the significand
    have hscaled : m.numerator * Nat.pow 2 (-m.exponent).toNat =
        m.significand * (m.denominator * Nat.pow 2 m.exponent.toNat) := by
      rw [numerator_eq, denominator_eq]
      exact (Nat.mul_assoc ..).trans (congrArg _ (Nat.mul_comm ..))
    have hround := roundEven_of_mul m.significand
      (Nat.mul_pos m.denominator_pos (Nat.two_pow_pos m.exponent.toNat))
    exact congrArg (fun s => bits ⟨s, m.exponent⟩) ((congrArg (roundEven · _) hscaled).trans hround)

/-- Equal fractions are rounded to the double that one of them is. -/
theorem IsDouble.nearestBits_eq_of_mul (hm : m.IsDouble) {n d : ℕ} (hd : 0 < d)
    (h : n * m.denominator = m.numerator * d) : nearestBits n d = m.bits := by
  rw [nearestBits_congr hd m.denominator_pos h, hm.nearestBits_eq]

/-- The natural number that a double is rounds to that double. -/
theorem IsDouble.nearestBits_natural (hm : m.IsDouble) {k : ℕ} (hk : m.natural? = some k) :
    nearestBits k 1 = m.bits := by
  refine hm.nearestBits_eq_of_mul one_pos ?_
  rw [natural?] at hk
  split at hk
  next hmod =>
    cases hk
    rw [Nat.mul_one, Nat.div_mul_cancel (Nat.dvd_of_mod_eq_zero hmod)]
  next => cases hk

theorem IsDouble.bits_inj {m m' : Magnitude} (hm : m.IsDouble) (hm' : m'.IsDouble)
    (h : m.bits = m'.bits) : m = m' := by
  obtain ⟨s, e⟩ := m
  obtain ⟨s', e'⟩ := m'
  obtain ⟨hlt, hnormal, hge, -⟩ := hm
  obtain ⟨hlt', hnormal', hge', -⟩ := hm'
  rw [bits_eq, bits_eq] at h
  dsimp only at *
  have hs : s = s' := by omega
  have he : e = e' := by omega
  rw [hs, he]

end Magnitude

/-! ### Natural numbers -/

section Natural

variable {k : ℕ}

theorem lastPlace_natural (hk : 0 < k) : lastPlace k 1 = max ((Nat.log 2 k : ℤ) - 52) (-1074) := by
  rw [lastPlace_eq hk one_pos, Nat.cast_one, div_one, Int.log_natCast]

/-- A natural number from `2 ^ i` on has at least `i` in the exponent field of its double. -/
theorem le_nearestBits_natural {i : ℕ} (hi : i ≤ 1024) (h : 2 ^ i ≤ k) :
    (i + 1022) * 2 ^ 52 ≤ nearestBits k 1 := by
  have hk : 0 < k := lt_of_lt_of_le (Nat.two_pow_pos i) h
  have hlog : i ≤ Nat.log 2 k := Nat.le_log_of_pow_le one_lt_two h
  rw [nearestBits, if_neg hk.ne', lastPlace_natural hk]
  dsimp only
  split
  · rw [infinityBits, Nat.pow_eq]
    omega
  · rw [Magnitude.bits_eq]
    dsimp only
    omega

theorem nearestBits_natural_le {i : ℕ} (h : k < 2 ^ (i + 1)) :
    nearestBits k 1 ≤ (i + 1024) * 2 ^ 52 := by
  rcases Nat.eq_zero_or_pos k with rfl | hk
  · rw [nearestBits, if_pos rfl]
    exact Nat.zero_le _
  · have hlog : Nat.log 2 k < i + 1 := Nat.log_lt_of_lt_pow hk.ne' h
    have hround := roundEven_le (lt_of_lastPlace k one_pos)
    rw [nearestBits, if_neg hk.ne']
    dsimp only
    split
    next hplace =>
      rw [lastPlace_natural hk] at hplace
      rw [infinityBits, Nat.pow_eq]
      omega
    next hplace =>
      rw [Magnitude.bits_eq]
      rw [lastPlace_natural hk] at hplace hround ⊢
      simp only [Nat.pow_eq] at hround ⊢
      omega

end Natural

namespace Magnitude

variable {m : Magnitude}

theorem natural?_eq_some {j : ℕ} (h : m.numerator = j * m.denominator) : m.natural? = some j := by
  rw [natural?, h, Nat.mul_mod_left, if_pos rfl, Nat.mul_div_cancel _ m.denominator_pos]

theorem exists_natural?_of_exponent_nonneg (h : 0 ≤ m.exponent) : ∃ j, m.natural? = some j := by
  refine ⟨m.numerator, natural?_eq_some ?_⟩
  rw [denominator_eq, Int.toNat_of_nonpos (by omega), pow_zero, Nat.mul_one]

/-- A natural number of at most 53 bits is a double. -/
theorem exists_isDouble_natural {k : ℕ} (hk : k < 2 ^ 53) :
    ∃ m : Magnitude, m.IsDouble ∧ m.natural? = some k := by
  rcases Nat.eq_zero_or_pos k with rfl | hpos
  · refine ⟨⟨0, -1074⟩, ⟨by decide, .inr rfl, le_rfl, by decide⟩, natural?_eq_some ?_⟩
    rw [numerator_eq, Nat.zero_mul, Nat.zero_mul]
  · have hlog : Nat.log 2 k < 53 := Nat.log_lt_of_lt_pow hpos.ne' hk
    have hlow : 2 ^ Nat.log 2 k ≤ k := Nat.pow_log_le_self 2 hpos.ne'
    have hhigh : k < 2 ^ (Nat.log 2 k + 1) := Nat.lt_pow_succ_log_self one_lt_two k
    generalize Nat.log 2 k = i at *
    -- the significand is the number with its leading bit shifted to the 53rd place
    have hshift (a b : ℕ) : 2 ^ a * 2 ^ b = 2 ^ (a + b) := (pow_add 2 a b).symm
    refine ⟨⟨k * 2 ^ (52 - i), (i : ℤ) - 52⟩, ⟨?_, .inl ?_, ?_, ?_⟩, natural?_eq_some ?_⟩
    · calc k * 2 ^ (52 - i) < 2 ^ (i + 1) * 2 ^ (52 - i) :=
            Nat.mul_lt_mul_of_pos_right hhigh (Nat.two_pow_pos _)
        _ = 2 ^ 53 := by rw [hshift]; congr 1; omega
    · calc 2 ^ 52 = 2 ^ i * 2 ^ (52 - i) := by rw [hshift]; congr 1; omega
        _ ≤ k * 2 ^ (52 - i) := Nat.mul_le_mul_right _ hlow
    · show (-1074 : ℤ) ≤ i - 52
      omega
    · show (i : ℤ) - 52 ≤ 971
      omega
    · rw [numerator_eq, denominator_eq]
      have hexp : ((i : ℤ) - 52).toNat = 0 := by omega
      have hneg : (-((i : ℤ) - 52)).toNat = 52 - i := by omega
      rw [hexp, hneg, pow_zero, Nat.mul_one]

/-- The double nearest to a natural number is whole. -/
theorem IsDouble.exists_natural? (hm : m.IsDouble) {k : ℕ} (hk : nearestBits k 1 = m.bits) :
    ∃ j, m.natural? = some j := by
  by_cases hexp : 0 ≤ m.exponent
  · exact exists_natural?_of_exponent_nonneg hexp
  · have hbits : m.bits < 1075 * 2 ^ 52 := by
      have := hm.lt
      rw [bits_eq]
      omega
    -- with more bits the number would be at `2 ^ 53` or above, and so would its double
    have hsmall : k < 2 ^ 53 := by
      by_contra hlarge
      have := le_nearestBits_natural (i := 53) (by decide) (Nat.le_of_not_lt hlarge)
      omega
    obtain ⟨m', hm', hk'⟩ := exists_isDouble_natural hsmall
    rw [hm'.nearestBits_natural hk'] at hk
    exact ⟨k, (hm'.bits_inj hm hk) ▸ hk'⟩

end Magnitude

/-! ### Bits -/

/-- The double with a sign and the bits of a magnitude. -/
def signedDouble (negative : Bool) (bits : ℕ) : Float :=
  Float.ofBits (UInt64.ofNat (if negative then Nat.pow 2 63 + bits else bits))

/-- A double is put together again from its sign, its exponent field and its fraction. -/
theorem signedDouble_split (x : Float) :
    signedDouble (decide (Nat.pow 2 63 ≤ x.toBits.toNat))
      (x.toBits.toNat / Nat.pow 2 52 % Nat.pow 2 11 * 2 ^ 52 + x.toBits.toNat % Nat.pow 2 52) =
        x := by
  have hlt : x.toBits.toNat < 2 ^ 64 := x.toBits.toNat_lt
  rw [signedDouble]
  simp only [Nat.pow_eq, decide_eq_true_eq]
  have hbits : (if 2 ^ 63 ≤ x.toBits.toNat then
        2 ^ 63 + (x.toBits.toNat / 2 ^ 52 % 2 ^ 11 * 2 ^ 52 + x.toBits.toNat % 2 ^ 52)
      else x.toBits.toNat / 2 ^ 52 % 2 ^ 11 * 2 ^ 52 + x.toBits.toNat % 2 ^ 52) =
        x.toBits.toNat := by
    split <;> omega
  rw [hbits, UInt64.ofNat_toNat, Float.ofBits_toBits]

/-- A finite double has a magnitude of its own, and is put together again from that and its sign. -/
theorem isDouble_of_finite {x : Float} {negative : Bool} {m : Magnitude}
    (h : Datum.ofFloat x = .finite negative m) :
    m.IsDouble ∧ signedDouble negative m.bits = x := by
  have hsplit := signedDouble_split x
  unfold Datum.ofFloat at h
  extract_lets bits sign field fraction at h
  have hfraction : fraction < 2 ^ 52 := Nat.mod_lt _ (by decide)
  have hfield : field < 2 ^ 11 := Nat.mod_lt _ (by decide)
  change signedDouble sign (field * 2 ^ 52 + fraction) = x at hsplit
  split at h
  · split at h <;> cases h
  · suffices hm : m.IsDouble ∧ m.bits = field * 2 ^ 52 + fraction ∧ sign = negative by
      obtain ⟨hm, hbits, rfl⟩ := hm
      exact ⟨hm, hbits ▸ hsplit⟩
    -- the exponent field of a subnormal is zero; of any other double it holds the leading bit
    split at h
    next hzero =>
      obtain ⟨hsign, rfl⟩ := Datum.finite.inj h
      refine ⟨⟨?_, .inr rfl, le_rfl, ?_⟩, ?_, hsign⟩
      · show fraction < 2 ^ 53
        omega
      · show (-1074 : ℤ) ≤ 971
        decide
      · rw [hzero]
        rfl
    next hzero =>
      obtain ⟨hsign, rfl⟩ := Datum.finite.inj h
      refine ⟨⟨?_, .inl (Nat.le_add_right ..), ?_, ?_⟩, ?_, hsign⟩
      · show 2 ^ 52 + fraction < 2 ^ 53
        omega
      · show -1074 ≤ (field : ℤ) - 1075
        omega
      · show (field : ℤ) - 1075 ≤ 971
        omega
      · show ((field : ℤ) - 1075 + 1074).toNat * 2 ^ 52 + (2 ^ 52 + fraction) = _
        omega

theorem infinite_of_ofFloat {x : Float} {negative : Bool}
    (h : Datum.ofFloat x = .infinity negative) : infinite negative = x := by
  have hsplit := signedDouble_split x
  unfold Datum.ofFloat at h
  extract_lets bits sign field fraction at h
  change signedDouble sign (field * 2 ^ 52 + fraction) = x at hsplit
  split at h
  next hfield =>
    split at h
    next hfraction =>
      obtain rfl := Datum.infinity.inj h
      rw [← hsplit, hfield, hfraction]
      cases sign <;> rfl
    · cases h
  next => split at h <;> cases h

/-! ### Unpacked doubles -/

/-- The sign of a value whose sign bit is set or not. -/
def signOfBit (negative : Bool) : Sign :=
  if negative then .negative else .positive

/-- What a double stands for, as the operations on doubles see it. -/
def Datum.unpacked : Datum → UnpackedFloat
  | nan => .notANumber
  | infinity negative => .infinity (signOfBit negative)
  | finite negative m =>
    if h : 0 < m.significand then .finite (signOfBit negative) m.significand m.exponent h
    else .zero (signOfBit negative)

theorem toNat_unpackExponent (b : BitVec Format.binary64.numBits) :
    (unpackExponent b).toNat = b.toNat / 2 ^ 52 % 2 ^ 11 := by
  rw [unpackExponent_def, BitVec.extractLsb'_toNat, Nat.shiftRight_eq_div_pow]

theorem toNat_unpackMantissa (b : BitVec Format.binary64.numBits) :
    (unpackMantissa b).toNat = b.toNat % 2 ^ 52 := by
  rw [unpackMantissa_def, BitVec.extractLsb'_toNat, Nat.shiftRight_eq_div_pow]
  show b.toNat / 2 ^ 0 % 2 ^ 52 = _
  rw [Nat.pow_zero, Nat.div_one]

theorem ofBitVec_unpackSign (b : BitVec Format.binary64.numBits) :
    Sign.ofBitVec (unpackSign b) = signOfBit (decide (2 ^ 63 ≤ b.toNat)) := by
  have hb : b.toNat < 2 ^ 64 := b.isLt
  have hsign : unpackSign b = 0#1 ↔ ¬ 2 ^ 63 ≤ b.toNat := by
    rw [← BitVec.toNat_inj, toNat_unpackSign]
    show _ = 0 ↔ _
    omega
  rw [Sign.ofBitVec, signOfBit]
  by_cases h : 2 ^ 63 ≤ b.toNat
  · rw [if_neg (mt hsign.mp (not_not.mpr h)), if_pos (decide_eq_true h)]
  · rw [if_pos (hsign.mpr h), if_neg (by simpa using h)]

theorem unpackedFinite_congr {s : Sign} {m m' : Nat} {e e' : Int} {h : 0 < m} {h' : 0 < m'}
    (hm : m = m') (he : e = e') : UnpackedFloat.finite s m e h = .finite s m' e' h' := by
  subst hm he
  rfl

/-- A double is unpacked into what it stands for. -/
theorem unpack_eq_unpacked (x : Float) : x.toModel.unpack = (Datum.ofFloat x).unpacked := by
  show UnpackedFloat.unpack .binary64 x.toBits.toBitVec = _
  unfold UnpackedFloat.unpack Datum.ofFloat
  generalize hb : x.toBits.toBitVec = b
  have hbits : x.toBits.toNat = b.toNat := by rw [← hb]; rfl
  rw [hbits]
  extract_lets mantissaVec exponentVec exponent signVec sign bits negative field fraction
  have hsign : sign = signOfBit negative := ofBitVec_unpackSign b
  have hfield : exponentVec.toNat = field := toNat_unpackExponent b
  have hfraction : mantissaVec.toNat = fraction := toNat_unpackMantissa b
  have hones : exponentVec = -1#_ ↔ field = 2047 := by
    rw [← BitVec.toNat_inj, hfield]
    rfl
  have hzero : exponentVec = 0#_ ↔ field = 0 := by
    rw [← BitVec.toNat_inj, hfield]
    rfl
  have hmantissa : mantissaVec = 0#_ ↔ fraction = 0 := by
    rw [← BitVec.toNat_inj, hfraction]
    rfl
  rw [hsign]
  by_cases h₁ : field = 2047
  · rw [if_pos (hones.mpr h₁), if_pos h₁]
    by_cases h₂ : fraction = 0
    · rw [if_pos (hmantissa.mpr h₂), if_pos h₂]
      rfl
    · rw [if_neg (mt hmantissa.mp h₂), if_neg h₂]
      rfl
  rw [if_neg (mt hones.mp h₁), if_neg h₁]
  by_cases h₂ : field = 0
  · rw [if_pos (hzero.mpr h₂), if_pos h₂]
    by_cases h₃ : fraction = 0
    · rw [dif_pos (hmantissa.mpr h₃), h₃]
      rfl
    · rw [dif_neg (mt hmantissa.mp h₃), Datum.unpacked, dif_pos (Nat.pos_of_ne_zero h₃)]
      refine unpackedFinite_congr hfraction ?_
      show (exponentVec.toNat : Int) - 1075 + 1 = -1074
      rw [hfield, h₂]
      rfl
  · rw [if_neg (mt hzero.mp h₂), if_neg h₂, Datum.unpacked, dif_pos (by simp)]
    refine unpackedFinite_congr ?_ ?_
    · -- the leading bit stands in front of the fraction
      rw [BitVec.toNat_append, hfraction, ← Nat.shiftLeft_add_eq_or_of_lt]
      · rfl
      · exact Nat.mod_lt _ (by decide)
    · show (exponentVec.toNat : Int) - 1075 = field - 1075
      rw [hfield]

theorem ofFloat_eq_nan_iff {x : Float} : Datum.ofFloat x = .nan ↔ x.isNaN = true := by
  have hnan : x.isNaN = true ↔ x.toModel.unpack = .notANumber := isNaN_iff
  rw [hnan, unpack_eq_unpacked]
  cases Datum.ofFloat x with
  | nan => exact iff_of_true rfl rfl
  | infinity negative => exact iff_of_false nofun nofun
  | finite negative m =>
    refine iff_of_false nofun ?_
    rw [Datum.unpacked]
    split <;> exact nofun

end LineCalculator
