/-
Rounding and the zeros.

A finite value is rounded to a significand of at most 53 bits, with the last place at `2 ^ -1074` or
above.  A value that is not zero, and whose own last place is there or above, is never rounded to
zero: it loses bits only where it has more than 53.  So a sum of doubles is the negative zero only
if its first summand is.

* `isRounded_round` — what is not zero is rounded to a finite double that is not zero;
* `eq_zero_of_pack_eq` — such a double does not have the bits of a zero;
* `add_eq_negative_zero` — a sum that is the negative zero has it as its first summand.
-/
import Mathlib

open Float.Model Float.Model.UnpackedFloat

namespace LineCalculator

/-! ### Finite doubles -/

/-- Whether a value, if finite, has a significand of at most 53 bits and its last place at
`2 ^ -1074` or above. -/
def IsRounded : UnpackedFloat → Prop
  | .finite _ m e _ => m < 2 ^ 53 ∧ -1074 ≤ e
  | _ => True

theorem targetExponent_binary64 (n : Int) :
    Format.binary64.targetExponent n = max (n - 53) (-1074) := rfl

theorem isRounded_unpack (b : BitVec Format.binary64.numBits) :
    IsRounded (UnpackedFloat.unpack Format.binary64 b) := by
  unfold UnpackedFloat.unpack
  extract_lets mantissa exponentBits exponent signBit sign
  have hm : mantissa.toNat < 2 ^ 52 := mantissa.isLt
  have he : exponent = (exponentBits.toNat : Int) - 1075 := rfl
  split
  · split <;> trivial
  · split
    · split
      · trivial
      · -- a subnormal double, in the last place of all
        refine ⟨by omega, ?_⟩
        omega
    next hzero =>
      have hpos : exponentBits.toNat ≠ 0 := fun h => hzero (BitVec.toNat_inj.mp h)
      refine ⟨?_, by omega⟩
      -- the leading bit is left out in the packed form
      exact (1#1 ++ mantissa).isLt

theorem packComponents_inj {spec : Format} {s s' : Sign} {e e' : BitVec spec.exponentBits}
    {m m' : BitVec spec.mantissaBitsWithoutImplicit}
    (h : packComponents spec s e m = packComponents spec s' e' m') : s = s' ∧ e = e' ∧ m = m' := by
  have hs := congrArg unpackSign h
  have he := congrArg unpackExponent h
  have hm := congrArg unpackMantissa h
  rw [unpackSign_packComponents, unpackSign_packComponents] at hs
  rw [unpackExponent_packComponents, unpackExponent_packComponents] at he
  rw [unpackMantissa_packComponents, unpackMantissa_packComponents] at hm
  have hs' := congrArg Sign.ofBitVec hs
  rw [Sign.ofBitVec_toBitVec, Sign.ofBitVec_toBitVec] at hs'
  exact ⟨hs', he, hm⟩

/-- A finite double that is not zero does not have the bits of a zero. -/
theorem pack_finite_ne_packedZero {s s' : Sign} {m : Nat} {e : Int} {hpos : 0 < m}
    (hr : IsRounded (.finite s' m e hpos)) :
    UnpackedFloat.pack Format.binary64 (.finite s' m e hpos) ≠ packedZero Format.binary64 s := by
  intro h
  obtain ⟨hm, he⟩ := hr
  unfold UnpackedFloat.pack at h
  extract_lets bits field at h
  have hfield : (field : Int) = e + 1075 := by
    show ((e + (1023 : Nat) + (52 : Nat)).toNat : Int) = _
    omega
  split at h
  · exact absurd (packComponents_inj h).2.1 (by decide)
  next hfinite =>
    have hlarge : field + 1 < 2 ^ 11 := Nat.not_le.mp hfinite
    split at h
    · -- the exponent field of a normal double is not zero
      have hzero := congrArg BitVec.toNat (packComponents_inj h).2.1
      rw [BitVec.toNat_ofNat, Nat.mod_eq_of_lt (by omega)] at hzero
      change field = 0 at hzero
      omega
    next hbits =>
      -- the significand of a subnormal double is not zero
      have hlog : m.log2 < 53 := (Nat.log2_lt hpos.ne').mpr hm
      have hsmall : m < 2 ^ 52 := by
        rw [← Nat.log2_lt hpos.ne']
        change ¬ m.log2 + 1 = 53 at hbits
        omega
      have hzero := congrArg BitVec.toNat (packComponents_inj h).2.2
      rw [BitVec.toNat_ofNat, Nat.mod_eq_of_lt hsmall] at hzero
      change m = 0 at hzero
      omega

/-- The bits of a zero are those of a zero alone. -/
theorem eq_zero_of_pack_eq {u : UnpackedFloat} {s : Sign} (hu : IsRounded u)
    (h : UnpackedFloat.pack Format.binary64 u = packedZero Format.binary64 s) : u = .zero s := by
  cases u with
  | notANumber => exact absurd (packComponents_inj h).2.1 (by decide)
  | infinity s' => exact absurd (packComponents_inj h).2.1 (by decide)
  | zero s' => rw [(packComponents_inj h).1]
  | finite s' m e hpos => exact absurd h (pack_finite_ne_packedZero hu)

/-! ### Rounding -/

theorem mantissa_shiftRight (em : ExtendedMantissa) (n : Nat) :
    (em >>> n).mantissa = em.mantissa / 2 ^ n := by
  induction n with
  | zero => exact (Nat.div_one _).symm
  | succ n ih =>
    show (em >>> n).mantissa / 2 = _
    rw [ih, Nat.div_div_eq_div_mul, Nat.pow_succ]

theorem mantissa_ofMantissaAndAccuracy (m : Nat) (acc : Accuracy) :
    (ExtendedMantissa.ofMantissaAndAccuracy m acc).mantissa = m := by
  unfold ExtendedMantissa.ofMantissaAndAccuracy
  split <;> rfl

theorem mantissa_le_roundedMantissa (em : ExtendedMantissa) : em.mantissa ≤ em.roundedMantissa := by
  unfold ExtendedMantissa.roundedMantissa Accuracy.roundToNearestEven
  split <;> omega

/-- Shifting to the target exponent takes off the bits beyond the first 53. -/
theorem shiftToTargetExponent_binary64 (m : Nat) {e : Int} (he : -1074 ≤ e) (acc : Accuracy) :
    shiftToTargetExponent Format.binary64 m e acc =
      (ExtendedMantissa.ofMantissaAndAccuracy m acc >>> (m.log2 - 52),
        e + (m.log2 - 52 : Nat)) := by
  have hshift : (max (m.log2 + 1 + e - 53) (-1074) - e).toNat = m.log2 - 52 := by omega
  rw [shiftToTargetExponent, targetExponent_binary64, totalExponent, shiftToExponent, hshift]

theorem div_pow_log2_pos {m : Nat} (hm : 0 < m) (n : Nat) : 0 < m / 2 ^ (m.log2 - n) := by
  refine Nat.div_pos ?_ (Nat.two_pow_pos _)
  calc 2 ^ (m.log2 - n) ≤ 2 ^ m.log2 := Nat.pow_le_pow_right (by decide) (Nat.sub_le _ _)
    _ ≤ m := Nat.log2_self_le hm.ne'

theorem div_pow_log2_lt (m n : Nat) : m / 2 ^ (m.log2 - n) < 2 ^ (n + 1) := by
  refine Nat.div_lt_of_lt_mul ?_
  calc m < 2 ^ (m.log2 + 1) := Nat.lt_log2_self
    _ ≤ 2 ^ (m.log2 - n + (n + 1)) := Nat.pow_le_pow_right (by decide) (by omega)
    _ = 2 ^ (m.log2 - n) * 2 ^ (n + 1) := Nat.pow_add ..

/-- What is not zero is rounded to a finite double that is not zero. -/
theorem isRounded_roundWithAccuracy (s : Sign) {m : Nat} {e : Int} (hm : 0 < m) (he : -1074 ≤ e)
    (acc : Accuracy) :
    ∃ m' e' h, roundWithAccuracy Format.binary64 s m e acc = .finite s m' e' h ∧
      IsRounded (.finite s m' e' h) := by
  rw [roundWithAccuracy, shiftToTargetExponent_binary64 m he]
  dsimp only
  generalize hem : ExtendedMantissa.ofMantissaAndAccuracy m acc >>> (m.log2 - 52) = em
  generalize hrounded : em.roundedMantissa = rounded
  have hrpos : 0 < rounded := by
    rw [← hrounded]
    refine Nat.lt_of_lt_of_le ?_ (mantissa_le_roundedMantissa em)
    rw [← hem, mantissa_shiftRight, mantissa_ofMantissaAndAccuracy]
    exact div_pow_log2_pos hm 52
  -- rounding up may give one bit more, which is taken off again
  rw [shiftToTargetExponent_binary64 rounded (by omega)]
  simp only [mantissa_shiftRight, mantissa_ofMantissaAndAccuracy]
  have hpos := div_pow_log2_pos hrpos 52
  rw [dif_neg hpos.ne']
  exact ⟨_, _, hpos, rfl, div_pow_log2_lt rounded 52, by omega⟩

theorem isRounded_round (s : Sign) {m : Nat} {e : Int} (hm : 0 < m) (he : -1074 ≤ e) :
    ∃ m' e' h, UnpackedFloat.round Format.binary64 s m e = .finite s m' e' h ∧
      IsRounded (.finite s m' e' h) := by
  rw [UnpackedFloat.round, decreaseExponent, targetExponent_binary64]
  refine isRounded_roundWithAccuracy s ?_ (by omega) .exact
  rw [Nat.shiftLeft_eq]
  exact Nat.mul_pos hm (Nat.two_pow_pos _)

/-! ### Sums -/

/-- A sum of finite values is rounded and is not the negative zero. -/
theorem isRounded_normalize {n e : Int} (he : -1074 ≤ e) :
    IsRounded (UnpackedFloat.normalize Format.binary64 n e .positive) ∧
      UnpackedFloat.normalize Format.binary64 n e .positive ≠ .zero .negative := by
  rw [UnpackedFloat.normalize]
  split
  next hlt =>
    have hneg := Int.compare_eq_lt.mp hlt
    obtain ⟨m', e', h, heq, hr⟩ := isRounded_round .negative (m := (-n).toNat) (by omega) he
    rw [heq]
    exact ⟨hr, by simp⟩
  · exact ⟨trivial, by simp⟩
  next hgt =>
    have hpos := Int.compare_eq_gt.mp hgt
    obtain ⟨m', e', h, heq, hr⟩ := isRounded_round .positive (m := n.toNat) (by omega) he
    rw [heq]
    exact ⟨hr, by simp⟩

/-- A difference is the sum with the second operand's sign reversed. -/
theorem unpackedSub_eq_add_neg (spec : Format) (a b : UnpackedFloat) :
    UnpackedFloat.sub spec a b = UnpackedFloat.add spec a b.neg := by
  cases a <;> cases b
  case finite.finite s₁ m₁ e₁ _ s₂ m₂ e₂ _ =>
    have hsign (n : Nat) : (-s₂).apply n = -s₂.apply n := by
      cases s₂
      · exact (Int.neg_neg _).symm
      · rfl
    simp only [UnpackedFloat.sub, UnpackedFloat.add, UnpackedFloat.neg, hsign, Int.sub_eq_add_neg]
  all_goals rfl

theorem isRounded_neg {a : UnpackedFloat} (ha : IsRounded a) : IsRounded a.neg := by
  cases a <;> exact ha

/-- A sum is rounded if the summands are, and it is the negative zero only if the first one is. -/
theorem add_eq_negative_zero {a b : UnpackedFloat} (ha : IsRounded a) (hb : IsRounded b) :
    IsRounded (UnpackedFloat.add Format.binary64 a b) ∧
      (UnpackedFloat.add Format.binary64 a b = .zero .negative → a = .zero .negative) := by
  cases a <;> cases b
  case finite.finite s₁ m₁ e₁ _ s₂ m₂ e₂ _ =>
    obtain ⟨hr, hne⟩ := isRounded_normalize (le_min ha.2 hb.2)
    exact ⟨hr, fun h => absurd h hne⟩
  case zero.zero s₁ s₂ =>
    refine ⟨?_, ?_⟩
    · rw [UnpackedFloat.add]
      split <;> trivial
    · -- zeros of different signs have the positive zero as their sum
      cases s₁ <;> cases s₂ <;> first | exact fun _ => rfl | exact nofun
  case zero.finite => exact ⟨hb, nofun⟩
  case finite.zero => exact ⟨ha, nofun⟩
  case infinity.infinity s₁ s₂ =>
    rw [UnpackedFloat.add]
    split <;> exact ⟨trivial, nofun⟩
  all_goals exact ⟨trivial, nofun⟩

end LineCalculator
