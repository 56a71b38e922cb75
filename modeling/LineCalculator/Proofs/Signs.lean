/-
Signs of doubles.

A double without a sign is not a number or has a clear sign bit.  Products, quotients and powers of
such doubles are of this kind again, and so is the value of every literal.  Sums are of another
kind: a difference may be negative, but it is the negative zero only if its first operand is.

* `unsigned_mul`, `unsigned_divide`, `unsigned_power` — operations on doubles without a sign, of
  which a power is asked of the machine;
* `not_recovers` — a power of such doubles never needs the branches for signed and invalid operands;
* `unsigned_value` — literals have no sign;
* `add_ne_negativeZero`, `sub_ne_negativeZero` — the negative zero does not come up in sums.
-/
import LineCalculator.Arithmetic
import LineCalculator.Proofs.Rounding
import LineCalculator.Token.Scan

open Float.Model Float.Model.UnpackedFloat

namespace LineCalculator

/-- Whether a double is not a number or has a clear sign bit. -/
def Unsigned (x : Float) : Prop := x.isNaN = true ∨ isNegative x = false

/-- The negative zero. -/
def negativeZero : Float := Float.ofBits 0x8000000000000000

/-! ### The sign bit -/

/-- The sign of a value; what is not a number counts as positive. -/
def signOf : UnpackedFloat → Sign
  | .notANumber => .positive
  | .infinity s => s
  | .zero s => s
  | .finite s _ _ _ => s

theorem unpackSign_pack (spec : Format) (u : UnpackedFloat) :
    unpackSign (UnpackedFloat.pack spec u) = (signOf u).toBitVec := by
  unfold UnpackedFloat.pack
  split
  · exact unpackSign_packComponents ..
  · exact unpackSign_packComponents ..
  · exact unpackSign_packComponents ..
  · dsimp only
    split
    · exact unpackSign_packComponents ..
    · split <;> exact unpackSign_packComponents ..

theorem toNat_unpackSign (b : BitVec Format.binary64.numBits) :
    (unpackSign b).toNat = b.toNat / 2 ^ 63 := by
  have hb : b.toNat < 2 ^ 64 := b.isLt
  rw [unpackSign_def, BitVec.extractLsb'_toNat, Nat.shiftRight_eq_div_pow]
  show b.toNat / 2 ^ 63 % 2 ^ 1 = _
  omega

theorem isNegative_eq_false_iff (x : Float) :
    isNegative x = false ↔ @unpackSign .binary64 x.toBits.toBitVec = 0#1 := by
  rw [isNegative, decide_eq_false_iff_not, ← BitVec.toNat_inj, toNat_unpackSign]
  show ¬ 2 ^ 63 ≤ x.toBits.toNat ↔ x.toBits.toNat / 2 ^ 63 = 0
  omega

/-- A double has the sign of the value that it was packed from. -/
theorem isNegative_ofModel_pack {u : UnpackedFloat} :
    isNegative (.ofModel (.pack u)) = false ↔ signOf u = .positive := by
  rw [isNegative_eq_false_iff]
  show unpackSign (UnpackedFloat.pack .binary64 u) = _ ↔ _
  rw [unpackSign_pack]
  cases signOf u <;> simp [Sign.toBitVec]

theorem ofModel_pack_unpack (x : Float) : Float.ofModel (.pack x.toModel.unpack) = x :=
  Float.ofBits_toBits x

theorem isNegative_eq_false_iff_signOf {x : Float} :
    isNegative x = false ↔ signOf x.toModel.unpack = .positive := by
  rw [← isNegative_ofModel_pack, ofModel_pack_unpack]

/-- What is not a number is kept with a clear sign bit. -/
theorem unsigned_iff {x : Float} : Unsigned x ↔ isNegative x = false := by
  refine or_iff_right_of_imp ?_
  -- there is one bit pattern for what is not a number
  intro hx
  have hnan : x.toModel.unpack = .notANumber := isNaN_iff.mp hx
  rw [isNegative_eq_false_iff_signOf, hnan]
  rfl

theorem unsigned_iff_signOf {x : Float} : Unsigned x ↔ signOf x.toModel.unpack = .positive :=
  unsigned_iff.trans isNegative_eq_false_iff_signOf

theorem unsigned_ofModel_pack {u : UnpackedFloat} (h : signOf u = .positive) :
    Unsigned (.ofModel (.pack u)) :=
  unsigned_iff.mpr (isNegative_ofModel_pack.mpr h)

theorem signOf_unpack {spec : Format} {b : BitVec spec.numBits} (h : unpackSign b = 0#1) :
    signOf (UnpackedFloat.unpack spec b) = .positive := by
  unfold UnpackedFloat.unpack
  rw [h]
  extract_lets
  split
  · split <;> rfl
  · split
    · split <;> rfl
    · rfl

theorem unsigned_ofBits {b : UInt64} (h : b.toNat < 2 ^ 63) : Unsigned (Float.ofBits b) := by
  refine unsigned_ofModel_pack (signOf_unpack ?_)
  rw [← BitVec.toNat_inj, toNat_unpackSign]
  exact Nat.div_eq_of_lt h

/-! ### Products, quotients and powers -/

theorem signOf_roundWithAccuracy (spec : Format) (s : Sign) (m : Nat) (e : Int) (acc : Accuracy) :
    signOf (roundWithAccuracy spec s m e acc) = s := by
  unfold roundWithAccuracy
  dsimp only
  split <;> rfl

theorem signOf_mul {spec : Format} {a b : UnpackedFloat} (ha : signOf a = .positive)
    (hb : signOf b = .positive) : signOf (UnpackedFloat.mul spec a b) = .positive := by
  cases a <;> cases b <;> cases ha <;> cases hb <;>
    first | rfl | exact signOf_roundWithAccuracy ..

theorem signOf_div {spec : Format} {a b : UnpackedFloat} (ha : signOf a = .positive)
    (hb : signOf b = .positive) : signOf (UnpackedFloat.div spec a b) = .positive := by
  cases a <;> cases b <;> cases ha <;> cases hb <;>
    first | rfl | exact signOf_roundWithAccuracy ..

section Unsigned

variable {a b : Float}

theorem unsigned_mul (ha : Unsigned a) (hb : Unsigned b) : Unsigned (a * b) :=
  unsigned_ofModel_pack (signOf_mul (unsigned_iff_signOf.mp ha) (unsigned_iff_signOf.mp hb))

theorem unsigned_div (ha : Unsigned a) (hb : Unsigned b) : Unsigned (a / b) :=
  unsigned_ofModel_pack (signOf_div (unsigned_iff_signOf.mp ha) (unsigned_iff_signOf.mp hb))

theorem unsigned_notANumber : Unsigned notANumber := unsigned_ofBits (by decide)

theorem unsigned_infinite : Unsigned (infinite false) := unsigned_ofBits (by decide)

theorem unsigned_divide (ha : Unsigned a) (hb : Unsigned b) : Unsigned (divide a b) := by
  rw [divide]
  split
  · split
    · exact unsigned_notANumber
    · -- the sign of the infinity is that of both operands
      rw [unsigned_iff.mp ha, unsigned_iff.mp hb]
      exact unsigned_infinite
  · exact unsigned_div ha hb

theorem lt_zero_iff : a < 0 ↔ a.toModel.unpack.lt (.zero .positive) = true :=
  decide_eq_true_iff

theorem not_lt_zero (ha : Unsigned a) : ¬ a < 0 := by
  rw [lt_zero_iff]
  have hsign := unsigned_iff_signOf.mp ha
  cases hu : a.toModel.unpack <;> rw [hu] at hsign <;> cases hsign <;> exact nofun

end Unsigned

/-- What the power function of a machine promises: a double without a sign for operands without one,
not a number for finite operands only if the base is negative, and anything but a finite double for
a zero and a finite exponent only if the exponent is negative. -/
structure PowerLaws (machine : Float → Float → Float) : Prop where
  unsigned : ∀ a b, Unsigned a → Unsigned b → Unsigned (machine a b)
  domain : ∀ a b, a.isFinite = true → b.isFinite = true → (machine a b).isNaN = true → a < 0
  pole : ∀ a b, (a == 0) = true → b.isFinite = true → (machine a b).isFinite = false → b < 0

/-- Whether a power of finite operands is settled by a branch for operands on which the power
function of the machine fails, which are those of a pole or outside the domain, or by one for a
negative base. -/
def Recovers (machine : Float → Float → Float) (base exponent : Float) : Prop :=
  base.isFinite = true ∧ exponent.isFinite = true ∧ (machine base exponent).isFinite = false ∧
    ((base == 0) = true ∨ (machine base exponent).isNaN = true ∨ base < 0)

section Power

variable {machine : Float → Float → Float} {a b : Float}

theorem not_recovers (hm : PowerLaws machine) (ha : Unsigned a) (hb : Unsigned b) :
    ¬ Recovers machine a b := by
  rintro ⟨hfa, hfb, hraw, hzero | hnan | hneg⟩
  · exact not_lt_zero hb (hm.pole a b hzero hfb hraw)
  · exact not_lt_zero ha (hm.domain a b hfa hfb hnan)
  · exact not_lt_zero ha hneg

/-- Apart from those branches a power is what the machine says, or infinite because it is too
large. -/
theorem power_of_not_recovers (h : ¬ Recovers machine a b) :
    power machine a b = machine a b ∨ power machine a b = infinite false := by
  rw [power]
  split
  next hraw =>
    right
    -- what is left of the branches is that of a power too large
    simp only [Bool.and_eq_true, Bool.not_eq_true'] at hraw
    obtain ⟨⟨hfa, hfb⟩, hinf⟩ := hraw
    have hzero : ¬ (a == 0) = true := fun hz => h ⟨hfa, hfb, hinf, .inl hz⟩
    have hnan : ¬ (machine a b).isNaN = true := fun hn => h ⟨hfa, hfb, hinf, .inr (.inl hn)⟩
    have hneg : ¬ a < 0 := fun hlt => h ⟨hfa, hfb, hinf, .inr (.inr hlt)⟩
    rw [exceptionalPower, if_neg hzero, if_neg hnan, decide_eq_false hneg, Bool.false_and]
  · exact .inl rfl

theorem unsigned_power (hm : PowerLaws machine) (ha : Unsigned a) (hb : Unsigned b) :
    Unsigned (power machine a b) := by
  rcases power_of_not_recovers (not_recovers hm ha hb) with h | h
  · rw [h]
    exact hm.unsigned a b ha hb
  · rw [h]
    exact unsigned_infinite

end Power

/-! ### Sums -/

section Sum

variable {a b : Float}

theorem eq_negativeZero_iff : a = negativeZero ↔ a.toModel.unpack = .zero .negative := by
  constructor
  · rintro rfl
    rfl
  · intro h
    rw [← ofModel_pack_unpack a, h]
    rfl

theorem eq_negativeZero_of_pack {u : UnpackedFloat} (hu : IsRounded u)
    (h : Float.ofModel (.pack u) = negativeZero) : u = .zero .negative := by
  refine eq_zero_of_pack_eq hu ?_
  have hbits := congrArg (fun x => x.toBits.toBitVec) h
  exact hbits

theorem add_ne_negativeZero (ha : a ≠ negativeZero) (b : Float) : a + b ≠ negativeZero := by
  intro h
  obtain ⟨hr, hzero⟩ := add_eq_negative_zero (isRounded_unpack a.toModel.toBits.toBitVec)
    (isRounded_unpack b.toModel.toBits.toBitVec)
  exact ha (eq_negativeZero_iff.mpr (hzero (eq_negativeZero_of_pack hr h)))

theorem sub_ne_negativeZero (ha : a ≠ negativeZero) (b : Float) : a - b ≠ negativeZero := by
  intro h
  have h' : Float.ofModel (.pack (UnpackedFloat.sub .binary64 a.toModel.unpack b.toModel.unpack)) =
      negativeZero := h
  rw [unpackedSub_eq_add_neg] at h'
  obtain ⟨hr, hzero⟩ := add_eq_negative_zero (isRounded_unpack a.toModel.toBits.toBitVec)
    (isRounded_neg (isRounded_unpack b.toModel.toBits.toBitVec))
  exact ha (eq_negativeZero_iff.mpr (hzero (eq_negativeZero_of_pack hr h')))

theorem Unsigned.ne_negativeZero (ha : Unsigned a) : a ≠ negativeZero := by
  rintro rfl
  have hsign := unsigned_iff_signOf.mp ha
  cases hsign

end Sum

/-! ### Literals -/

/-- A fraction that is below a power of two is below every greater one. -/
theorem mul_two_pow_lt_of_le {n d i j i' j' : Nat} (h : n * 2 ^ i < d * 2 ^ j)
    (hle : j + i' ≤ j' + i) : n * 2 ^ i' < d * 2 ^ j' := by
  refine Nat.lt_of_mul_lt_mul_right (a := 2 ^ i) ?_
  calc n * 2 ^ i' * 2 ^ i = n * 2 ^ i * 2 ^ i' := Nat.mul_right_comm ..
    _ < d * 2 ^ j * 2 ^ i' := Nat.mul_lt_mul_of_pos_right h (Nat.two_pow_pos _)
    _ = d * 2 ^ (j + i') := by rw [Nat.pow_add, Nat.mul_assoc]
    _ ≤ d * 2 ^ (j' + i) := Nat.mul_le_mul_left _ (Nat.pow_le_pow_right (by decide) hle)
    _ = d * 2 ^ j' * 2 ^ i := by rw [Nat.pow_add, Nat.mul_assoc]

/-- Counted in its last place, a fraction has at most 53 bits. -/
theorem lt_of_lastPlace (n : Nat) {d : Nat} (hd : 0 < d) :
    n * 2 ^ (-lastPlace n d).toNat < 2 ^ 53 * (d * 2 ^ (lastPlace n d).toNat) := by
  rw [Nat.mul_left_comm, ← Nat.pow_add]
  generalize hplace : lastPlace n d = place
  rw [lastPlace] at hplace
  split at hplace
  next hlt =>
    -- the estimate from both lengths is one too high
    exact mul_two_pow_lt_of_le hlt (by omega)
  next =>
    have hlt : n * 2 ^ d.log2 < d * 2 ^ (n.log2 + 1) := by
      calc n * 2 ^ d.log2 < 2 ^ (n.log2 + 1) * 2 ^ d.log2 :=
            Nat.mul_lt_mul_of_pos_right Nat.lt_log2_self (Nat.two_pow_pos _)
        _ ≤ 2 ^ (n.log2 + 1) * d := Nat.mul_le_mul_left _ (Nat.log2_self_le hd.ne')
        _ = d * 2 ^ (n.log2 + 1) := Nat.mul_comm ..
    exact mul_two_pow_lt_of_le hlt (by omega)

theorem roundEven_le {n d bound : Nat} (h : n < bound * d) : roundEven n d ≤ bound := by
  have hq : n / d < bound := Nat.div_lt_of_lt_mul (by rwa [Nat.mul_comm])
  unfold roundEven
  dsimp only
  split
  · omega
  · split <;> omega

/-- The double nearest to a fraction is at most infinite. -/
theorem nearestBits_le (n : Nat) {d : Nat} (hd : 0 < d) : nearestBits n d ≤ infinityBits := by
  rw [nearestBits]
  split
  · exact Nat.zero_le _
  · dsimp only
    split
    · exact Nat.le_refl _
    next hplace =>
      have hround := roundEven_le (lt_of_lastPlace n hd)
      rw [Magnitude.bits, infinityBits]
      refine Nat.le_trans (Nat.add_le_add_left hround _) ?_
      show (lastPlace n d + 1074).toNat * 2 ^ 52 + 2 ^ 53 ≤ 2047 * 2 ^ 52
      omega

theorem Decimal.denominator_pos (x : Decimal) : 0 < x.denominator :=
  Nat.pow_pos (by decide)

/-- The value of a literal has no sign. -/
theorem unsigned_value (l : Literal) : Unsigned l.value := by
  refine unsigned_ofBits ?_
  have hle : l.decimal.toBits ≤ infinityBits := nearestBits_le _ l.decimal.denominator_pos
  have hlt : infinityBits < 2 ^ 63 := by decide
  rw [UInt64.toNat_ofNat']
  exact Nat.lt_of_le_of_lt (Nat.mod_le ..) (Nat.lt_of_le_of_lt hle hlt)

end LineCalculator
