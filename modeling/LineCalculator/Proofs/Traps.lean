/-
Operations that trap.

A machine may refuse a quotient by zero, and a power that is infinite or outside the domain, and say
only which of these it was.  What the operation stands for is then found from the operands alone.
It is always the value that the machine would have had to give: the quotient of the IEEE standard,
and whatever the power function of the machine says.

* `trappedQuotient`, `trappedPower` — operations that refuse some operands;
* `recoveredQuotient`, `recoveredPower` — the same with what is made of a refusal;
* `divide_eq_div` — quotients are those of the standard, by zeros of either sign too;
* `isOddWhole_iff` — an exponent is recognised as odd by its exact value;
* `PowerStandard`, `PowerStandard.power_eq` — powers are those of a machine that keeps to the
  standard;
* `recovered_operations` — no operation is refused in the end, and none differs.
-/
import LineCalculator.Proofs.Substitution
import LineCalculator.Proofs.Ordering

open Float.Model Float.Model.UnpackedFloat

namespace LineCalculator

/-! ### Refused operations -/

/-- Why a machine refuses an operation. -/
inductive Trap where
  | zeroDivisor
  | overflow
  | domain
deriving DecidableEq

/-- A quotient that is refused for zero as its divisor. -/
def trappedQuotient (a b : Float) : Except Trap Float :=
  if b == 0 then .error .zeroDivisor else .ok (a / b)

/-- A power that is refused if it is infinite or not a number though its operands are finite, or if
it is an infinite power of zero. -/
def trappedPower (machine : Float → Float → Float) (a b : Float) : Except Trap Float :=
  let raw := machine a b
  if (a.isFinite && b.isFinite && raw.isNaN) || (a == 0 && raw.isInf) then .error .domain
  else if a.isFinite && b.isFinite && raw.isInf then .error .overflow
  else .ok raw

/-- A quotient by zero is settled before it is asked for, as an infinity with the sign of the
dividend times a one with the sign of the divisor. -/
def recoveredQuotient (a b : Float) : Except Trap Float :=
  if b == 0 then
    .ok (if a == 0 || a.isNaN then notANumber
      else infinite (isNegative a) * if isNegative b then -1 else 1)
  else trappedQuotient a b

/-- A power is asked for, and settled if it was refused. -/
def recoveredPower (machine : Float → Float → Float) (a b : Float) : Except Trap Float :=
  match trappedPower machine a b with
  | .ok x => .ok x
  | .error .overflow => .ok (infinite (decide (a < 0) && isOddWhole b))
  | .error .domain =>
    .ok (if a == 0 && decide (b < 0) then infinite (isOddWhole b && isNegative a) else notANumber)
  | .error .zeroDivisor => .error .zeroDivisor

/-! ### Zeros, infinities and signs -/

section Unpacked

variable {a b : Float}

theorem beq_zero_iff : (a == 0) = true ↔ ∃ s, a.toModel.unpack = .zero s := by
  show a.toModel.unpack.beq (.zero .positive) = true ↔ _
  cases a.toModel.unpack with
  | notANumber => exact iff_of_false nofun nofun
  | infinity s => cases s <;> exact iff_of_false nofun nofun
  | zero s => exact iff_of_true rfl ⟨s, rfl⟩
  | finite s m e h => cases s <;> exact iff_of_false nofun nofun

/-- The sign bit of a double is that of the value that it is unpacked into. -/
theorem isNegative_eq_true_iff_signOf :
    isNegative a = true ↔ signOf a.toModel.unpack = .negative := by
  rw [← Bool.not_eq_false, isNegative_eq_false_iff_signOf]
  cases signOf a.toModel.unpack <;> simp

theorem signOf_eq_signOfBit (a : Float) : signOf a.toModel.unpack = signOfBit (isNegative a) := by
  cases h : isNegative a with
  | true => exact isNegative_eq_true_iff_signOf.mp h
  | false => exact isNegative_eq_false_iff_signOf.mp h

theorem ofModel_pack_notANumber : Float.ofModel (.pack .notANumber) = notANumber := rfl

theorem ofModel_pack_infinity (negative : Bool) :
    Float.ofModel (.pack (.infinity (signOfBit negative))) = infinite negative := by
  cases negative <;> rfl

theorem signOfBit_div (p q : Bool) : signOfBit p / signOfBit q = signOfBit (p != q) := by
  cases p <;> cases q <;> rfl

theorem eq_notANumber (h : a.isNaN = true) : a = notANumber := by
  rw [← ofModel_pack_unpack a, isNaN_iff.mp h]
  rfl

/-- An infinite double is known by its sign. -/
theorem eq_infinite (h : a.isInf = true) : a = infinite (isNegative a) := by
  have hsign := signOf_eq_signOfBit a
  have hinf : a.toModel.unpack.isInf = true := h
  have hpack := ofModel_pack_unpack a
  cases hu : a.toModel.unpack with
  | infinity s =>
    rw [hu] at hsign hpack
    change s = _ at hsign
    rw [← ofModel_pack_infinity, ← hsign, hpack]
  | notANumber => rw [hu] at hinf; cases hinf
  | zero s => rw [hu] at hinf; cases hinf
  | finite s m e hm => rw [hu] at hinf; cases hinf

/-- A value divided by a zero is infinite, unless it is a zero itself or not a number. -/
theorem unpackedDiv_zero (spec : Format) (s : Sign) (u : UnpackedFloat) :
    ((u.isNaN = true ∨ ∃ s', u = .zero s') ∧ UnpackedFloat.div spec u (.zero s) = .notANumber) ∨
      (u.isNaN = false ∧ (∀ s', u ≠ .zero s') ∧
        UnpackedFloat.div spec u (.zero s) = .infinity (signOf u / s)) := by
  cases u with
  | notANumber => exact .inl ⟨.inl rfl, rfl⟩
  | zero s' => exact .inl ⟨.inr ⟨s', rfl⟩, rfl⟩
  | infinity s' => exact .inr ⟨rfl, nofun, rfl⟩
  | finite s' m e h => exact .inr ⟨rfl, nofun, rfl⟩

/-- Quotients are those of the standard, by zeros of either sign too. -/
theorem divide_eq_div (a b : Float) : divide a b = a / b := by
  rw [divide]
  split
  next hb =>
    obtain ⟨s, hs⟩ := beq_zero_iff.mp hb
    have hquotient : a / b =
        Float.ofModel (.pack (UnpackedFloat.div .binary64 a.toModel.unpack (.zero s))) := by
      rw [← hs]
      rfl
    rw [hquotient]
    rcases unpackedDiv_zero .binary64 s a.toModel.unpack with ⟨hcase, hdiv⟩ | ⟨hnan, hzero, hdiv⟩
    · have hcase' : (a == 0 || a.isNaN) = true := by
        rw [Bool.or_eq_true, beq_zero_iff]
        exact hcase.symm
      rw [if_pos hcase', hdiv, ofModel_pack_notANumber]
    · have hcase' : ¬ (a == 0 || a.isNaN) = true := by
        rw [Bool.or_eq_true, beq_zero_iff, not_or, not_exists]
        exact ⟨hzero, Bool.eq_false_iff.mp hnan⟩
      have hsign := signOf_eq_signOfBit b
      rw [hs] at hsign
      change s = _ at hsign
      rw [if_neg hcase', hdiv, signOf_eq_signOfBit, hsign, signOfBit_div, ofModel_pack_infinity]
  next => rfl

end Unpacked

/-! ### Whole and odd exponents -/

/-- The exact value of a double, if it has one. -/
def Datum.value? : Datum → Option ℚ
  | finite negative m => some (if negative then -m.value else m.value)
  | _ => none

/-- Whether a double stands for a number. -/
def HasValue (x : Float) (q : ℚ) : Prop := (Datum.ofFloat x).value? = some q

/-- Whether a double is a whole number. -/
def IsWhole (x : Float) : Prop := ∃ k : ℤ, HasValue x k

namespace Magnitude

variable {m : Magnitude}

theorem natural?_eq_some_iff {n : ℕ} : m.natural? = some n ↔ m.value = n := by
  have hd : (m.denominator : ℚ) ≠ 0 := by exact_mod_cast m.denominator_pos.ne'
  have hiff : m.value = n ↔ m.numerator = n * m.denominator := by
    rw [← fraction_eq_value, div_eq_iff hd]
    exact_mod_cast Iff.rfl
  rw [hiff]
  refine ⟨fun h => ?_, natural?_eq_some⟩
  rw [natural?] at h
  split at h
  next hmod =>
    cases h
    exact (Nat.div_mul_cancel (Nat.dvd_of_mod_eq_zero hmod)).symm
  next => cases h

theorem value_nonneg (m : Magnitude) : 0 ≤ m.value := by
  rw [value]
  positivity

/-- A magnitude is a natural number if it is a whole one under either sign. -/
theorem natural?_of_signed_value {negative : Bool} {k : ℤ}
    (h : (if negative then -m.value else m.value) = k) : m.natural? = some k.natAbs := by
  rw [natural?_eq_some_iff]
  have habs : (k.natAbs : ℚ) = |(k : ℚ)| := by
    rw [Nat.cast_natAbs, Int.cast_abs]
  rw [habs, ← h]
  cases negative with
  | true => exact (by simp [abs_of_nonneg m.value_nonneg])
  | false => exact (abs_of_nonneg m.value_nonneg).symm

end Magnitude

section Whole

variable {x : Float}

theorem hasValue_of_natural {negative : Bool} {m : Magnitude} {n : ℕ}
    (hx : Datum.ofFloat x = .finite negative m) (hn : m.natural? = some n) :
    HasValue x ((if negative then -(n : ℤ) else n : ℤ) : ℚ) := by
  rw [HasValue, hx, Datum.value?, Magnitude.natural?_eq_some_iff.mp hn]
  cases negative <;> simp

theorem HasValue.exists_natural {k : ℤ} (h : HasValue x k) :
    ∃ negative m, Datum.ofFloat x = .finite negative m ∧ m.natural? = some k.natAbs := by
  rw [HasValue] at h
  cases hx : Datum.ofFloat x with
  | nan => rw [hx] at h; cases h
  | infinity negative => rw [hx] at h; cases h
  | finite negative m =>
    rw [hx, Datum.value?, Option.some.injEq] at h
    exact ⟨negative, m, rfl, Magnitude.natural?_of_signed_value h⟩

/-- A double is recognised as an odd whole number if its exact value is one. -/
theorem isOddWhole_iff : isOddWhole x = true ↔ ∃ k : ℤ, Odd k ∧ HasValue x k := by
  constructor
  · intro h
    rw [isOddWhole] at h
    split at h
    next negative m hx =>
      split at h
      next n hn =>
        refine ⟨_, ?_, hasValue_of_natural hx hn⟩
        have hodd : Odd (n : ℤ) := by
          rw [Int.odd_coe_nat, Nat.odd_iff]
          exact beq_iff_eq.mp h
        cases negative
        · exact hodd
        · exact hodd.neg
      next => cases h
    next => cases h
  · rintro ⟨k, hodd, hk⟩
    obtain ⟨negative, m, hx, hn⟩ := hk.exists_natural
    rw [isOddWhole, hx]
    dsimp only
    rw [hn]
    exact beq_iff_eq.mpr (Nat.odd_iff.mp (Int.natAbs_odd.mpr hodd))

end Whole

/-! ### Powers -/

/-- What the standard says of the exceptional results of a power function.  Of finite operands it is
not a number just if the base is negative and the exponent is not whole; an infinite result is
negative just if the base has a sign and the exponent is odd; and a power of zero is infinite for a
negative exponent only. -/
structure PowerStandard (machine : Float → Float → Float) : Prop where
  isNaN_iff : ∀ a b, a.isFinite = true → b.isFinite = true →
    ((machine a b).isNaN = true ↔ a < 0 ∧ ¬ IsWhole b)
  isNegative_iff : ∀ a b, (machine a b).isInf = true →
    (isNegative (machine a b) = true ↔ isNegative a = true ∧ ∃ k : ℤ, Odd k ∧ HasValue b k)
  pole : ∀ a b, (a == 0) = true → (machine a b).isInf = true → b < 0

section Power

variable {machine : Float → Float → Float} {a b : Float}

theorem isFinite_eq_false_iff : a.isFinite = false ↔ a.isNaN = true ∨ a.isInf = true := by
  show a.toModel.unpack.isFinite = false ↔
    a.toModel.unpack.isNaN = true ∨ a.toModel.unpack.isInf = true
  cases a.toModel.unpack with
  | notANumber => exact iff_of_true rfl (.inl rfl)
  | infinity s => exact iff_of_true rfl (.inr rfl)
  | zero s => exact iff_of_false nofun nofun
  | finite s m e h => exact iff_of_false nofun nofun

theorem not_lt_zero_of_beq_zero (h : (a == 0) = true) : ¬ a < 0 := by
  obtain ⟨s, hs⟩ := beq_zero_iff.mp h
  rw [lt_zero_iff, hs]
  exact nofun

/-- A finite double that is not a zero is negative if its sign bit is set. -/
theorem lt_zero_iff_isNegative (hfinite : a.isFinite = true) (hzero : ¬ (a == 0) = true) :
    a < 0 ↔ isNegative a = true := by
  rw [beq_zero_iff] at hzero
  have hfinite' : a.toModel.unpack.isFinite = true := hfinite
  rw [lt_zero_iff, isNegative_eq_true_iff_signOf]
  cases hu : a.toModel.unpack with
  | notANumber => rw [hu] at hfinite'; cases hfinite'
  | infinity s => rw [hu] at hfinite'; cases hfinite'
  | zero s => exact absurd ⟨s, hu⟩ hzero
  | finite s m e h =>
    cases s
    · exact iff_of_true rfl rfl
    · exact iff_of_false nofun nofun

theorem decide_eq_isNegative (hfinite : a.isFinite = true) (hzero : ¬ (a == 0) = true) :
    decide (a < 0) = isNegative a := by
  rw [Bool.eq_iff_iff, decide_eq_true_iff]
  exact lt_zero_iff_isNegative hfinite hzero

/-- A power is refused as too large only if its operands are finite and its base is no zero. -/
theorem trappedPower_cases (machine : Float → Float → Float) (a b : Float) :
    trappedPower machine a b = .ok (machine a b) ∨
      (trappedPower machine a b = .error .overflow ∧ a.isFinite = true ∧ ¬ (a == 0) = true ∧
        (machine a b).isInf = true) ∨
      (trappedPower machine a b = .error .domain ∧
        (((a.isFinite = true ∧ b.isFinite = true) ∧ (machine a b).isNaN = true) ∨
          (a == 0) = true ∧ (machine a b).isInf = true)) := by
  rw [trappedPower]
  split
  next h =>
    simp only [Bool.or_eq_true, Bool.and_eq_true] at h
    exact .inr (.inr ⟨rfl, h⟩)
  next h =>
    split
    next h' =>
      simp only [Bool.or_eq_true, Bool.and_eq_true] at h h'
      exact .inr (.inl ⟨rfl, h'.1.1, fun hzero => h (.inr ⟨hzero, h'.2⟩), h'.2⟩)
    next => exact .inl rfl

namespace PowerStandard

/-- An infinite power has the sign that base and exponent give it. -/
theorem eq_infinite (hm : PowerStandard machine) (h : (machine a b).isInf = true) :
    machine a b = infinite (isNegative a && isOddWhole b) := by
  have hsign : isNegative (machine a b) = (isNegative a && isOddWhole b) := by
    rw [Bool.eq_iff_iff, Bool.and_eq_true, isOddWhole_iff]
    exact hm.isNegative_iff a b h
  rw [LineCalculator.eq_infinite h, hsign]

/-- A power of zero that is neither finite nor asked for with a negative exponent does not come
up. -/
theorem isInf_of_beq_zero (hm : PowerStandard machine) (hzero : (a == 0) = true)
    (ha : a.isFinite = true) (hb : b.isFinite = true) (h : (machine a b).isFinite = false) :
    (machine a b).isInf = true := by
  refine (isFinite_eq_false_iff.mp h).resolve_left fun hnan => ?_
  exact not_lt_zero_of_beq_zero hzero ((hm.isNaN_iff a b ha hb).mp hnan).1

/-- What is made of the operands of a power that is not finite is that power. -/
theorem exceptionalPower_eq (hm : PowerStandard machine) (ha : a.isFinite = true)
    (hb : b.isFinite = true) (h : (machine a b).isFinite = false) :
    exceptionalPower (machine a b) a b = machine a b := by
  rw [exceptionalPower]
  split
  next hzero =>
    -- a pole, where the sign bit of the zero counts
    have hinf := hm.isInf_of_beq_zero hzero ha hb h
    rw [if_pos (hm.pole a b hzero hinf), hm.eq_infinite hinf, Bool.and_comm]
  next hzero =>
    split
    next hnan => exact (eq_notANumber hnan).symm
    next hnan =>
      have hinf := (isFinite_eq_false_iff.mp h).resolve_left hnan
      rw [hm.eq_infinite hinf, decide_eq_isNegative ha hzero]

/-- Powers are those of the machine. -/
theorem power_eq (hm : PowerStandard machine) (a b : Float) :
    power machine a b = machine a b := by
  rw [power]
  split
  next h =>
    simp only [Bool.and_eq_true, Bool.not_eq_true'] at h
    exact hm.exceptionalPower_eq h.1.1 h.1.2 h.2
  next => rfl

/-- What is made of a refused power is the power. -/
theorem recoveredPower_eq (hm : PowerStandard machine) (a b : Float) :
    recoveredPower machine a b = .ok (machine a b) := by
  rw [recoveredPower]
  rcases trappedPower_cases machine a b with h | ⟨h, ha, hzero, hinf⟩ | ⟨h, hcase⟩
  · rw [h]
  · rw [h]
    show Except.ok _ = _
    rw [hm.eq_infinite hinf, decide_eq_isNegative ha hzero]
  · rw [h]
    show Except.ok _ = _
    rcases hcase with ⟨⟨ha, hb⟩, hnan⟩ | ⟨hzero, hinf⟩
    · -- the base is negative, so this is no pole
      have hneg := ((hm.isNaN_iff a b ha hb).mp hnan).1
      have hzero : (a == 0) = false :=
        Bool.eq_false_iff.mpr fun hzero => not_lt_zero_of_beq_zero hzero hneg
      rw [hzero, Bool.false_and, if_neg (by decide), eq_notANumber hnan]
    · rw [hzero, Bool.true_and, decide_eq_true (hm.pole a b hzero hinf), if_pos rfl,
        hm.eq_infinite hinf, Bool.and_comm]

end PowerStandard

end Power

theorem infinite_mul_one (p q : Bool) :
    (infinite p * if q then -1 else 1) = infinite (p != q) := by
  revert p q
  decide

theorem recoveredQuotient_eq (a b : Float) : recoveredQuotient a b = .ok (a / b) := by
  rw [← divide_eq_div, recoveredQuotient, trappedQuotient, divide, infinite_mul_one]
  split <;> rfl

/-- **Quotients and powers are never refused and are those of the standard.**  Whatever the machine
makes of the operands, what comes out in the end is the quotient, signed zeros and infinities
included, and the power; and so are the operations that expressions are evaluated with. -/
theorem recovered_operations {machine : Float → Float → Float} (hm : PowerStandard machine)
    (a b : Float) :
    recoveredQuotient a b = .ok (a / b) ∧ divide a b = a / b ∧
      recoveredPower machine a b = .ok (machine a b) ∧ power machine a b = machine a b :=
  ⟨recoveredQuotient_eq a b, divide_eq_div a b, hm.recoveredPower_eq a b, hm.power_eq a b⟩

/-- Whether a double is seen to be a whole number. -/
def isWhole (x : Float) : Bool :=
  match Datum.ofFloat x with
  | .finite _ m => m.natural?.isSome
  | _ => false

theorem isWhole_iff {x : Float} : isWhole x = true ↔ IsWhole x := by
  constructor
  · intro h
    rw [isWhole] at h
    split at h
    next negative m hx =>
      obtain ⟨n, hn⟩ := Option.isSome_iff_exists.mp h
      exact ⟨_, hasValue_of_natural hx hn⟩
    next => cases h
  · rintro ⟨k, hk⟩
    obtain ⟨negative, m, hx, hn⟩ := hk.exists_natural
    rw [isWhole, hx]
    dsimp only
    rw [hn]
    rfl

/-- A power function that is right about the exceptional powers of zero, of negative numbers and of
numbers from two on, and does not compute any other. -/
def edgePower (a b : Float) : Float :=
  if a == 0 then if b < 0 then infinite (isNegative a && isOddWhole b) else 1
  else if a < 0 && !isWhole b then notANumber
  else if (a ≤ -2 || 2 ≤ a) && 1024 ≤ b then infinite (isNegative a && isOddWhole b)
  else 1

theorem edgePower_cases (a b : Float) :
    (edgePower a b = 1 ∧ ¬ (a < 0 ∧ ¬ IsWhole b)) ∨
      (edgePower a b = notANumber ∧ a < 0 ∧ ¬ IsWhole b) ∨
      (edgePower a b = infinite (isNegative a && isOddWhole b) ∧ ¬ (a < 0 ∧ ¬ IsWhole b) ∧
        ((a == 0) = true → b < 0)) := by
  rw [edgePower, ← isWhole_iff]
  split
  next hzero =>
    have hneg := not_lt_zero_of_beq_zero hzero
    split
    next hb => exact .inr (.inr ⟨rfl, fun h => hneg h.1, fun _ => hb⟩)
    next => exact .inl ⟨rfl, fun h => hneg h.1⟩
  next hzero =>
    split
    next h =>
      simp only [Bool.and_eq_true, decide_eq_true_eq, Bool.not_eq_true'] at h
      exact .inr (.inl ⟨rfl, h.1, Bool.eq_false_iff.mp h.2⟩)
    next h =>
      have hnot : ¬ (a < 0 ∧ ¬ isWhole b = true) := by
        simpa only [Bool.and_eq_true, decide_eq_true_eq, Bool.not_eq_true', Bool.eq_false_iff]
          using h
      split
      next => exact .inr (.inr ⟨rfl, hnot, fun h => absurd h hzero⟩)
      next => exact .inl ⟨rfl, hnot⟩

theorem isNegative_infinite (negative : Bool) : isNegative (infinite negative) = negative := by
  cases negative <;> rfl

theorem powerStandard_edgePower : PowerStandard edgePower := by
  have hone : (1 : Float).isNaN = false ∧ (1 : Float).isInf = false := by decide
  have hnone : notANumber.isNaN = true ∧ notANumber.isInf = false := by decide
  have hinf : ∀ negative, (infinite negative).isNaN = false := by decide
  refine ⟨?_, ?_, ?_⟩
  · intro a b _ _
    rcases edgePower_cases a b with ⟨h, hnot⟩ | ⟨h, hneg, hwhole⟩ | ⟨h, hnot, -⟩
    · rw [h, hone.1]
      exact iff_of_false nofun hnot
    · rw [h]
      exact iff_of_true hnone.1 ⟨hneg, hwhole⟩
    · rw [h, hinf]
      exact iff_of_false nofun hnot
  · intro a b hraw
    rcases edgePower_cases a b with ⟨h, -⟩ | ⟨h, -⟩ | ⟨h, -⟩
    · rw [h, hone.2] at hraw
      cases hraw
    · rw [h, hnone.2] at hraw
      cases hraw
    · rw [h, isNegative_infinite, Bool.and_eq_true, isOddWhole_iff]
  · intro a b hzero hraw
    rcases edgePower_cases a b with ⟨h, -⟩ | ⟨h, -⟩ | ⟨-, -, hpole⟩
    · rw [h, hone.2] at hraw
      cases hraw
    · rw [h, hnone.2] at hraw
      cases hraw
    · exact hpole hzero

/-- A pole, a power outside the domain and one too large, each of a negative base, and a quotient by
the negative zero. -/
theorem recovered_operations_edgePower :
    PowerStandard edgePower ∧
      recoveredPower edgePower negativeZero (-3) = .ok (infinite true) ∧
      recoveredPower edgePower (-8) 0.5 = .ok notANumber ∧
      recoveredPower edgePower (-2) 1025 = .ok (infinite true) ∧
      divide 1 negativeZero = infinite true := by
  have hm := powerStandard_edgePower
  have hpole : edgePower negativeZero (-3) = infinite true := by decide
  have hdomain : edgePower (-8) 0.5 = notANumber := by decide
  have hlarge : edgePower (-2) 1025 = infinite true := by decide
  have hquotient : 1 / negativeZero = infinite true := by decide
  refine ⟨hm, ?_, ?_, ?_, ?_⟩
  · rw [(recovered_operations hm negativeZero (-3)).2.2.1, hpole]
  · rw [(recovered_operations hm (-8) 0.5).2.2.1, hdomain]
  · rw [(recovered_operations hm (-2) 1025).2.2.1, hlarge]
  · rw [(recovered_operations hm 1 negativeZero).2.1, hquotient]

end LineCalculator
