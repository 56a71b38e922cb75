/-
Results that can be typed in again.

The calculator reads fewer texts of numbers than it writes: it knows no exponents, no infinities and
no signs of numbers.  So a result is read as a number just if it is written as a plain literal,
which is the case for the positive zero and from `10 ^ -4` on below `10 ^ 21`.  It is then read as
itself, and any other result is refused: a letter stops the reading, and a minus sign lacks its left
operand.

* `e_mem_layout_iff` — which decimals are laid out with an exponent;
* `Magnitude.IsPlain`, `e_mem_magnitude_iff` — which magnitudes are written with one;
* `isRetypable_iff` — the same, by comparisons of doubles;
* `readTree_spelling` — what a numeral is read into, alone or behind a sign;
* `retype_result` — which results can be typed in again.
-/
import LineCalculator.Proofs.Calculation
import LineCalculator.Proofs.NumberText
import LineCalculator.Proofs.Ordering

namespace LineCalculator

open NumberStyle

/-! ### Bounds of decimals -/

namespace Decimal

/-- The number of digits before the point of a decimal, if they were all written out. -/
def point (d : Decimal) : ℤ := d.exponent + (figures d.digits).length

variable {d d' : Decimal}

/-- The nearest double grows with the decimal. -/
theorem toBits_mono (h : d.value ≤ d'.value) : d.toBits ≤ d'.toBits := by
  have hd : (0 : ℚ) < d.denominator := by exact_mod_cast d.denominator_pos
  have hd' : (0 : ℚ) < d'.denominator := by exact_mod_cast d'.denominator_pos
  rw [← fraction_eq_value, ← fraction_eq_value, div_le_div_iff₀ hd hd'] at h
  exact nearestBits_mono d.denominator_pos d'.denominator_pos (by exact_mod_cast h)

theorem ten_pow_length_le {n : ℕ} (hn : n ≠ 0) : 10 ^ ((figures n).length - 1) ≤ n := by
  by_contra hlt
  rw [not_le] at hlt
  rcases Nat.eq_zero_or_pos ((figures n).length - 1) with hzero | hpos
  · rw [hzero] at hlt
    omega
  · have := (Nat.length_toDigits_le_iff (by decide) hpos).mpr hlt
    change (figures n).length ≤ _ at this
    omega

/-- A decimal is at least the power of ten at its first digit. -/
theorem le_value (hd : d.digits ≠ 0) : (10 : ℚ) ^ (d.point - 1) ≤ d.value := by
  have hlen : 0 < (figures d.digits).length := List.length_pos_of_ne_nil (figures_ne_nil _)
  have hexp : d.point - 1 = ((figures d.digits).length - 1 : ℕ) + d.exponent := by
    rw [point]
    omega
  rw [hexp, zpow_add₀ (by norm_num), zpow_natCast, value]
  refine mul_le_mul_of_nonneg_right ?_ (by positivity)
  exact_mod_cast ten_pow_length_le hd

/-- A decimal is less than the power of ten before its first digit. -/
theorem value_lt (d : Decimal) : d.value < (10 : ℚ) ^ d.point := by
  have hexp : d.point = ((figures d.digits).length : ℕ) + d.exponent := by
    rw [point]
    omega
  rw [hexp, zpow_add₀ (by norm_num), zpow_natCast, value]
  refine mul_lt_mul_of_pos_right ?_ (by positivity)
  exact_mod_cast lt_ten_pow_figures d.digits

theorem value_one (e : ℤ) : value ⟨1, e⟩ = 10 ^ e := by
  rw [value, Nat.cast_one, one_mul]

end Decimal

/-! ### Layouts with an exponent -/

namespace NumberStyle

theorem e_not_mem_of_isFigures {w : List Char} (h : IsFigures w) : 'e' ∉ w :=
  Numeral.not_mem_of_isFigures h (by decide)

theorem e_not_mem_positional {w : List Char} (hw : IsFigures w) (p : ℤ) :
    'e' ∉ positional w p := by
  have hmem := e_not_mem_of_isFigures hw
  have hzeros := fun n => e_not_mem_of_isFigures (isFigures_zeros n)
  have htake := fun n => mt (List.mem_of_mem_take (i := n)) hmem
  have hdrop := fun n => mt (List.mem_of_mem_drop (i := n)) hmem
  rw [positional]
  dsimp only
  split
  · simp [hmem, hzeros]
  · split
    · simp [hmem, hzeros]
    · simp [htake, hdrop]

/-- A decimal is laid out with an exponent if its first digit stands too far from the point. -/
theorem e_mem_layout_iff (d : Decimal) :
    'e' ∈ trimExponent (layout d) ↔ ¬ (-4 < d.point ∧ d.point ≤ 16) := by
  have hfigures := Decimal.isFigures_figures d.digits
  by_cases hrange : -4 < d.point ∧ d.point ≤ 16
  · have hlayout : layout d = positional (Decimal.figures d.digits) d.point := if_pos hrange
    have hnot := e_not_mem_positional hfigures d.point
    rw [hlayout, trimExponent_of_not_mem hnot]
    exact iff_of_false hnot (not_not.mpr hrange)
  · refine iff_of_true ?_ hrange
    have hlayout : layout d = scientific (Decimal.figures d.digits) (d.point - 1) := if_neg hrange
    obtain ⟨c, w, hw⟩ := List.exists_cons_of_ne_nil (Decimal.figures_ne_nil d.digits)
    rw [hw] at hfigures
    obtain ⟨hc, hw'⟩ := isFigures_cons.mp hfigures
    -- the only mark of an exponent stands behind the digits
    have hliteral : 'e' ∉ Literal.spelling ⟨[c], w⟩ :=
      (Literal.isText_spelling (List.cons_ne_nil c [])
        (isFigures_cons.mpr ⟨hc, List.forall_mem_nil _⟩) hw').e_not_mem
    rw [hlayout, hw, scientific_cons, exponent, trimExponent_append hliteral]
    exact List.mem_append_right _ List.mem_cons_self

end NumberStyle

/-! ### Plain magnitudes -/

/-- The bits of the double nearest to one ten-thousandth. -/
def leastPlainBits : ℕ := Decimal.toBits ⟨1, -4⟩

/-- The bits of the double `10 ^ 21`. -/
def plainBoundBits : ℕ := Decimal.toBits ⟨1, 21⟩

namespace Magnitude

/-- Whether a magnitude is zero or from one ten-thousandth on below `10 ^ 21`. -/
def IsPlain (m : Magnitude) : Prop :=
  m.significand = 0 ∨ leastPlainBits ≤ m.bits ∧ m.bits < plainBoundBits

/-- The double nearest to one ten-thousandth. -/
def leastPlain : Magnitude := ⟨7378697629483821, -66⟩

/-- The double `10 ^ 21`. -/
def plainBound : Magnitude := ⟨7629394531250000, 17⟩

theorem isDouble_leastPlain : leastPlain.IsDouble := by
  constructor <;> decide

theorem isDouble_plainBound : plainBound.IsDouble := by
  constructor <;> decide

theorem bits_leastPlain : leastPlain.bits = leastPlainBits := by
  decide

theorem natural?_plainBound : plainBound.natural? = some wholeBound := by
  decide

theorem bits_plainBound : plainBound.bits = plainBoundBits := by
  decide

theorem shortest_leastPlain : Decimal.shortest leastPlain = ⟨1, -4⟩ := by
  have hfound : ((List.range 17).findSome? fun n : ℕ =>
      Decimal.onGrid? leastPlain (Decimal.scale leastPlain.numerator leastPlain.denominator -
        (n + 1))) = some ⟨1, -4⟩ := by
    decide
  rw [Decimal.shortest, hfound, Option.getD_some, Decimal.dropZeros, dif_neg (by decide)]

variable {m : Magnitude}

/-- A natural number below `10 ^ 21` is a plain magnitude. -/
theorem isPlain_of_natural {k : ℕ} (hm : m.IsDouble) (hk : m.natural? = some k)
    (hlt : k < wholeBound) : m.IsPlain := by
  have hbits := hm.nearestBits_natural hk
  rcases Nat.eq_zero_or_pos k with rfl | hpos
  · left
    rw [← hm.bits_eq_zero_iff, ← hbits]
    rfl
  · right
    constructor
    · rw [← hbits, leastPlainBits, Decimal.toBits]
      refine nearestBits_mono (Decimal.denominator_pos _) one_pos ?_
      show 1 * 10 ^ 0 * 1 ≤ k * 10 ^ 4
      omega
    · have hbound := isDouble_plainBound.nearestBits_natural natural?_plainBound
      have hle : nearestBits k 1 ≤ nearestBits wholeBound 1 :=
        nearestBits_mono one_pos one_pos (by omega)
      rw [hbits, hbound] at hle
      rw [← bits_plainBound]
      refine lt_of_le_of_ne hle ?_
      -- the bound is a double itself, and no other natural number is the same one
      intro heq
      have hsame := hm.bits_inj isDouble_plainBound heq
      rw [hsame, natural?_plainBound] at hk
      cases hk
      exact lt_irrefl _ hlt

section Shortest

variable (hm : m.IsDouble) (hpos : 0 < m.significand)

include hm hpos

theorem digits_shortest_ne_zero : (Decimal.shortest m).digits ≠ 0 := by
  have := Decimal.digits_shortest hm hpos
  omega

/-- The fewest digits of a magnitude start right behind the point from one ten-thousandth on. -/
theorem leastPlainBits_le_iff : leastPlainBits ≤ m.bits ↔ -4 < (Decimal.shortest m).point := by
  have hbits := Decimal.toBits_shortest hm
  constructor
  · intro hle
    by_contra hpoint
    have hvalue : (Decimal.shortest m).value ≤ Decimal.value ⟨1, -4⟩ := by
      rw [Decimal.value_one]
      refine (Decimal.value_lt _).le.trans ?_
      exact zpow_le_zpow_right₀ (by norm_num) (by omega)
    have hge := Decimal.toBits_mono hvalue
    rw [hbits] at hge
    -- so it is the double nearest to one ten-thousandth, which has its digit behind three zeros
    have hsame : m = leastPlain := by
      refine hm.bits_inj isDouble_leastPlain ?_
      rw [bits_leastPlain]
      exact le_antisymm hge hle
    rw [hsame, shortest_leastPlain] at hpoint
    exact hpoint (by decide)
  · intro hpoint
    rw [← hbits, leastPlainBits]
    refine Decimal.toBits_mono ?_
    rw [Decimal.value_one]
    refine le_trans ?_ (Decimal.le_value (digits_shortest_ne_zero hm hpos))
    exact zpow_le_zpow_right₀ (by norm_num) (by omega)

/-- The fewest digits of a magnitude that is no natural number below `10 ^ 21` reach sixteen places
before the point at most if it is below that bound. -/
theorem lt_plainBoundBits_iff (h : ∀ k, m.natural? = some k → wholeBound ≤ k) :
    m.bits < plainBoundBits ↔ (Decimal.shortest m).point ≤ 16 := by
  have hbits := Decimal.toBits_shortest hm
  constructor
  · intro hlt
    by_contra hpoint
    have hvalue : Decimal.value ⟨1, 16⟩ ≤ (Decimal.shortest m).value := by
      rw [Decimal.value_one]
      refine le_trans ?_ (Decimal.le_value (digits_shortest_ne_zero hm hpos))
      exact zpow_le_zpow_right₀ (by norm_num) (by omega)
    have hge := Decimal.toBits_mono hvalue
    rw [hbits] at hge
    -- from `10 ^ 16` on all doubles are natural numbers
    have hexponent : 0 ≤ m.exponent := by
      have hlarge : 1076 * 2 ^ 52 ≤ Decimal.toBits ⟨1, 16⟩ := by decide
      have := hm.lt
      rw [bits_eq] at hge
      omega
    obtain ⟨k, hk⟩ := exists_natural?_of_exponent_nonneg hexponent
    have hle : nearestBits wholeBound 1 ≤ nearestBits k 1 :=
      nearestBits_mono one_pos one_pos (by have := h k hk; omega)
    rw [hm.nearestBits_natural hk, isDouble_plainBound.nearestBits_natural natural?_plainBound,
      bits_plainBound] at hle
    omega
  · intro hpoint
    have hvalue : (Decimal.shortest m).value ≤ Decimal.value ⟨1, 16⟩ := by
      rw [Decimal.value_one]
      refine (Decimal.value_lt _).le.trans ?_
      exact zpow_le_zpow_right₀ (by norm_num) hpoint
    have hle := Decimal.toBits_mono hvalue
    have hbound : Decimal.toBits ⟨1, 16⟩ < plainBoundBits := by decide
    rw [hbits] at hle
    omega

end Shortest

/-- A magnitude is written with an exponent unless it is plain. -/
theorem e_mem_magnitude_iff (hm : m.IsDouble) : 'e' ∈ result.magnitude m ↔ ¬ m.IsPlain := by
  by_cases h : ∀ k, m.natural? = some k → wholeBound ≤ k
  · have hpos : 0 < m.significand := by
      rw [Nat.pos_iff_ne_zero]
      intro hzero
      have hnatural : m.natural? = some 0 := by
        refine natural?_eq_some ?_
        rw [numerator_eq, hzero, Nat.zero_mul, Nat.zero_mul]
      exact absurd (h 0 hnatural) (by decide)
    rw [magnitude_of_not_lt h, e_mem_layout_iff, ← leastPlainBits_le_iff hm hpos,
      ← lt_plainBoundBits_iff hm hpos h, IsPlain, or_iff_right hpos.ne']
  · push Not at h
    obtain ⟨k, hk, hlt⟩ := h
    rw [magnitude_of_lt hk hlt]
    exact iff_of_false (e_not_mem_of_isFigures (Decimal.isFigures_figures k))
      (not_not.mpr (isPlain_of_natural hm hk hlt))

end Magnitude

/-! ### Comparisons with the bounds -/

/-- Whether a double is the positive zero or from one ten-thousandth on below `10 ^ 21`. -/
def IsRetypable (x : Float) : Prop :=
  x = 0 ∨ (1e-4 ≤ x ∧ x < 1e21)

theorem ofFloat_zero : Datum.ofFloat 0 = .finite false ⟨0, -1074⟩ := by
  decide

theorem ofFloat_leastPlain : Datum.ofFloat 1e-4 = .finite false Magnitude.leastPlain := by
  decide

theorem ofFloat_plainBound : Datum.ofFloat 1e21 = .finite false Magnitude.plainBound := by
  decide

/-- A double between the bounds is finite and has no sign. -/
theorem exists_magnitude_of_bounds {x : Float} (hle : 1e-4 ≤ x) (hlt : x < 1e21) :
    ∃ m, Datum.ofFloat x = .finite false m := by
  have hle' : (Float.toModel 1e-4).unpack.le x.toModel.unpack = true := of_decide_eq_true hle
  have hlt' : x.toModel.unpack.lt (Float.toModel 1e21).unpack = true := of_decide_eq_true hlt
  rw [unpack_eq_unpacked, unpack_eq_unpacked, ofFloat_leastPlain] at hle'
  rw [unpack_eq_unpacked, unpack_eq_unpacked, ofFloat_plainBound] at hlt'
  cases hx : Datum.ofFloat x with
  | nan =>
    rw [hx] at hle'
    cases hle'
  | infinity negative =>
    rw [hx] at hle' hlt'
    cases negative
    · cases hlt'
    · cases hle'
  | finite negative m =>
    cases negative
    · exact ⟨m, rfl⟩
    · rw [hx, Datum.unpacked.eq_def (.finite true m)] at hle'
      dsimp only at hle'
      split at hle' <;> cases hle'

theorem isRetypable_iff {x : Float} :
    IsRetypable x ↔ ∃ m, Datum.ofFloat x = .finite false m ∧ m.IsPlain := by
  constructor
  · rintro (rfl | ⟨hle, hlt⟩)
    · exact ⟨_, ofFloat_zero, .inl rfl⟩
    · obtain ⟨m, hm⟩ := exists_magnitude_of_bounds hle hlt
      refine ⟨m, hm, .inr ⟨?_, ?_⟩⟩
      · rw [← Magnitude.bits_leastPlain]
        exact (le_iff_bits_le ofFloat_leastPlain hm).mp hle
      · rw [← Magnitude.bits_plainBound]
        exact (lt_iff_bits_lt hm ofFloat_plainBound).mp hlt
  · rintro ⟨m, hm, hzero | ⟨hle, hlt⟩⟩
    · left
      obtain ⟨hdouble, hx⟩ := isDouble_of_finite hm
      rw [← hx, hdouble.bits_eq_zero_iff.mpr hzero]
      decide
    · right
      rw [← Magnitude.bits_leastPlain] at hle
      rw [← Magnitude.bits_plainBound] at hlt
      exact ⟨(le_iff_bits_le ofFloat_leastPlain hm).mpr hle,
        (lt_iff_bits_lt hm ofFloat_plainBound).mpr hlt⟩

/-! ### Reading results -/

section Reading

variable {n : Numeral}

theorem Numeral.IsCanonical.e_mem_spelling_iff (hn : n.IsCanonical) :
    'e' ∈ n.spelling ↔ n.exponent? ≠ none := by
  rw [Numeral.spelling, List.mem_append, or_iff_right hn.e_not_mem]
  cases n.exponent? with
  | none => simp [Numeral.exponentText]
  | some e => simp [Numeral.exponentText]

/-- The literal of a numeral is a token, whether an exponent follows or not. -/
theorem scan_spelling (hn : n.IsCanonical) (position : ℕ) :
    scan position n.spelling = .token ⟨.number n.literal.value, position⟩
      (position + n.literal.spelling.length) (Numeral.exponentText n.exponent?) := by
  refine scan_of_isText (.number hn.isText ?_) position
  intro c hc
  rw [Numeral.head?_exponentText hc]
  decide

/-- A numeral is read into a tree that takes its literal in, unless it has an exponent. -/
theorem readTree_spelling (hn : n.IsCanonical) (root : Expr) {grown : Expr} {how : Option Splice}
    (hi : root.insert? (.number n.literal.value) = some (grown, how)) (position : ℕ) :
    (n.exponent? = none → (readTree root position n.spelling).outcome = .ok grown) ∧
      (n.exponent? ≠ none →
        ∃ k, (readTree root position n.spelling).outcome = .error (.stray 'e' k)) := by
  rw [readTree_of_token (scan_spelling hn position) hi]
  cases n.exponent? with
  | none =>
    refine ⟨fun _ => ?_, fun h => absurd rfl h⟩
    rw [readTree_of_finished rfl]
    exact if_neg (mt Tree.isHole_eq_true.mp (ne_hole_of_insert hi))
  | some e =>
    refine ⟨nofun, fun _ => ⟨position + n.literal.spelling.length, ?_⟩⟩
    exact readTree_of_stray (scan_cons_of_startsNothing ⟨rfl, rfl, rfl⟩ _ _)

/-- A text behind a minus sign is read as the right operand of a difference that lacks its left
one. -/
theorem parse_minus (text : List Char) :
    parse ('-' :: text) = (readTree (.operation .sub .hole .hole) 1 text).outcome :=
  readTree_of_token (t := ⟨.operator .sub, 0⟩) (scan_of_isText (.operator .sub text) 0) rfl

/-- A numeral without an exponent is a single token, and its value is the answer. -/
theorem tokenize_spelling (hn : n.IsCanonical) (he : n.exponent? = none) :
    tokenize n.spelling = .ok [⟨.number n.literal.value, 0⟩] := by
  have hscan := scan_spelling hn 0
  rw [he] at hscan
  rw [tokenize, readTokens_of_token hscan, readTokens_of_finished rfl]
  rfl

theorem calculate_of_tokenize_number {source : List Char} {x : Float}
    (h : tokenize source = .ok [⟨.number x, 0⟩]) : (calculate source).outcome = .ok x := by
  have hparse : parse source = .ok (.number x) := by
    rw [parse_of_tokenize h]
    rfl
  rw [calculate_of_parse_ok hparse]
  rfl

end Reading

/-! ### Typing results in again -/

/-- Whether an answer to a text is a fault of one of the letters of results, or that of a minus sign
without a left operand. -/
def IsRefusal (source : List Char) (answer : Except Fault Float) : Prop :=
  (∃ c k, c ∈ "NIe".toList ∧ answer = .error (.unexpectedCharacter [c] k (some source))) ∨
    answer = .error (.missingOperand "-".toList "left".toList)

theorem isRefusal_of_stray {source : List Char} {c : Char} {k : ℕ} (hc : c ∈ "NIe".toList)
    (h : parse source = .error (.stray c k)) : IsRefusal source (calculate source).outcome :=
  .inl ⟨c, k, hc, calculate_of_parse_error h⟩

/-- A numeral with an exponent is refused. -/
theorem isRefusal_spelling {n : Numeral} (hn : n.IsCanonical) (he : n.exponent? ≠ none) :
    IsRefusal n.spelling (calculate n.spelling).outcome := by
  obtain ⟨k, hk⟩ := (readTree_spelling hn .hole rfl 0).2 he
  exact isRefusal_of_stray (by decide) hk

/-- A numeral behind a minus sign is refused. -/
theorem isRefusal_minus_spelling {n : Numeral} (hn : n.IsCanonical) :
    IsRefusal ('-' :: n.spelling) (calculate ('-' :: n.spelling)).outcome := by
  have hread := readTree_spelling hn (.operation .sub .hole .hole) rfl 1
  by_cases he : n.exponent? = none
  · right
    rw [calculate_of_parse_ok ((parse_minus n.spelling).trans (hread.1 he))]
    rfl
  · obtain ⟨k, hk⟩ := hread.2 he
    exact isRefusal_of_stray (by decide) ((parse_minus n.spelling).trans hk)

theorem isRefusal_nan : IsRefusal result.nan (calculate result.nan).outcome :=
  isRefusal_of_stray (by decide) (readTree_of_stray rfl)

theorem isRefusal_infinity (negative : Bool) :
    IsRefusal (signed negative result.infinity)
      (calculate (signed negative result.infinity)).outcome := by
  cases negative with
  | false => exact isRefusal_of_stray (by decide) (readTree_of_stray rfl)
  | true =>
    have hstray := parse_minus result.infinity
    exact isRefusal_of_stray (by decide) (hstray.trans (readTree_of_stray rfl))

section Write

variable {x : Float}

theorem tokenize_write (h : IsRetypable x) : tokenize (result.write x) = .ok [⟨.number x, 0⟩] := by
  obtain ⟨m, hm, hplain⟩ := isRetypable_iff.mp h
  obtain ⟨hdouble, hx⟩ := isDouble_of_finite hm
  obtain ⟨n, hn, htext, hbits⟩ := exists_numeral_magnitude hdouble
  have he : n.exponent? = none := by
    by_contra he
    rw [← Ne, ← hn.e_mem_spelling_iff, ← htext, Magnitude.e_mem_magnitude_iff hdouble] at he
    exact he hplain
  have hvalue : n.literal.value = x := by
    have hdecimal : n.decimal = n.literal.decimal := by
      rw [Numeral.decimal, he, Option.getD_none, zero_add]
    rw [← hx, ← hbits, hdecimal]
    rfl
  rw [write, hm]
  dsimp only
  rw [signed, if_neg (by decide), htext, tokenize_spelling hn he, hvalue]

/-- A result that cannot be typed in again is refused. -/
theorem isRefusal_write (h : ¬ IsRetypable x) :
    IsRefusal (result.write x) (calculate (result.write x)).outcome := by
  rw [write]
  cases hm : Datum.ofFloat x with
  | nan => exact isRefusal_nan
  | infinity negative => exact isRefusal_infinity negative
  | finite negative m =>
    obtain ⟨n, hn, htext, -⟩ := exists_numeral_magnitude (isDouble_of_finite hm).1
    dsimp only
    rw [htext]
    cases negative with
    | true => exact isRefusal_minus_spelling hn
    | false =>
      refine isRefusal_spelling hn (hn.e_mem_spelling_iff.mp ?_)
      rw [← htext, Magnitude.e_mem_magnitude_iff (isDouble_of_finite hm).1]
      exact fun hplain => h (isRetypable_iff.mpr ⟨m, hm, hplain⟩)

/-- **Which results can be typed in again.**  The text of a result is a single number with the value
of the result if and only if that is the positive zero or lies from one ten-thousandth on below
`10 ^ 21`; the answer to it is then the result.  Any other result is refused. -/
theorem retype_result (x : Float) :
    (tokenize (result.write x) = .ok [⟨.number x, 0⟩] ↔ IsRetypable x) ∧
      (IsRetypable x → (calculate (result.write x)).outcome = .ok x) ∧
      (¬ IsRetypable x → IsRefusal (result.write x) (calculate (result.write x)).outcome) := by
  refine ⟨⟨?_, tokenize_write⟩, fun h => calculate_of_tokenize_number (tokenize_write h),
    isRefusal_write⟩
  intro htokens
  by_contra h
  -- a text that is one number has an answer, and is not refused
  have hanswer := calculate_of_tokenize_number htokens
  rcases isRefusal_write h with ⟨c, k, -, herr⟩ | herr
  · rw [hanswer] at herr
    cases herr
  · rw [hanswer] at herr
    cases herr

/-- One ten-thousandth is the least positive result that can be typed in again, and of the two zeros
the negative one cannot. -/
theorem retype_result_leastPlain_negativeZero :
    IsRetypable 1e-4 ∧ (calculate (result.write 1e-4)).outcome = .ok 1e-4 ∧
      ¬ IsRetypable negativeZero ∧
      IsRefusal (result.write negativeZero) (calculate (result.write negativeZero)).outcome := by
  have hleast : IsRetypable 1e-4 := isRetypable_iff.mpr
    ⟨_, ofFloat_leastPlain, .inr ⟨Magnitude.bits_leastPlain.ge, by decide⟩⟩
  have hzero : ¬ IsRetypable negativeZero := by
    rw [isRetypable_iff]
    rintro ⟨m, hm, -⟩
    have hnegative : Datum.ofFloat negativeZero = .finite true ⟨0, -1074⟩ := by decide
    rw [hnegative] at hm
    cases hm
  exact ⟨hleast, (retype_result 1e-4).2.1 hleast, hzero, (retype_result negativeZero).2.2 hzero⟩

end Write

end LineCalculator
