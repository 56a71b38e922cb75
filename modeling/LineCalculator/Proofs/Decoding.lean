/-
Reading a tree off its object.

The object of a tree has all of the tree but the signs of its zeros.  Whole numbers below the bound
stand in it as integers, which have no negative zero, and the double nearest to such an integer is
the one that it was written for, also above `2 ^ 53`.

* `Json.tree?` — the tree that an object is that of;
* `number?_ofFloat` — a number is read back but for the sign of zero;
* `tree?_toJson` — so is a tree, and one that a text is read into is read back as it is.
-/
import LineCalculator.Proofs.Nearest
import LineCalculator.Proofs.Objects
import LineCalculator.Proofs.Preorder
import LineCalculator.Proofs.Sums

open LineCalculator.Tree

namespace LineCalculator

/-! ### The tree of an object -/

/-- The value of the field with a key. -/
def Fields.get? (key : String) : Fields → Option Json
  | .nil => none
  | .cons k value rest => if k = key then some value else rest.get? key

namespace Json

/-- The number that a value stands for: of an integer, the nearest double, if that is finite. -/
def number? : Json → Option Float
  | integer n =>
    let bits := nearestBits n.natAbs 1
    if bits < infinityBits then some (signedDouble (decide (n < 0)) bits) else none
  | float x => some x
  | _ => none

/-- The operator that a value is the symbol of. -/
def operator? : Json → Option Operator
  | word text => Operator.ofText? text
  | _ => none

mutual

/-- The tree that a value is the object of. -/
def tree? : Json → Option Expr
  | object fields =>
    match fields.get? "type" with
    | some (word "number") => (fields.get? "value" >>= number?).map .number
    | some (word "operator") => do
      let op ← fields.get? "value" >>= operator?
      let l ← operand? "left" fields
      let r ← operand? "right" fields
      return .operation op l r
    | _ => none
  | _ => none

/-- The operand that the field with a key is the object of, or a hole if there is no such field. -/
def operand? (key : String) : Fields → Option Expr
  | .nil => some .hole
  | .cons k value rest => if k = key then tree? value else operand? key rest

end

end Json

/-! ### Numbers -/

/-- A number with a zero that has no sign. -/
def unsignedZero (x : Float) : Float :=
  if x = negativeZero then 0 else x

theorem unsignedZero_of_ne {x : Float} (h : x ≠ negativeZero) : unsignedZero x = x := if_neg h

theorem unsignedZero_signedDouble (negative : Bool) :
    unsignedZero (signedDouble negative 0) = 0 := by
  cases negative <;> decide +kernel

theorem Magnitude.IsDouble.bits_lt {m : Magnitude} (h : m.IsDouble) : m.bits < infinityBits := by
  obtain ⟨hlt, -, hge, hle⟩ := h
  rw [bits_eq, infinityBits, Nat.pow_eq]
  omega

theorem ofFloat_negativeZero : Datum.ofFloat negativeZero = .finite true ⟨0, -1074⟩ := by
  decide +kernel

theorem natural?_of_negativeZero {negative : Bool} {m : Magnitude}
    (h : Datum.ofFloat negativeZero = .finite negative m) : m.natural? = some 0 := by
  rw [ofFloat_negativeZero] at h
  cases h
  exact Magnitude.natural?_eq_some (by simp [Magnitude.numerator])

/-- The integer that a whole number stands as is read back to the number. -/
theorem number?_integer {x : Float} {negative : Bool} {m : Magnitude}
    (h : Datum.ofFloat x = .finite negative m) {k : ℕ} (hk : m.natural? = some k) :
    (Json.integer (if negative then -(k : ℤ) else k)).number? = some (unsignedZero x) := by
  obtain ⟨hm, hx⟩ := isDouble_of_finite h
  have hbits : nearestBits k 1 = m.bits := hm.nearestBits_natural hk
  have habs : (if negative then -(k : ℤ) else k).natAbs = k := by cases negative <;> simp
  rw [Json.number?]
  simp only [habs, hbits, if_pos hm.bits_lt]
  -- zero is the only integer that does not tell the sign of its double
  rcases Nat.eq_zero_or_pos k with rfl | hpos
  · have hzero : m.bits = 0 := hbits.symm
    rw [← hx, hzero, unsignedZero_signedDouble]
    cases negative <;> decide +kernel
  · have hne : x ≠ negativeZero := by
      rintro rfl
      have := (natural?_of_negativeZero h).symm.trans hk
      exact hpos.ne (Option.some.inj this)
    have hsign : decide ((if negative then -(k : ℤ) else k) < 0) = negative := by
      cases negative <;> simp [hpos]
    rw [hsign, hx, unsignedZero_of_ne hne]

theorem number?_ofFloat (x : Float) : (Json.ofFloat x).number? = some (unsignedZero x) := by
  have hfloat (h : x ≠ negativeZero) : (Json.float x).number? = some (unsignedZero x) := by
    rw [unsignedZero_of_ne h, Json.number?]
  unfold Json.ofFloat
  split
  next negative m h =>
    split
    next k hk =>
      split
      next => exact number?_integer h hk
      next hle =>
        refine hfloat ?_
        rintro rfl
        cases (natural?_of_negativeZero h).symm.trans hk
        exact hle (by decide)
    next hnone =>
      refine hfloat ?_
      rintro rfl
      cases (natural?_of_negativeZero h).symm.trans hnone
  next hne =>
    refine hfloat ?_
    rintro rfl
    exact hne _ _ ofFloat_negativeZero

/-! ### Trees -/

namespace Tree

/-- A tree whose zeros have no sign. -/
def unsignedZeros : Expr → Expr
  | hole => hole
  | number x => number (unsignedZero x)
  | operation op l r => operation op l.unsignedZeros r.unsignedZeros

theorem unsignedZeros_eq_self {t : Expr} (h : ∀ x, .number x ∈ t.inorder → x ≠ negativeZero) :
    t.unsignedZeros = t := by
  induction t with
  | hole => rfl
  | number x => rw [unsignedZeros, unsignedZero_of_ne (h x (by simp))]
  | operation op l r ihl ihr =>
    rw [unsignedZeros, ihl fun x hx => h x (by simp [hx]), ihr fun x hx => h x (by simp [hx])]

variable {t : Expr} {key : String} {value : Json} {rest : Fields}

theorem operand?_operandField (h : t.isHole = false → t.object.tree? = some t.unsignedZeros)
    (hrest : Json.operand? key rest = some hole) :
    Json.operand? key (operandField key t t.object rest) = some t.unsignedZeros := by
  rw [operandField]
  split
  next hhole =>
    rw [isHole_eq_true.mp hhole, hrest]
    rfl
  next hhole =>
    rw [Json.operand?, if_pos rfl]
    exact h (Bool.eq_false_iff.mpr hhole)

theorem operand?_operandField_of_ne {k : String} (h : k ≠ key) :
    Json.operand? key (operandField k t value rest) = Json.operand? key rest := by
  rw [operandField]
  split
  · rfl
  · rw [Json.operand?, if_neg h]

theorem tree?_object (t : Expr) (h : t.isHole = false) :
    t.object.tree? = some t.unsignedZeros := by
  induction t with
  | hole => cases h
  | number x => simp [object, Json.tree?, Fields.get?, number?_ofFloat, unsignedZeros]
  | operation op l r ihl ihr =>
    set fields := operandField "left" l l.object (operandField "right" r r.object .nil)
    have hl : Json.operand? "left" fields = some l.unsignedZeros := by
      refine operand?_operandField ihl ?_
      rw [operand?_operandField_of_ne (by decide), Json.operand?]
    have hr : Json.operand? "right" fields = some r.unsignedZeros := by
      rw [operand?_operandField_of_ne (by decide)]
      exact operand?_operandField ihr (by rw [Json.operand?])
    have hop : Operator.ofText? (String.singleton op.symbol) = some op := ofText?_symbol op
    simp [object, Json.tree?, Fields.get?, Json.operand?, Json.operator?, fields, hop, hl, hr,
      unsignedZeros]

end Tree

/-- **The object of a tree has all of the tree but the signs of its zeros**: what is read off it is
the tree with zeros that have no sign, and so the tree itself if a text was read into it. -/
theorem tree?_toJson :
    (∀ t : Expr, t.isHole = false → t.toJson.tree? = some t.unsignedZeros) ∧
      ∀ (source : List Char) (t : Expr), parse source = .ok t → t.toJson.tree? = some t := by
  have hread (t : Expr) (h : t.isHole = false) : t.toJson.tree? = some t.unsignedZeros := by
    rw [toJson_eq_object, tree?_object t h]
  refine ⟨hread, fun source t h => ?_⟩
  obtain ⟨-, -, -, hne⟩ := tokenize_of_parse h
  rw [hread t (Bool.eq_false_iff.mpr (mt isHole_eq_true.mp hne))]
  rw [unsignedZeros_eq_self fun x hx => (unsigned_of_mem_inorder h hx).ne_negativeZero]

/-- A negative zero over nothing loses its sign; the tree of the crowded text loses nothing. -/
theorem tree?_toJson_crowdedTree :
    (operation .div (number negativeZero) hole : Expr).toJson.tree? =
        some (operation .div (number 0) hole) ∧
      parse crowdedText = .ok crowdedTree ∧ crowdedTree.toJson.tree? = some crowdedTree := by
  refine ⟨?_, parse_crowdedText, tree?_toJson.2 crowdedText crowdedTree parse_crowdedText⟩
  rw [tree?_toJson.1 _ rfl, unsignedZeros, unsignedZeros, unsignedZeros, unsignedZero, if_pos rfl]

end LineCalculator
