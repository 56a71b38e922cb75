/-
Replacing the beginning of a sum.

A sign always encloses the tree that it finds, and what comes after it never reaches into the
enclosed tree again.  So a text that has a value, followed by a sign and anything else, can be
replaced by any other text of this value: the rest is built around the one tree as around the other,
and faults are the same but for their offsets.

* `Swapped` — trees that differ in one operand on their left edge;
* `Swapped.growTree_cases`, `Swapped.value_eq` — such trees take the same tokens in, and have the
  same value if the two operands have;
* `readTree_of_sign` — a text that starts with a sign, read behind two finished trees;
* `calculate_replace_front` — the answers for two texts that go on in the same way.
-/
import LineCalculator.Proofs.Calculation
import LineCalculator.Proofs.Concatenation
import LineCalculator.Proofs.Grammar
import LineCalculator.Proofs.Signs
import LineCalculator.Text.Blank

open LineCalculator.Tree
open Float.Model.UnpackedFloat

namespace LineCalculator

/-! ### Trees that differ on their left edge -/

/-- Whether two trees are the same but for an operand on their left edge, which is `a` in the one
and `b` in the other. -/
inductive Swapped (a b : Expr) : Expr → Expr → Prop
  | edge (op : Operator) (r : Expr) : Swapped a b (operation op a r) (operation op b r)
  | inner {l l' : Expr} (op : Operator) (r : Expr) (h : Swapped a b l l') :
      Swapped a b (operation op l r) (operation op l' r)

theorem slot_operation_congr (op : Operator) (l l' r : Expr) :
    (operation op l r).slot = (operation op l' r).slot := by
  cases r with
  | hole => rfl
  | number x => rfl
  | operation op' l'' r' => cases r' <;> rfl

section Swapped

variable {a b t t' : Expr}

/-- What stands to the right of the left operand, and the operation itself, may be changed. -/
theorem Swapped.exists_operation (h : Swapped a b t t') :
    ∃ op l l' r, t = operation op l r ∧ t' = operation op l' r ∧
      ∀ op' r', Swapped a b (operation op' l r') (operation op' l' r') := by
  cases h with
  | edge op r => exact ⟨op, a, b, r, rfl, rfl, fun op' r' => .edge op' r'⟩
  | inner op r h => exact ⟨op, _, _, r, rfl, rfl, fun op' r' => .inner op' r' h⟩

theorem Swapped.slot_eq (h : Swapped a b t t') : t.slot = t'.slot := by
  obtain ⟨op, l, l', r, rfl, rfl, -⟩ := h.exists_operation
  exact slot_operation_congr op l l' r

theorem Swapped.ne_hole (h : Swapped a b t t') : t ≠ hole ∧ t' ≠ hole := by
  obtain ⟨op, l, l', r, rfl, rfl, -⟩ := h.exists_operation
  simp

/-- A token is taken in by both trees in the same way. -/
theorem Swapped.takes {w : Lexeme} {g : Expr} (h : Swapped a b t t') (ht : Takes t w g) :
    ∃ g', Takes t' w g' ∧ Swapped a b g g' := by
  have hslot := h.slot_eq
  obtain ⟨op, l, l', r, rfl, rfl, hall⟩ := h.exists_operation
  cases ht with
  | atRoot op l x => exact ⟨_, .atRoot op l' x, hall _ _⟩
  | belowRoot op l op' l'' x => exact ⟨_, .belowRoot op l' op' l'' x, hall _ _⟩
  | climb hr hc => exact ⟨_, .climb hr hc, hall _ _⟩
  | enclose hs hc =>
    -- the operators at the roots are the same, so the second tree is enclosed as well
    rw [hslot] at hs
    exact ⟨_, .enclose hs hc, .inner _ _ h⟩

/-- A token is refused by both trees or by none. -/
theorem Swapped.insert?_eq_none {w : Lexeme} (h : Swapped a b t t') :
    t.insert? w = none ↔ t'.insert? w = none := by
  cases w with
  | number x => rw [insert?_number_eq_none, insert?_number_eq_none, h.slot_eq]
  | operator op => rw [insert?_operator_eq_none, insert?_operator_eq_none, h.slot_eq]

/-- A list of tokens is built into both trees in the same way, or refused at the same token. -/
theorem Swapped.growTree_cases (h : Swapped a b t t') (ts : List Token) :
    (∃ e, growTree t ts = .error e ∧ growTree t' ts = .error e) ∨
      ∃ g g', growTree t ts = .ok g ∧ growTree t' ts = .ok g' ∧ Swapped a b g g' := by
  induction ts generalizing t t' with
  | nil => exact .inr ⟨t, t', rfl, rfl, h⟩
  | cons u ts ih =>
    rcases hi : t.insert? u.lexeme with _ | ⟨g, how⟩
    · have hi' := h.insert?_eq_none.mp hi
      exact .inl ⟨_, growTree_cons_of_refused hi ts, growTree_cons_of_refused hi' ts⟩
    · obtain ⟨g', hg', hswap⟩ := h.takes (takes_iff.mpr ⟨how, hi⟩)
      obtain ⟨how', hi'⟩ := takes_iff.mp hg'
      rw [growTree_cons_of_insert hi, growTree_cons_of_insert hi']
      exact ih hswap

/-- Trees that differ in operands of the same value have the same value or the same fault. -/
theorem Swapped.value_eq {m : Meaning Operator Float Float} {x : Float} (h : Swapped a b t t')
    (ha : a.value m = .ok x) (hb : b.value m = .ok x) : t.value m = t'.value m := by
  have hcheck : ∀ {l l' : Expr}, l ≠ hole → l' ≠ hole → ∀ op r,
      Machine.check m op l r = Machine.check m op l' r := by
    intro l l' hl hl' op r
    have hhole := mt isHole_eq_true.mp hl
    have hhole' := mt isHole_eq_true.mp hl'
    rw [Machine.check, Machine.check, if_neg hhole, if_neg hhole']
  induction h with
  | edge op r =>
    rw [Tree.value, Tree.value, hcheck (ne_hole_of_value ha) (ne_hole_of_value hb), ha, hb]
  | inner op r h ih =>
    obtain ⟨hl, hl'⟩ := h.ne_hole
    rw [Tree.value, Tree.value, hcheck hl hl', ih]

/-- Two such trees are continued by a text in the same way. -/
theorem Swapped.readTree_cases (h : Swapped a b t t') (position : Nat) (cs : List Char) :
    (∃ e, (readTree t position cs).outcome = .error e ∧
        (readTree t' position cs).outcome = .error e) ∨
      ∃ g g', (readTree t position cs).outcome = .ok g ∧
        (readTree t' position cs).outcome = .ok g' ∧ Swapped a b g g' := by
  rw [readTree_outcome_of_stop?, readTree_outcome_of_stop?]
  rcases h.growTree_cases (readTokens position cs).tokens with ⟨e, he, he'⟩ | ⟨g, g', hg, hg', hswap⟩
  · rw [he, he']
    exact .inl ⟨e, rfl, rfl⟩
  · rw [hg, hg']
    cases (readTokens position cs).stop? with
    | some e => exact .inl ⟨e, rfl, rfl⟩
    | none =>
      obtain ⟨hne, hne'⟩ := hswap.ne_hole
      exact .inr ⟨g, g', atEnd_of_ne_hole hne, atEnd_of_ne_hole hne', hswap⟩

end Swapped

/-! ### Texts that start with a sign -/

/-- Whether the first character of a text that is not blank, in any script, is a sign. -/
def StartsWithSign (u : List Char) : Prop :=
  ∃ op : Operator, op.IsAdditive ∧ u.find? (fun c => !Text.isBlank c) = some op.symbol

/-- The blanks of all scripts stand outside of the printable ASCII characters. -/
theorem toNat_of_isBlank {c : Char} (hc : Text.isBlank c = true) :
    c.toNat ≤ 0x20 ∨ 0x85 ≤ c.toNat := by
  simp [Text.isBlank, Text.Ranges.contains, Text.blankRanges] at hc
  omega

/-- A blank of any script is no operator, no digit and no point. -/
theorem no_lexeme_of_isBlank {c : Char} (hc : Text.isBlank c = true) :
    Operator.ofSymbol? c = none ∧ isFigure c = false ∧ c ≠ '.' := by
  have hrange := toNat_of_isBlank hc
  refine ⟨?_, ?_, ?_⟩
  · by_contra hsome
    obtain ⟨op, hop⟩ := Option.ne_none_iff_exists'.mp hsome
    rw [Operator.ofSymbol?_eq_some_iff.mp hop] at hrange
    revert hrange
    cases op <;> decide
  · by_contra hfigure
    have hdigit : 48 ≤ c.toNat ∧ c.toNat ≤ 57 := by
      simpa [isFigure, Char.le_def, UInt32.le_iff_toNat_le] using hfigure
    omega
  · rintro rfl
    revert hrange
    decide

theorem StartsWithSign.exists_append {u : List Char} (h : StartsWithSign u) :
    ∃ b op v, u = b ++ Operator.symbol op :: v ∧ op.IsAdditive ∧
      ∀ c ∈ b, Text.isBlank c = true := by
  obtain ⟨op, hop, hfind⟩ := h
  obtain ⟨-, b, v, rfl, hb⟩ := List.find?_eq_some_iff_append.mp hfind
  refine ⟨b, op, v, rfl, hop, ?_⟩
  intro c hc
  have hblank := hb c hc
  simpa using hblank

/-- No literal goes on in a text that starts with a sign. -/
theorem StartsWithSign.isClosed {u : List Char} (h : StartsWithSign u) : IsClosed u := by
  obtain ⟨b, op, v, rfl, -, hb⟩ := h.exists_append
  intro c hc
  cases b with
  | nil =>
    obtain rfl := Option.some.inj hc
    cases op <;> decide
  | cons d b =>
    obtain rfl := Option.some.inj hc
    exact (no_lexeme_of_isBlank (hb d List.mem_cons_self)).2

/-- The sign is read off the text, unless a blank stands before it that does not separate tokens. -/
theorem StartsWithSign.scan_cases {u : List Char} (h : StartsWithSign u) (position : Nat) :
    (∃ c k next rest, scan position u = .stray c k next rest) ∨
      ∃ op k next rest, op.IsAdditive ∧ scan position u = .token ⟨.operator op, k⟩ next rest := by
  obtain ⟨b, op, v, rfl, hop, hb⟩ := h.exists_append
  clear h
  induction b generalizing position with
  | nil => exact .inr ⟨op, _, _, _, hop, scan_of_isText (.operator op v) position⟩
  | cons c b ih =>
    obtain ⟨hc, hb⟩ := List.forall_mem_cons.mp hb
    obtain ⟨hsymbol, hfigure, -⟩ := no_lexeme_of_isBlank hc
    rw [List.cons_append]
    by_cases hspace : isSpace c = true
    · rw [scan_cons_of_isSpace hspace]
      exact ih _ hb
    · have hnone : StartsNothing c := ⟨hsymbol, hfigure, by simpa using hspace⟩
      exact .inl ⟨c, _, _, _, scan_cons_of_startsNothing hnone position _⟩

/-- A sign encloses a tree whose root has its right operand. -/
theorem insert?_of_isAdditive {op : Operator} {t : Expr} (hop : op.IsAdditive)
    (hs : t.slot ≠ .root) : ∃ how, t.insert? (.operator op) = some (operation op t hole, how) :=
  takes_iff.mp (.enclose hs fun root _ => hop.not_goesUnder root)

/-- A text that starts with a sign is read in the same way behind two trees whose roots have their
right operands. -/
theorem readTree_of_sign {a b : Expr} (ha : a.slot ≠ .root) (hb : b.slot ≠ .root) {u : List Char}
    (hu : StartsWithSign u) (position : Nat) :
    (∃ e, (readTree a position u).outcome = .error e ∧
        (readTree b position u).outcome = .error e) ∨
      ∃ g g', (readTree a position u).outcome = .ok g ∧
        (readTree b position u).outcome = .ok g' ∧ Swapped a b g g' := by
  rcases hu.scan_cases position with ⟨c, k, next, rest, hs⟩ | ⟨op, k, next, rest, hop, hs⟩
  · exact .inl ⟨_, readTree_of_stray hs, readTree_of_stray hs⟩
  · obtain ⟨how, hi⟩ := insert?_of_isAdditive hop ha
    obtain ⟨how', hi'⟩ := insert?_of_isAdditive hop hb
    rw [readTree_of_token hs hi, readTree_of_token hs hi']
    exact (Swapped.edge op hole).readTree_cases next rest

/-! ### Values of texts -/

/-- Whether two doubles are the same, where all that are not a number count as one. -/
def SameDouble (x y : Float) : Prop :=
  x = y ∨ (x.isNaN = true ∧ y.isNaN = true)

/-- There is one double that is not a number. -/
theorem sameDouble_iff {x y : Float} : SameDouble x y ↔ x = y := by
  refine or_iff_left_of_imp ?_
  rintro ⟨hx, hy⟩
  have hunpack : x.toModel.unpack = y.toModel.unpack := by
    rw [isNaN_iff.mp hx, isNaN_iff.mp hy]
  rw [← ofModel_pack_unpack x, hunpack, ofModel_pack_unpack]

/-- A text with a value is read into a tree of this value, whose root has its right operand. -/
theorem exists_tree_of_calculate {s : List Char} {x : Float}
    (h : (calculate s).outcome = .ok x) :
    ∃ ts t, tokenize s = .ok ts ∧ growTree .hole ts = .ok t ∧
      t.value (.ofOperators Operator.apply) = .ok x ∧ t.slot ≠ .root := by
  cases hp : parse s with
  | error e =>
    rw [calculate_of_parse_error hp] at h
    cases h
  | ok t =>
    obtain ⟨ts, hts, hg, -⟩ := tokenize_of_parse hp
    rw [calculate_of_parse_ok hp] at h
    cases hv : t.value (.ofOperators Operator.apply) with
    | error e =>
      rw [hv] at h
      cases h
    | ok y =>
      rw [hv] at h
      obtain rfl : y = x := Except.ok.inj h
      refine ⟨ts, t, hts, hg, hv, ?_⟩
      cases t with
      | hole => simp
      | number z => simp
      | operation op l r =>
        obtain ⟨-, z, -, hz, -⟩ := value_operation_eq_ok_iff.mp hv
        exact slot_operation_ne_root (ne_hole_of_value hz)

/-- A text behind one with a tree continues the tree, at offsets that start where it starts. -/
theorem parse_append_of_growTree {s u : List Char} {ts : List Token} {t : Expr}
    (hts : tokenize s = .ok ts) (hg : growTree .hole ts = .ok t) (hu : IsClosed u) :
    parse (s ++ u) = (readTree t 0 u).outcome.mapError (ParseError.relocate (· + s.length)) := by
  rw [parse, readTree_append hts (.inr hu) hg]
  exact (relocates_add 0 s.length u).outcome_readTree t

/-- A fault whose offset, if it has one, is changed by a number, in another text. -/
def Fault.moved (source : List Char) (d : Int) : Fault → Fault
  | unexpectedCharacter char offset _ => unexpectedCharacter char (offset + d) (some source)
  | malformed offset _ => malformed (offset + d) (some source)
  | f => f

theorem fault_relocate (e : ParseError) (s s' : List Char) (m n : Nat) :
    (e.relocate (· + n)).fault s' = Fault.moved s' (n - m) ((e.relocate (· + m)).fault s) := by
  have hoffset : ∀ k : Nat, ((k + n : Nat) : Int) = ((k + m : Nat) : Int) + (n - m) := by
    intro k
    omega
  cases e with
  | stray c k => simp only [ParseError.relocate, ParseError.fault, Fault.moved, hoffset]
  | empty => rfl
  | malformed k => simp only [ParseError.relocate, ParseError.fault, Fault.moved, hoffset]

theorem fault_moved (e : EvalError) (source : List Char) (d : Int) :
    Fault.moved source d e.fault = e.fault := by
  cases e <;> rfl

/-- **The beginning of a sum may be replaced by its value.**  If two texts have the same value and
go on in the same way, with a sign as the first character that is not blank, then the longer texts
have the same value or the same fault, whose offset differs by the difference of the lengths. -/
theorem calculate_replace_front {s₁ s₂ u : List Char} {x y : Float}
    (h₁ : (calculate s₁).outcome = .ok x) (h₂ : (calculate s₂).outcome = .ok y)
    (hxy : SameDouble x y) (hu : StartsWithSign u) :
    (calculate (s₂ ++ u)).outcome =
      (calculate (s₁ ++ u)).outcome.mapError
        (Fault.moved (s₂ ++ u) (s₂.length - s₁.length)) := by
  obtain rfl := sameDouble_iff.mp hxy
  obtain ⟨ts, a, hts, hga, hva, hsa⟩ := exists_tree_of_calculate h₁
  obtain ⟨us, b, hus, hgb, hvb, hsb⟩ := exists_tree_of_calculate h₂
  have hp₁ := parse_append_of_growTree hts hga hu.isClosed
  have hp₂ := parse_append_of_growTree hus hgb hu.isClosed
  rcases readTree_of_sign hsa hsb hu 0 with ⟨e, ha, hb⟩ | ⟨g, g', ha, hb, hswap⟩
  · rw [ha] at hp₁
    rw [hb] at hp₂
    rw [calculate_of_parse_error hp₁, calculate_of_parse_error hp₂]
    exact congrArg Except.error (fault_relocate e _ _ _ _)
  · rw [ha] at hp₁
    rw [hb] at hp₂
    rw [calculate_of_parse_ok hp₁, calculate_of_parse_ok hp₂, hswap.value_eq hva hvb]
    -- a tree has no offsets, so its fault is not changed
    cases g'.value (.ofOperators Operator.apply) with
    | ok z => rfl
    | error e => exact congrArg Except.error (fault_moved e _ _).symm

/-- The text `1+1` has the value of `2`, so the product sign that has no place in `1+1-*3` is found
from that in `2-*3`. -/
theorem calculate_replace_front_two :
    (calculate ['1', '+', '1', '-', '*', '3']).outcome =
      .error (.malformed 4 (some ['1', '+', '1', '-', '*', '3'])) := by
  have htwo : (calculate ['2']).outcome = .ok (figureNumber '2') := by
    have hp : parse ['2'] = .ok (number (figureNumber '2')) := by
      rw [parse, readTree_of_token rfl rfl, readTree_of_finished rfl]
      rfl
    rw [calculate_of_parse_ok hp]
    rfl
  have hsum : (calculate ['1', '+', '1']).outcome = .ok (figureNumber '1' + figureNumber '1') := by
    have hp : parse ['1', '+', '1'] =
        .ok (operation .add (number (figureNumber '1')) (number (figureNumber '1'))) := by
      rw [parse]
      repeat rw [readTree_of_token rfl rfl]
      rw [readTree_of_finished rfl]
      rfl
    rw [calculate_of_parse_ok hp]
    rfl
  have hsame : SameDouble (figureNumber '2') (figureNumber '1' + figureNumber '1') := .inl rfl
  have hsign : StartsWithSign ['-', '*', '3'] :=
    ⟨.sub, .inr rfl, by decide +kernel⟩
  have hfault : parse ['2', '-', '*', '3'] = .error (.malformed 2) := by
    rw [parse]
    repeat rw [readTree_of_token rfl rfl]
    rw [readTree_of_refused rfl rfl]
    rfl
  refine (calculate_replace_front htwo hsum hsame hsign).trans ?_
  show (calculate ['2', '-', '*', '3']).outcome.mapError _ = _
  rw [calculate_of_parse_error hfault]
  rfl

end LineCalculator
