/-
Sums at the top.

A sign of sums never goes under another operator, and all other operators go under a sign of sums;
so the sums and differences of a tree stand in a row from the root to the left, and everything else
is made of numbers, products, quotients and powers.  Literals have no sign, and neither has what is
made of them in that way: signs come up in sums only and never reach another operation.

* `Takes.hasSumsOnLeft` — a token keeps the sums in their row;
* `unsigned_of_isSumFree` — a tree without sums has no sign anywhere;
* `signs_of_hasSumsOnLeft` — a tree whose sums stand in their row has no sign below them, and its
  value is not the negative zero;
* `signs_stay_in_sums` — so it is for every text and its calculation.
-/
import LineCalculator.Proofs.Calculation
import LineCalculator.Proofs.Precedence
import LineCalculator.Proofs.Scanning
import LineCalculator.Proofs.Signs

open LineCalculator.Tree

namespace LineCalculator

/-! ### Sums in a row -/

namespace Tree

/-- Whether a tree has no sum and no difference. -/
def IsSumFree : Expr → Prop
  | hole | number _ => True
  | operation op l r => ¬ op.IsAdditive ∧ l.IsSumFree ∧ r.IsSumFree

/-- Whether no sum and no difference stands under a product, a quotient or a power. -/
def HasSumsOnTop : Expr → Prop
  | hole | number _ => True
  | operation op l r =>
    (¬ op.IsAdditive → l.IsSumFree ∧ r.IsSumFree) ∧ l.HasSumsOnTop ∧ r.HasSumsOnTop

/-- Whether sums and differences stand in a row from the root to the left, and nowhere else. -/
def HasSumsOnLeft : Expr → Prop
  | hole | number _ => True
  | operation op l r => (¬ op.IsAdditive → l.IsSumFree) ∧ l.HasSumsOnLeft ∧ r.IsSumFree

theorem IsSumFree.hasSumsOnLeft {t : Expr} (h : t.IsSumFree) : t.HasSumsOnLeft := by
  induction t with
  | hole => trivial
  | number x => trivial
  | operation op l r ihl ihr => exact ⟨fun _ => h.2.1, ihl h.2.1, h.2.2⟩

theorem HasSumsOnLeft.hasSumsOnTop {t : Expr} (h : t.HasSumsOnLeft) : t.HasSumsOnTop := by
  induction t with
  | hole => trivial
  | number x => trivial
  | operation op l r ihl ihr =>
    obtain ⟨hop, hl, hr⟩ := h
    exact ⟨fun hnot => ⟨hop hnot, hr⟩, ihl hl, ihr hr.hasSumsOnLeft⟩

/-- A row of sums that does not start at the root is empty. -/
theorem HasSumsOnLeft.isSumFree {t : Expr} (h : t.HasSumsOnLeft)
    (hroot : ∀ root, t.rootSymbol? = some root → ¬ root.IsAdditive) : t.IsSumFree := by
  cases t with
  | hole => trivial
  | number x => trivial
  | operation op l r =>
    obtain ⟨hop, -, hr⟩ := h
    have hnot := hroot op rfl
    exact ⟨hnot, hop hnot, hr⟩

end Tree

theorem Operator.goesUnder_of_isAdditive {op root : Operator} (hop : ¬ op.IsAdditive)
    (hroot : root.IsAdditive) : op.GoesUnder root := by
  rcases op.isAdditive_or_isMultiplicative_or_eq_pow with h | h | rfl
  · exact absurd h hop
  · exact h.goesUnder_iff.mpr hroot
  · exact pow_goesUnder root

/-- A token keeps the sums of a tree in their row. -/
theorem Takes.hasSumsOnLeft {t t' : Expr} {w : Lexeme} (h : Takes t w t')
    (ht : t.HasSumsOnLeft) : t'.HasSumsOnLeft := by
  cases h with
  | first x => trivial
  | atRoot op l x => exact ht
  | belowRoot op l op' l' x => exact ht
  | climb hr hc =>
    -- a sign of sums goes under no root
    obtain ⟨hop, hl, hr⟩ := ht
    exact ⟨hop, hl, fun hadd => hadd.not_goesUnder _ hc, hr, trivial⟩
  | enclose hs hc =>
    refine ⟨?_, ht, trivial⟩
    -- what is no sign of sums would have gone under a root that is one
    intro hnot
    refine ht.isSumFree ?_
    intro root hroot hadd
    exact hc root hroot (Operator.goesUnder_of_isAdditive hnot hadd)

theorem hasSumsOnLeft_of_parse {source : List Char} {t : Expr} (h : parse source = .ok t) :
    t.HasSumsOnLeft := by
  obtain ⟨ts, -, hgrow, -⟩ := tokenize_of_parse h
  refine growTree_induct (P := fun _ t => t.HasSumsOnLeft) trivial ?_ hgrow
  intro ws t w t' ht hT
  exact hT.hasSumsOnLeft ht

/-! ### The numbers of a tree -/

theorem eq_value_of_readTokens {position : Nat} {cs : List Char} {ts : List Token}
    (h : (readTokens position cs).outcome = .ok ts) {t : Token} (ht : t ∈ ts) {x : Float}
    (hx : t.lexeme = .number x) : ∃ l : Literal, x = l.value := by
  induction position, cs using readTokens.induct generalizing ts with
  | case1 position cs u next rest hs ih =>
    obtain ⟨us, hus, rfl⟩ := (readTokens_ok_iff hs).mp h
    rcases List.mem_cons.mp ht with rfl | ht
    · obtain ⟨b, w, -, -, hw, -⟩ := scan_eq_token hs
      rw [hx] at hw
      cases hw with
      | number hl hrest => exact ⟨_, rfl⟩
    · exact ih hus ht
  | case2 position cs c k next rest hs =>
    rw [readTokens_of_stray hs] at h
    cases h
  | case3 position cs next hs =>
    rw [readTokens_of_finished hs] at h
    cases h
    cases ht

/-- The numbers of a tree that a text is read into are values of literals and have no sign. -/
theorem unsigned_of_mem_inorder {source : List Char} {t : Expr} (h : parse source = .ok t)
    {x : Float} (hx : .number x ∈ t.inorder) : Unsigned x := by
  obtain ⟨ts, hts, hin⟩ := inorder_of_parse h
  rw [hin] at hx
  obtain ⟨u, hu, hux⟩ := List.mem_map.mp hx
  obtain ⟨l, rfl⟩ := eq_value_of_readTokens hts hu hux
  exact unsigned_value l

/-! ### Any power function -/

/-- The operation that an operator stands for on a machine with another power function. -/
def Operator.applyWith (machine : Float → Float → Float) : Operator → Float → Float → Float
  | pow, a, b => power machine a b
  | op, a, b => op.apply a b

theorem Operator.applyWith_pow : applyWith Float.pow = apply := by
  funext op
  cases op <;> rfl

/-- The calculation of the value of a text on a machine with another power function. -/
def calculateWith (machine : Float → Float → Float) (source : List Char) : Calculation :=
  let reading := readTree .hole 0 source
  let events := reading.events.map Event.ofReading
  match reading.outcome with
  | .error e => ⟨.error (e.fault source), events⟩
  | .ok tree =>
    let evaluation := evaluate (.ofOperators (Operator.applyWith machine)) tree
    ⟨evaluation.outcome.mapError EvalError.fault, events ++ evaluation.reductions.map .evaluated⟩

theorem calculateWith_pow (source : List Char) :
    calculateWith Float.pow source = calculate source := by
  rw [calculateWith, Operator.applyWith_pow]
  rfl

/-! ### Signs along an evaluation -/

section Signs

variable {machine : Float → Float → Float} {op : Operator} {a b : Float}

theorem unsigned_applyWith (hm : PowerLaws machine) (hop : ¬ op.IsAdditive) (ha : Unsigned a)
    (hb : Unsigned b) : Unsigned (op.applyWith machine a b) := by
  cases op with
  | add => exact absurd (.inl rfl) hop
  | sub => exact absurd (.inr rfl) hop
  | mul => exact unsigned_mul ha hb
  | div => exact unsigned_divide ha hb
  | pow => exact unsigned_power hm ha hb

theorem applyWith_ne_negativeZero (hop : op.IsAdditive) (ha : a ≠ negativeZero) (b : Float) :
    op.applyWith machine a b ≠ negativeZero := by
  rcases hop with rfl | rfl
  · exact add_ne_negativeZero ha b
  · exact sub_ne_negativeZero ha b

/-- A tree without sums whose numbers have no sign has no sign in its value, and none in any operand
on the way. -/
theorem unsigned_of_isSumFree (hm : PowerLaws machine) {t : Expr} (ht : t.IsSumFree)
    (hleaf : ∀ x, .number x ∈ t.inorder → Unsigned x) :
    (∀ x, t.value (.ofOperators (Operator.applyWith machine)) = .ok x → Unsigned x) ∧
      ∀ r ∈ t.reductions (.ofOperators (Operator.applyWith machine)),
        Unsigned r.left ∧ Unsigned r.right := by
  induction t with
  | hole => exact ⟨nofun, nofun⟩
  | number x =>
    refine ⟨?_, nofun⟩
    intro y hy
    cases hy
    exact hleaf x List.mem_cons_self
  | operation op l r ihl ihr =>
    obtain ⟨hop, hl, hr⟩ := ht
    obtain ⟨hvl, hrl⟩ := ihl hl fun x hx => hleaf x (by simp [hx])
    obtain ⟨hvr, hrr⟩ := ihr hr fun x hx => hleaf x (by simp [hx])
    refine ⟨?_, ?_⟩
    · intro x hx
      obtain ⟨a, b, ha, hb, rfl⟩ := value_operation_eq_ok_iff.mp hx
      exact unsigned_applyWith hm hop (hvl a ha) (hvr b hb)
    · intro s hs
      rcases mem_reductions_operation hs with hs | hs | ⟨a, b, ha, hb, rfl⟩
      · exact hrl s hs
      · exact hrr s hs
      · exact ⟨hvl a ha, hvr b hb⟩

/-- A tree whose sums stand in their row and whose numbers have no sign does not have the negative
zero as its value, and only sums meet a sign on the way. -/
theorem signs_of_hasSumsOnLeft (hm : PowerLaws machine) {t : Expr} (ht : t.HasSumsOnLeft)
    (hleaf : ∀ x, .number x ∈ t.inorder → Unsigned x) :
    (∀ x, t.value (.ofOperators (Operator.applyWith machine)) = .ok x → x ≠ negativeZero) ∧
      ∀ r ∈ t.reductions (.ofOperators (Operator.applyWith machine)),
        ¬ r.symbol.IsAdditive → Unsigned r.left ∧ Unsigned r.right := by
  induction t with
  | hole => exact ⟨nofun, nofun⟩
  | number x =>
    refine ⟨?_, nofun⟩
    intro y hy
    cases hy
    exact (hleaf x List.mem_cons_self).ne_negativeZero
  | operation op l r ihl ihr =>
    by_cases hop : op.IsAdditive
    · -- a sign may come from the left, where the row goes on, but not from the right
      obtain ⟨-, hl, hr⟩ := ht
      obtain ⟨hvl, hrl⟩ := ihl hl fun x hx => hleaf x (by simp [hx])
      obtain ⟨-, hrr⟩ := unsigned_of_isSumFree hm hr fun x hx => hleaf x (by simp [hx])
      refine ⟨?_, ?_⟩
      · intro x hx
        obtain ⟨a, b, ha, -, rfl⟩ := value_operation_eq_ok_iff.mp hx
        exact applyWith_ne_negativeZero hop (hvl a ha) b
      · intro s hs hnot
        rcases mem_reductions_operation hs with hs | hs | ⟨a, b, -, -, rfl⟩
        · exact hrl s hs hnot
        · exact hrr s hs
        · exact absurd hop hnot
    · -- the row of sums would start at the root, so there is no sum at all
      have hfree : (operation op l r).IsSumFree := ⟨hop, ht.1 hop, ht.2.2⟩
      obtain ⟨hv, hr⟩ := unsigned_of_isSumFree hm hfree hleaf
      exact ⟨fun x hx => (hv x hx).ne_negativeZero, fun s hs _ => hr s hs⟩

end Signs

/-! ### Signs along a calculation -/

section Calculation

variable {source : List Char} (machine : Float → Float → Float)

theorem evaluated_not_mem_map_ofReading (r : Reduction Operator Float) (es : List ReadingEvent) :
    .evaluated r ∉ es.map Event.ofReading := by
  intro hr
  obtain ⟨e, -, he⟩ := List.mem_map.mp hr
  cases e <;> cases he

/-- A text that is read into no tree has no value, and nothing is carried out. -/
theorem calculateWith_of_parse_error {e : ParseError} (h : parse source = .error e) :
    (calculateWith machine source).outcome = .error (e.fault source) ∧
      ∀ r, .evaluated r ∉ (calculateWith machine source).events := by
  rw [parse] at h
  rw [calculateWith]
  simp only [h]
  exact ⟨trivial, fun r => evaluated_not_mem_map_ofReading r _⟩

/-- A text that is read into a tree gets the value or the fault of the tree, and the reductions of
the tree are carried out. -/
theorem calculateWith_of_parse_ok {t : Expr} (h : parse source = .ok t) :
    (calculateWith machine source).outcome =
        (t.value (.ofOperators (Operator.applyWith machine))).mapError EvalError.fault ∧
      ∀ r, .evaluated r ∈ (calculateWith machine source).events ↔
        r ∈ t.reductions (.ofOperators (Operator.applyWith machine)) := by
  rw [parse] at h
  rw [calculateWith]
  simp only [h, evaluate_eq]
  refine ⟨trivial, ?_⟩
  intro r
  rw [List.mem_append, or_iff_right (evaluated_not_mem_map_ofReading r _)]
  exact List.mem_map_of_injective fun _ _ hr => Event.evaluated.inj hr

end Calculation

/-- **Signs never reach the products.**  No sum and no difference of a text stands under a product,
a quotient or a power.  So with any power function that keeps its promises, the operands of these
operations have no sign, no power is one of a signed or an invalid operand, and the negative zero is
the value of no text. -/
theorem signs_stay_in_sums (source : List Char) :
    (∀ t, parse source = .ok t → t.HasSumsOnTop) ∧
      calculateWith Float.pow source = calculate source ∧
      ∀ machine, PowerLaws machine →
        (∀ r, .evaluated r ∈ (calculateWith machine source).events → ¬ r.symbol.IsAdditive →
          Unsigned r.left ∧ Unsigned r.right ∧
            (r.symbol = .pow → ¬ Recovers machine r.left r.right)) ∧
        ∀ x, (calculateWith machine source).outcome = .ok x → x ≠ negativeZero := by
  refine ⟨fun t ht => (hasSumsOnLeft_of_parse ht).hasSumsOnTop, calculateWith_pow source, ?_⟩
  intro machine hm
  cases hp : parse source with
  | error e =>
    obtain ⟨hout, hevents⟩ := calculateWith_of_parse_error machine hp
    refine ⟨fun r hr => absurd hr (hevents r), ?_⟩
    intro x hx
    rw [hout] at hx
    cases hx
  | ok t =>
    obtain ⟨hout, hevents⟩ := calculateWith_of_parse_ok machine hp
    obtain ⟨hvalue, hsigns⟩ := signs_of_hasSumsOnLeft hm (hasSumsOnLeft_of_parse hp)
      fun x hx => unsigned_of_mem_inorder hp hx
    refine ⟨?_, ?_⟩
    · intro r hr hnot
      obtain ⟨hl, hr⟩ := hsigns r ((hevents r).mp hr) hnot
      exact ⟨hl, hr, fun _ => not_recovers hm hl hr⟩
    · intro x hx
      rw [hout] at hx
      cases hv : t.value (.ofOperators (Operator.applyWith machine)) with
      | error e =>
        rw [hv] at hx
        cases hx
      | ok y =>
        rw [hv] at hx
        cases hx
        exact hvalue x hv

/-- A power function that knows one power, that of 12 to the 5th. -/
def onePower (a b : Float) : Float :=
  if a = 12 ∧ b = 5 then 248832 else 1

theorem powerLaws_onePower : PowerLaws onePower := by
  have hcases (a b : Float) : onePower a b = 248832 ∨ onePower a b = 1 := by
    unfold onePower
    split
    · exact .inl rfl
    · exact .inr rfl
  constructor
  · intro a b _ _
    rcases hcases a b with h | h <;> rw [h]
    · exact .inr rfl
    · exact .inr rfl
  · intro a b _ _ hnan
    rcases hcases a b with h | h <;> rw [h] at hnan <;> cases hnan
  · intro a b _ _ hinf
    rcases hcases a b with h | h <;> rw [h] at hinf <;> cases hinf

/-- The tree of `2+3*4^5`. -/
def raisedTree : Expr :=
  operation .add (number (figureNumber '2'))
    (operation .pow (operation .mul (number (figureNumber '3')) (number (figureNumber '4')))
      (number (figureNumber '5')))

/-- In `2+3*4^5` the power is carried out on 12 and 5. -/
theorem signs_stay_in_sums_raisedText :
    PowerLaws onePower ∧
      (∀ r, .evaluated r ∈ (calculateWith onePower raisedText).events → ¬ r.symbol.IsAdditive →
        Unsigned r.left ∧ Unsigned r.right ∧
          (r.symbol = .pow → ¬ Recovers onePower r.left r.right)) ∧
      (calculateWith onePower raisedText).outcome = .ok 248834 ∧
      (248834 : Float) ≠ negativeZero := by
  obtain ⟨hsigns, hvalue⟩ := (signs_stay_in_sums raisedText).2.2 onePower powerLaws_onePower
  have hout : (calculateWith onePower raisedText).outcome = .ok 248834 := by
    have hgrow : growTree .hole raisedTokens = .ok raisedTree := rfl
    rw [(calculateWith_of_parse_ok onePower (parse_of_growTree tokenize_raisedText hgrow nofun)).1]
    rfl
  exact ⟨powerLaws_onePower, hsigns, hout, hvalue _ hout⟩

end LineCalculator
