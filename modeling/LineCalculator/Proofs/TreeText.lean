/-
The text of a tree.

The stack writes what recursion writes: a tree with all its parentheses.  In this text a number ends
at a character that no number has, an operand ends at a blank or a parenthesis, and each kind of
tree starts with a character of its own; so a tree can be told from its text.

* `text_eq_bracketed` — the text of a tree by recursion;
* `bracketed_append_inj` — a tree can be told from the front of a text;
* `text_readable` — two trees have two texts.
-/
import LineCalculator.Proofs.NumberText
import LineCalculator.Tree.Text

open LineCalculator.Tree

namespace LineCalculator

/-! ### The text of a tree -/

namespace Tree

/-- A tree with all its parentheses. -/
def bracketed : Expr → List Char
  | hole => ['?']
  | number x => NumberStyle.result.write x
  | operation op l r =>
    '(' :: (l.bracketed ++ ' ' :: op.symbol :: ' ' :: (r.bracketed ++ [')']))

theorem text_eq_bracketed (t : Expr) : t.text = t.bracketed := by
  refine Text.Writer.write_eq (fun t => ?_) t
  cases t <;> simp [textWriter, bracketed, Text.Item.written]

end Tree

/-! ### Reading it back -/

/-- Whether a character may stand in the text of a number. -/
def IsNumberMark (c : Char) : Prop :=
  isFigure c = true ∨ c ∈ "+-.eNaNInfinity".toList

instance (c : Char) : Decidable (IsNumberMark c) :=
  inferInstanceAs (Decidable (_ ∨ _))

theorem isNumberMark_spelling {n : Numeral} (hn : n.IsCanonical) {c : Char} (hc : c ∈ n.spelling) :
    IsNumberMark c := by
  rcases List.mem_append.mp hc with hc | hc
  · rcases hn.isText.mem hc with hc | rfl
    · exact .inl hc
    · exact .inr (by decide)
  · match hexp : n.exponent? with
    | none =>
      rw [hexp] at hc
      cases hc
    | some e =>
      rw [hexp] at hc
      rcases Numeral.mem_exponentText hc with rfl | rfl | rfl | hc
      · exact .inr (by decide)
      · exact .inr (by decide)
      · exact .inr (by decide)
      · exact .inl hc

theorem isNumberMark_signed {cs : List Char} (h : ∀ c ∈ cs, IsNumberMark c) {negative : Bool}
    {c : Char} (hc : c ∈ NumberStyle.signed negative cs) : IsNumberMark c := by
  cases negative with
  | false => exact h c hc
  | true =>
    rcases List.mem_cons.mp hc with rfl | hc
    · decide
    · exact h c hc

/-- The text of a number has no characters but those of numbers. -/
theorem isNumberMark_write {x : Float} {c : Char} (hc : c ∈ NumberStyle.result.write x) :
    IsNumberMark c := by
  cases hx : x.isNaN with
  | true =>
    rw [write_of_isNaN hx] at hc
    exact .inr (List.mem_append_left "Infinity".toList (List.mem_append_right "+-.e".toList hc))
  | false =>
    rcases write_cases hx with ⟨negative, -, htext⟩ | ⟨negative, n, hn, -, htext⟩
    · rw [htext] at hc
      refine isNumberMark_signed ?_ hc
      intro c hc
      exact .inr (List.mem_append_right "+-.eNaN".toList hc)
    · rw [htext] at hc
      exact isNumberMark_signed (fun c => isNumberMark_spelling hn) hc

theorem signed_ne_nil {cs : List Char} (h : cs ≠ []) (negative : Bool) :
    NumberStyle.signed negative cs ≠ [] := by
  cases negative with
  | false => exact h
  | true => exact List.cons_ne_nil _ _

theorem write_ne_nil (x : Float) : NumberStyle.result.write x ≠ [] := by
  cases hx : x.isNaN with
  | true =>
    rw [write_of_isNaN hx]
    exact List.cons_ne_nil _ _
  | false =>
    rcases write_cases hx with ⟨negative, -, htext⟩ | ⟨negative, n, hn, -, htext⟩
    · rw [htext]
      exact signed_ne_nil (List.cons_ne_nil _ _) negative
    · obtain ⟨c, w, hw, -⟩ := hn.head_spelling
      rw [htext, hw]
      exact signed_ne_nil (List.cons_ne_nil _ _) negative

/-- The text of a number starts with a character of numbers. -/
theorem exists_write_cons (x : Float) :
    ∃ c w, NumberStyle.result.write x = c :: w ∧ IsNumberMark c := by
  obtain ⟨c, w, hw⟩ := List.exists_cons_of_ne_nil (write_ne_nil x)
  exact ⟨c, w, hw, isNumberMark_write (hw ▸ List.mem_cons_self)⟩

theorem write_append_ne {x : Float} {rest cs : List Char} {c : Char} (hc : ¬ IsNumberMark c) :
    NumberStyle.result.write x ++ rest ≠ c :: cs := by
  obtain ⟨c', w, hw, hc'⟩ := exists_write_cons x
  rw [hw]
  rintro ⟨⟩
  exact hc hc'

/-- Whether a text starts with a character that no number has, or is empty. -/
def IsPastNumber (rest : List Char) : Prop := ∀ c ∈ rest.head?, ¬ IsNumberMark c

theorem takeWhile_write_append (x : Float) {rest : List Char} (h : IsPastNumber rest) :
    (NumberStyle.result.write x ++ rest).takeWhile (fun c => decide (IsNumberMark c)) =
      NumberStyle.result.write x := by
  have hstop : rest.takeWhile (fun c => decide (IsNumberMark c)) = [] := by
    cases rest with
    | nil => rfl
    | cons c rest => exact List.takeWhile_cons_of_neg (by simpa using h c rfl)
  rw [List.takeWhile_append_of_pos, hstop, List.append_nil]
  intro c hc
  exact decide_eq_true (isNumberMark_write hc)

/-- A number can be told from the front of a text in which it does not go on. -/
theorem write_append_inj {x y : Float} {rest rest' : List Char} (h : IsPastNumber rest)
    (h' : IsPastNumber rest')
    (heq : NumberStyle.result.write x ++ rest = NumberStyle.result.write y ++ rest') :
    x = y ∧ rest = rest' := by
  have htake := congrArg (List.takeWhile fun c => decide (IsNumberMark c)) heq
  rw [takeWhile_write_append x h, takeWhile_write_append y h'] at htake
  rw [htake] at heq
  exact ⟨write_injective htake, List.append_cancel_left heq⟩

/-! ### Trees -/

theorem not_isNumberMark_question : ¬ IsNumberMark '?' := by decide

theorem not_isNumberMark_opening : ¬ IsNumberMark '(' := by decide

theorem isPastNumber_nil : IsPastNumber [] := by
  rintro _ ⟨⟩

theorem isPastNumber_blank (cs : List Char) : IsPastNumber (' ' :: cs) := by
  rintro _ ⟨⟩
  decide

theorem isPastNumber_closing (cs : List Char) : IsPastNumber (')' :: cs) := by
  rintro _ ⟨⟩
  decide

theorem Operator.symbol_injective : Function.Injective Operator.symbol := by
  intro op op' h
  have h' := congrArg ofSymbol? h
  rw [ofSymbol?_symbol, ofSymbol?_symbol] at h'
  exact Option.some.inj h'

/-- A tree can be told from the front of a text in which it does not go on. -/
theorem bracketed_append_inj {t t' : Expr} {rest rest' : List Char} (h : IsPastNumber rest)
    (h' : IsPastNumber rest') (heq : t.bracketed ++ rest = t'.bracketed ++ rest') :
    t = t' ∧ rest = rest' := by
  induction t generalizing t' rest rest' with
  | hole =>
    cases t' with
    | hole => exact ⟨rfl, (List.cons.inj heq).2⟩
    | number y => exact absurd heq.symm (write_append_ne not_isNumberMark_question)
    | operation op l r => cases heq
  | number x =>
    cases t' with
    | hole => exact absurd heq (write_append_ne not_isNumberMark_question)
    | number y =>
      obtain ⟨rfl, hrest⟩ := write_append_inj h h' heq
      exact ⟨rfl, hrest⟩
    | operation op l r => exact absurd heq (write_append_ne not_isNumberMark_opening)
  | operation op l r ihl ihr =>
    cases t' with
    | hole => cases heq
    | number y => exact absurd heq.symm (write_append_ne not_isNumberMark_opening)
    | operation op' l' r' =>
      simp only [bracketed, List.cons_append, List.append_assoc, List.nil_append] at heq
      -- the left operand ends at a blank, the right one at the closing parenthesis
      obtain ⟨rfl, hop⟩ := ihl (isPastNumber_blank _) (isPastNumber_blank _) (List.cons.inj heq).2
      obtain ⟨hsymbol, hright⟩ := List.cons.inj (List.cons.inj hop).2
      obtain ⟨rfl, hend⟩ :=
        ihr (isPastNumber_closing _) (isPastNumber_closing _) (List.cons.inj hright).2
      rw [Operator.symbol_injective hsymbol]
      exact ⟨rfl, (List.cons.inj hend).2⟩

/-- **The text of a tree is the fully parenthesised one, and uniquely readable**: it is that of the
recursive definition, and two trees with one text are the same, in their shape, their symbols, their
absent operands and their numbers. -/
theorem text_readable : (∀ t : Expr, t.text = t.bracketed) ∧ Function.Injective Tree.text := by
  refine ⟨text_eq_bracketed, ?_⟩
  intro t t' h
  rw [text_eq_bracketed, text_eq_bracketed] at h
  exact (bracketed_append_inj isPastNumber_nil isPastNumber_nil (congrArg (· ++ []) h)).1

end LineCalculator
