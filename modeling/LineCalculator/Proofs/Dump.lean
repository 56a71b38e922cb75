/-
The indented text of a tree.

The stack writes the tree itself, and with it the commas between the fields and the braces that end
the objects.  Its text is the layout of the tree's object: a field from the second on stands behind
a comma, and an operand that is absent leaves neither field nor comma.  An indentation of zero or
less still breaks the lines, but pads none.

There need not be a text.  An indentation is a count of spaces, and every text on the way to the
whole has to find room.  But all of these are parts of the whole, so that there is a text where the
whole can be counted with and memory has room for a few times as much.

* `render_operation` — the layout of an operation, from those of its operands;
* `render_neg` — the layout without padding;
* `makeRoom_of_holds`, `refuses_of_makeRoom_eq_error` — the room for one node;
* `dump_eq_pretty` — the text is the layout of the object, for every tree and indentation for which
  there is a text.
-/
import LineCalculator.Proofs.Objects
import LineCalculator.Tree.Dump

open LineCalculator.Tree

namespace LineCalculator

/-! ### The layout of an object -/

namespace Json

variable (indent : ℤ) (depth : ℕ)

/-- The fields of an object behind another field. -/
def furtherFields : Fields → List Char
  | .nil => []
  | fields => ',' :: prettyFields indent depth fields

theorem furtherFields_nil : furtherFields indent depth .nil = [] := rfl

theorem furtherFields_cons (key : String) (value : Json) (rest : Fields) :
    furtherFields indent depth (.cons key value rest) =
      ',' :: prettyFields indent depth (.cons key value rest) := rfl

theorem prettyFields_cons (key : String) (value : Json) (rest : Fields) :
    prettyFields indent depth (.cons key value rest) =
      lineBreak indent depth ++ keyText key ++ prettyAt indent depth value ++
        furtherFields indent depth rest := by
  cases rest <;> simp [prettyFields, furtherFields]

theorem prettyAt_object_cons (key : String) (value : Json) (rest : Fields) :
    prettyAt indent depth (.object (.cons key value rest)) =
      '{' :: (prettyFields indent (depth + 1) (.cons key value rest) ++ lineBreak indent depth ++
        ['}']) := by
  simp [prettyAt]

theorem prettyAt_ofFloat (x : Float) : prettyAt indent depth (ofFloat x) = (ofFloat x).compact := by
  unfold ofFloat
  split
  · split
    · split <;> simp [prettyAt, compact]
    · simp [prettyAt, compact]
  · simp [prettyAt, compact]

end Json

namespace Tree

variable (indent : ℤ) (depth : ℕ)

/-- The line of an operand behind a line break, if the operand is present. -/
def operandLine (lineBreak : List Char) (key : String) (t : Expr) (text : List Char) : List Char :=
  if t.isHole then [] else ',' :: (lineBreak ++ Json.keyText key ++ text)

theorem furtherFields_operandField (key : String) (t : Expr) (value : Json) (rest : Fields) :
    Json.furtherFields indent depth (operandField key t value rest) =
      operandLine (Json.lineBreak indent depth) key t (Json.prettyAt indent depth value) ++
        Json.furtherFields indent depth rest := by
  unfold operandField operandLine
  split
  · rfl
  · simp [Json.furtherFields, Json.prettyFields_cons]

/-- The text of a tree at a depth, by recursion on its object. -/
def render (p : Expr × ℕ) : List Char :=
  Json.prettyAt indent p.2 p.1.object

theorem flatMap_operandItems (key : String) (t : Expr) :
    (operandItems indent depth key t).flatMap (Text.Item.written (render indent)) =
      operandLine (Json.lineBreak indent (depth + 1)) key t (render indent (t, depth + 1)) := by
  unfold operandItems operandLine
  split <;> simp [Text.Item.written]

theorem render_number (x : Float) :
    render indent (number x, depth) =
      head indent depth "number" (Json.ofFloat x).compact ++
        (Json.lineBreak indent depth ++ ['}']) := by
  simp [render, object, head, Json.prettyAt, Json.prettyFields, Json.prettyAt_ofFloat]

theorem render_operation (op : Operator) (l r : Expr) :
    render indent (operation op l r, depth) =
      head indent depth "operator" (Json.quotedWord op.symbol.toString) ++
        (operandLine (Json.lineBreak indent (depth + 1)) "left" l (render indent (l, depth + 1)) ++
        (operandLine (Json.lineBreak indent (depth + 1)) "right" r (render indent (r, depth + 1)) ++
          (Json.lineBreak indent depth ++ ['}']))) := by
  rw [render, object, Json.prettyAt_object_cons, Json.prettyFields_cons, Json.furtherFields_cons,
    Json.prettyFields_cons, furtherFields_operandField, furtherFields_operandField,
    Json.furtherFields_nil]
  simp [head, Json.prettyAt, render]

/-- The text of a tree is its opening and the texts of its items. -/
theorem render_eq (p : Expr × ℕ) :
    render indent p = (dumpWriter indent).opening p ++
      ((dumpWriter indent).items p).flatMap (Text.Item.written (render indent)) := by
  obtain ⟨t, depth⟩ := p
  cases t with
  | hole => simp [render, object, dumpWriter, Json.prettyAt]
  | number x => simp [render_number, dumpWriter, closing, Text.Item.written]
  | operation op l r =>
    simp [render_operation, dumpWriter, flatMap_operandItems, closing, Text.Item.written]

theorem write_eq_pretty (t : Expr) :
    (dumpWriter indent).write (t, 0) = Json.pretty indent t.toJson := by
  rw [toJson_eq_object]
  exact Text.Writer.write_eq (render_eq indent) (t, 0)

/-! ### Lines without padding -/

/-- The indented text of a tree in which no line is padded. -/
def unpadded : Expr → List Char
  | hole => ['{', '}']
  | number x =>
    '{' :: '\n' :: (Json.keyText "type" ++ Json.quotedWord "number" ++ ',' :: '\n' ::
      (Json.keyText "value" ++ (Json.ofFloat x).compact ++ ['\n', '}']))
  | operation op l r =>
    '{' :: '\n' :: (Json.keyText "type" ++ Json.quotedWord "operator" ++ ',' :: '\n' ::
      (Json.keyText "value" ++ Json.quotedWord op.symbol.toString ++
        operandLine ['\n'] "left" l l.unpadded ++ operandLine ['\n'] "right" r r.unpadded ++
        ['\n', '}']))

theorem lineBreak_neg (n depth : ℕ) : Json.lineBreak (-(n : ℤ)) depth = ['\n'] := by
  simp [Json.lineBreak]

theorem render_neg (n depth : ℕ) (t : Expr) : render (-(n : ℤ)) (t, depth) = t.unpadded := by
  induction t generalizing depth with
  | hole => simp [render, object, Json.prettyAt, unpadded]
  | number x => simp [render_number, head, lineBreak_neg, unpadded]
  | operation op l r ihl ihr => simp [render_operation, head, lineBreak_neg, ihl, ihr, unpadded]

/-! ### Room for the text -/

section Room

variable {memory : Text.Memory} {indent : ℤ} {n held : ℕ} {shortage : Text.Shortage}

/-- What a node at a depth may take of the room, with its operands. -/
def cost (indent : ℤ) (p : Expr × ℕ) : ℕ :=
  3 * (render indent p).length

theorem ne_nil_of_mem_operandItems {depth : ℕ} {key : String} {t : Expr} {cs : List Char}
    (h : .text cs ∈ operandItems indent depth key t) : cs ≠ [] := by
  unfold operandItems at h
  split at h
  · cases h
  · simp only [List.mem_cons, Text.Item.text.injEq, reduceCtorEq, List.not_mem_nil, or_false] at h
    rw [h]
    exact List.cons_ne_nil _ _

theorem ne_nil_of_mem_closing {depth : ℕ} {cs : List Char}
    (h : .text cs ∈ [closing indent depth]) : cs ≠ [] := by
  rw [List.mem_singleton, closing, Text.Item.text.injEq] at h
  rw [h]
  exact List.append_ne_nil_of_right_ne_nil _ (List.cons_ne_nil _ _)

/-- The texts among the items of a node are not empty. -/
theorem ne_nil_of_mem_items {p : Expr × ℕ} {cs : List Char}
    (h : .text cs ∈ (dumpWriter indent).items p) : cs ≠ [] := by
  obtain ⟨t, depth⟩ := p
  cases t with
  | hole => cases h
  | number x => exact ne_nil_of_mem_closing h
  | operation op l r =>
    rcases List.mem_append.mp h with hleft | h
    · exact ne_nil_of_mem_operandItems hleft
    · rcases List.mem_append.mp h with hright | hclosing
      · exact ne_nil_of_mem_operandItems hright
      · exact ne_nil_of_mem_closing hclosing

/-- The texts of a node are parts of its layout, and its items leave room for them and for more. -/
theorem length_texts_add_le (indent : ℤ) (p : Expr × ℕ) :
    ((dumpWriter indent).texts p).flatten.length +
        Text.totalWeight (cost indent) ((dumpWriter indent).items p) +
        2 * ((dumpWriter indent).opening p).length ≤ cost indent p :=
  Text.Writer.length_texts_add_le (render_eq indent) fun _ => ne_nil_of_mem_items

theorem padding_le_head (indent : ℤ) (depth : ℕ) (kind : String) (value : List Char) :
    indent.toNat * (depth + 1) ≤ (head indent depth kind value).length := by
  simp only [head, Json.lineBreak, List.length_cons, List.length_append, List.length_replicate]
  omega

/-- The spaces in front of the lines of a node are shorter than its opening. -/
theorem padding_le_opening (indent : ℤ) (p : Expr × ℕ) (h : p.1.isHole = false) :
    indent.toNat * (p.2 + 1) ≤ ((dumpWriter indent).opening p).length := by
  obtain ⟨t, depth⟩ := p
  cases t with
  | hole => cases h
  | number x => exact padding_le_head indent depth _ _
  | operation op l r => exact padding_le_head indent depth _ _

theorem length_opening_le (indent : ℤ) (p : Expr × ℕ) :
    ((dumpWriter indent).opening p).length ≤ (render indent p).length := by
  rw [render_eq, List.length_append]
  exact Nat.le_add_right ..

theorem length_le_of_mem_texts {p : Expr × ℕ} {cs : List Char}
    (h : cs ∈ (dumpWriter indent).texts p) : cs.length ≤ (render indent p).length :=
  Text.Writer.length_le_of_mem_texts (render_eq indent) h

/-- There is room for a node where its cost can be had, and enough of that is left for its items. -/
theorem makeRoom_of_holds (hn : memory.Holds n) (p : Expr × ℕ)
    (hlength : (render indent p).length < Text.lengthBound) (hle : held + cost indent p ≤ n) :
    ∃ held', makeRoom memory indent p held = .ok held' ∧ held ≤ held' ∧
      held' + Text.totalWeight (cost indent) ((dumpWriter indent).items p) ≤
        held + cost indent p := by
  have htexts := length_texts_add_le indent p
  have hopening := length_opening_le indent p
  have hbound : ∀ cs ∈ (dumpWriter indent).texts p, cs.length < Text.lengthBound :=
    fun cs hcs => (length_le_of_mem_texts hcs).trans_lt hlength
  unfold makeRoom
  cases hp : p.1.isHole with
  | true =>
    refine ⟨_, Text.Memory.holdAll_of_holds hn hbound (by omega), by omega, by omega⟩
  | false =>
    have hpadding := padding_le_opening indent p hp
    rw [if_neg Bool.false_ne_true, Text.Memory.hold_of_holds hn (by omega) (by omega)]
    refine ⟨_, Text.Memory.holdAll_of_holds hn hbound (by omega), by omega, by omega⟩

/-- Where there is no room for a node, one of its texts cannot be counted with, or memory is
short. -/
theorem refuses_of_makeRoom_eq_error {p : Expr × ℕ}
    (h : makeRoom memory indent p held = .error shortage) :
    memory.Refuses (render indent p).length shortage := by
  have hlength : ∀ cs ∈ (dumpWriter indent).texts p, cs.length ≤ (render indent p).length :=
    fun cs => length_le_of_mem_texts
  unfold makeRoom at h
  cases hp : p.1.isHole with
  | true =>
    rw [hp, if_pos rfl] at h
    exact Text.Memory.refuses_of_holdAll_eq_error hlength h
  | false =>
    rw [hp, if_neg Bool.false_ne_true] at h
    have hpadding := (padding_le_opening indent p hp).trans (length_opening_le indent p)
    cases hroom : memory.hold (indent.toNat * (p.2 + 1)) held with
    | error shortage' =>
      rw [hroom] at h
      cases h
      exact (Text.Memory.refuses_of_hold_eq_error hroom).mono hpadding
    | ok held' =>
      rw [hroom] at h
      exact Text.Memory.refuses_of_holdAll_eq_error hlength h

/-- Where there is no room for all nodes of a tree, none of its nodes takes more than its layout. -/
theorem refuses_of_runWithin_eq_error {t : Expr} {written : List (List Char)}
    (h : (dumpWriter indent).runWithin (makeRoom memory indent) [.part (t, 0)] written held =
      .error shortage) : memory.Refuses (render indent (t, 0)).length shortage := by
  have hitems (p : Expr × ℕ) :
      Text.totalWeight (cost indent) ((dumpWriter indent).items p) ≤ cost indent p := by
    have htexts := length_texts_add_le indent p
    omega
  obtain ⟨p, held', hcost, hnode⟩ :=
    Text.Writer.exists_of_runWithin_eq_error (cost indent) hitems h
  refine (refuses_of_makeRoom_eq_error hnode).mono ?_
  simp only [Text.totalWeight, Text.Item.weight, cost] at hcost
  omega

end Room

/-! ### Trees for which there is a text -/

/-- Whether the layout of a tree can be counted with, and its indentation too. -/
structure IsWritable (indent : ℤ) (t : Expr) : Prop where
  neg_bound_le : -(Text.lengthBound : ℤ) ≤ indent
  lt_bound : indent < Text.lengthBound
  length_lt : (Json.pretty indent t.toJson).length < Text.lengthBound

section Dump

variable {memory : Text.Memory} {indent : ℤ} {t : Expr} {shortage : Text.Shortage}

theorem dump_of_out_of_bounds (h : indent < -(Text.lengthBound : ℤ) ∨ Text.lengthBound ≤ indent) :
    t.dump memory indent = .error .overflow := by
  rw [dump, if_pos h]

theorem length_render (indent : ℤ) (t : Expr) :
    (render indent (t, 0)).length = (Json.pretty indent t.toJson).length := by
  rw [toJson_eq_object]
  rfl

/-- Nothing stands in the way of a writable text but memory. -/
theorem of_refuses (h : memory.Refuses (Json.pretty indent t.toJson).length shortage) :
    shortage = .overflow ∧ ¬ IsWritable indent t ∨ shortage = .memory ∧ ∃ m, memory m = false := by
  rcases h with ⟨hoverflow, hle⟩ | hshort
  · exact .inl ⟨hoverflow, fun hwritable => (hwritable.length_lt.trans_le hle).false⟩
  · exact .inr hshort

variable (memory indent t) in
/-- A tree has its layout as its text, or there is a reason why it has none. -/
theorem dump_cases :
    t.dump memory indent = .ok (Json.pretty indent t.toJson) ∧ IsWritable indent t ∨
      ∃ shortage, t.dump memory indent = .error shortage ∧
        (shortage = .overflow ∧ ¬ IsWritable indent t ∨
          shortage = .memory ∧ ∃ m, memory m = false) := by
  by_cases hbounds : indent < -(Text.lengthBound : ℤ) ∨ Text.lengthBound ≤ indent
  · refine .inr ⟨_, dump_of_out_of_bounds hbounds, .inl ⟨rfl, fun h => ?_⟩⟩
    have hneg := h.neg_bound_le
    have hlt := h.lt_bound
    omega
  rw [dump, if_neg hbounds]
  simp only [bind, Except.bind]
  -- room is made for the spaces, then node by node, then for the whole
  cases hindent : memory.hold indent.toNat 0 with
  | error shortage =>
    refine .inr ⟨shortage, rfl, ?_⟩
    -- the count itself is in its bounds
    rcases Text.Memory.refuses_of_hold_eq_error hindent with ⟨-, hle⟩ | hshort
    · omega
    · exact .inr hshort
  | ok held =>
    dsimp only
    cases hrun : (dumpWriter indent).runWithin (makeRoom memory indent) [.part (t, 0)] [] held with
    | error shortage =>
      have hrefuses := refuses_of_runWithin_eq_error hrun
      rw [length_render] at hrefuses
      exact .inr ⟨shortage, rfl, of_refuses hrefuses⟩
    | ok result =>
      obtain ⟨texts, held'⟩ := result
      have htext : texts.reverse.flatten = Json.pretty indent t.toJson := by
        rw [Text.Writer.runWithin_eq_ok hrun]
        exact write_eq_pretty indent t
      dsimp only
      rw [htext]
      cases hwhole : memory.hold (Json.pretty indent t.toJson).length held' with
      | error shortage =>
        exact .inr ⟨shortage, rfl, of_refuses (Text.Memory.refuses_of_hold_eq_error hwhole)⟩
      | ok held'' =>
        exact .inl ⟨rfl, by omega, by omega, Text.Memory.lt_of_hold_eq_ok hwhole⟩

/-- A text that there is is the layout. -/
theorem of_dump_eq_ok {text : List Char} (h : t.dump memory indent = .ok text) :
    text = Json.pretty indent t.toJson ∧ IsWritable indent t := by
  rcases dump_cases memory indent t with ⟨hok, hwritable⟩ | ⟨_, he, -⟩
  · rw [hok] at h
    cases h
    exact ⟨rfl, hwritable⟩
  · rw [he] at h
    cases h

/-- A text is missing because it cannot be counted with, or because memory is short. -/
theorem of_dump_eq_error (h : t.dump memory indent = .error shortage) :
    shortage = .overflow ∧ ¬ IsWritable indent t ∨ shortage = .memory ∧ ∃ m, memory m = false := by
  rcases dump_cases memory indent t with ⟨hok, -⟩ | ⟨_, he, hwhy⟩
  · rw [hok] at h
    cases h
  · rw [he] at h
    cases h
    exact hwhy

/-- There is a text where memory has room for the spaces of the indentation and for four times the
layout. -/
theorem dump_of_holds (h : IsWritable indent t)
    (hmemory : memory.Holds (indent.toNat + 4 * (Json.pretty indent t.toJson).length)) :
    t.dump memory indent = .ok (Json.pretty indent t.toJson) := by
  have hlength := h.length_lt
  have hcost : Text.totalWeight (cost indent) [.part (t, 0)] =
      3 * (Json.pretty indent t.toJson).length := by
    simp [Text.totalWeight, Text.Item.weight, cost, length_render]
  have hindent : memory.hold indent.toNat 0 = .ok indent.toNat := by
    have hlt := h.lt_bound
    have hpos : 0 < Text.lengthBound := by decide
    rw [Text.Memory.hold_of_holds hmemory (by omega) (by omega), Nat.zero_add]
  have hnode (p : Expr × ℕ) (held : ℕ)
      (hp : cost indent p ≤ 3 * (Json.pretty indent t.toJson).length)
      (hheld : held + cost indent p ≤ indent.toNat + 4 * (Json.pretty indent t.toJson).length) :
      ∃ held', makeRoom memory indent p held = .ok held' ∧ held ≤ held' ∧
        held' + Text.totalWeight (cost indent) ((dumpWriter indent).items p) ≤
          held + cost indent p := by
    refine makeRoom_of_holds hmemory p ?_ hheld
    unfold cost at hp
    omega
  have hstack : indent.toNat + Text.totalWeight (cost indent) [.part (t, 0)] ≤
      indent.toNat + 4 * (Json.pretty indent t.toJson).length := by omega
  obtain ⟨held, hrun, hle⟩ := Text.Writer.runWithin_of_room [] hnode hcost.le hstack
  have htext : ((dumpWriter indent).run [.part (t, 0)] []).reverse.flatten =
      Json.pretty indent t.toJson := write_eq_pretty indent t
  have hneg := h.neg_bound_le
  have hlt := h.lt_bound
  rw [dump, if_neg (by omega), hindent]
  simp only [bind, Except.bind, hrun, htext]
  rw [Text.Memory.hold_of_holds hmemory hlength (by omega)]
  rfl

end Dump

end Tree

/-- **The text of a tree is the layout of its object.**  There is a text where the indentation is a
count, the layout can be counted with, and memory has room for it and for what is made on the way to
it.  Where the lines are not padded, for an indentation of zero or less, they still are lines. -/
theorem dump_eq_pretty (memory : Text.Memory) (indent : ℤ) (t : Expr) :
    (∀ text, t.dump memory indent = .ok text →
      text = Json.pretty indent t.toJson ∧ IsWritable indent t) ∧
    (IsWritable indent t →
      memory.Holds (indent.toNat + 4 * (Json.pretty indent t.toJson).length) →
      t.dump memory indent = .ok (Json.pretty indent t.toJson)) ∧
    (∀ shortage, t.dump memory indent = .error shortage →
      shortage = .overflow ∧ ¬ IsWritable indent t ∨
        shortage = .memory ∧ ∃ m, memory m = false) ∧
    (indent < -(Text.lengthBound : ℤ) ∨ Text.lengthBound ≤ indent →
      t.dump memory indent = .error .overflow) ∧
    t.toJson = t.object ∧
    ∀ n : ℕ, Json.pretty (-(n : ℤ)) t.toJson = t.unpadded := by
  refine ⟨fun _ => of_dump_eq_ok, dump_of_holds, fun _ => of_dump_eq_error, dump_of_out_of_bounds,
    toJson_eq_object t, fun n => ?_⟩
  rw [toJson_eq_object]
  exact render_neg n 0 t

/-- The tree of `1` has no text in which the lines are padded with as many spaces as no text has
characters. -/
theorem not_dump_wideIndent :
    (number 1).dump .unlimited 9223372036854775808 ≠
      .ok (Json.pretty 9223372036854775808 (number 1).toJson) := by
  rw [dump_of_out_of_bounds (.inr (by decide +kernel))]
  exact fun h => nomatch h

end LineCalculator
