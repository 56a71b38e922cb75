/-
The object of a tree, by recursion.

The table of objects is filled from a stack.  An object is linked into the one above it while it is
still empty, and nobody but its own node, in its turn, puts fields into it; a place on the stack is
thus never that of an object which is complete.  What a turn leaves in order is `Grows`, and the run
shows at the place of each node that waits the object of its tree.

* `json_of_shows` — what a table shows of a tree at a place is the object of the tree;
* `turn_spec` — what the turn of a node does;
* `run_spec` — what the whole run does;
* `toJson_eq_object` — the object from the table is the one by recursion.
-/
import Mathlib
import LineCalculator.Tree.Objects

open LineCalculator.Tree

namespace LineCalculator

/-! ### The object of a tree by recursion -/

namespace Tree

/-- The fields that follow the type and the value, with an operand in front if it is present. -/
def operandField (key : String) (t : Expr) (value : Json) (rest : Fields) : Fields :=
  if t.isHole then rest else .cons key value rest

/-- The object of a tree: its type, its value, and its operands where present. -/
def object : Expr → Json
  | hole => .object .nil
  | number x => .object (.cons "type" (.word "number") (.cons "value" (.ofFloat x) .nil))
  | operation op l r =>
    .object (.cons "type" (.word "operator") (.cons "value" (.word op.symbol.toString)
      (operandField "left" l l.object (operandField "right" r r.object .nil))))

end Tree

/-! ### Tables that show a tree -/

/-- The fields of a node's type and value. -/
def scalarContents (kind : String) (value : Json) : Contents :=
  [("type", .value (.word kind)), ("value", .value value)]

/-- The field of an operand whose object stands at a place. -/
def operandContents (key : String) (t : Expr) (place : ℕ) : Contents :=
  if t.isHole then [] else [(key, .object place)]

/-- The fields of a node whose operands have their objects at two places. -/
def nodeContents : Expr → ℕ → ℕ → Contents
  | hole, _, _ => []
  | number x, _, _ => scalarContents "number" (.ofFloat x)
  | operation op l r, i, j =>
    scalarContents "operator" (.word op.symbol.toString) ++ operandContents "left" l i ++
      operandContents "right" r j

/-- Whether an operand that is present stands, by a relation, at a place behind another one. -/
def OperandAt (stands : Expr → ℕ → Prop) (place : ℕ) (t : Expr) (i : ℕ) : Prop :=
  t.isHole = false → place < i ∧ stands t i

theorem OperandAt.imp {stands stands' : Expr → ℕ → Prop} {place i : ℕ} {t : Expr}
    (h : OperandAt stands place t i) (himp : ∀ t i, stands t i → stands' t i) :
    OperandAt stands' place t i := fun ht =>
  ⟨(h ht).1, himp t i (h ht).2⟩

namespace Objects

variable {objects : Objects} {place : ℕ}

/-- Whether a table has the object of a tree at a place, and those of its operands at later ones. -/
def Shows (objects : Objects) : Expr → ℕ → Prop
  | operation op l r, place =>
    ∃ i j, objects[place]? = some (nodeContents (operation op l r) i j) ∧
      (l.isHole = false → place < i ∧ objects.Shows l i) ∧
      (r.isHole = false → place < j ∧ objects.Shows r j)
  | t, place => objects[place]? = some (nodeContents t 0 0)

theorem Shows.lt_size {t : Expr} (h : objects.Shows t place) : place < objects.size := by
  cases t with
  | operation op l r =>
    obtain ⟨i, j, hheld, -, -⟩ := h
    exact (Array.getElem?_eq_some_iff.mp hheld).1
  | hole => exact (Array.getElem?_eq_some_iff.mp h).1
  | number x => exact (Array.getElem?_eq_some_iff.mp h).1

theorem shows_of_contents {t : Expr} {i j : ℕ} (hheld : objects[place]? = some (nodeContents t i j))
    (h : ∀ op l r, t = operation op l r →
      OperandAt objects.Shows place l i ∧ OperandAt objects.Shows place r j) :
    objects.Shows t place := by
  cases t with
  | hole => exact hheld
  | number x => exact hheld
  | operation op l r => exact ⟨i, j, hheld, h op l r rfl⟩

theorem json_eq {held : Contents} (h : objects[place]? = some held) :
    objects.json place = .object (objects.fields place held) := by
  rw [json, h]
  rfl

theorem fields_operandContents (key : String) {t : Expr} {i : ℕ}
    (h : OperandAt objects.Shows place t i)
    (ht : ∀ i, objects.Shows t i → objects.json i = t.object) (rest : Contents) :
    objects.fields place (operandContents key t i ++ rest) =
      operandField key t t.object (objects.fields place rest) := by
  rw [operandContents, operandField]
  split
  next => rfl
  next hhole =>
    obtain ⟨hlt, hshows⟩ := h (Bool.eq_false_iff.mpr hhole)
    rw [List.cons_append, fields, if_pos ⟨hlt, hshows.lt_size⟩, ht i hshows]
    rfl

/-- What a table shows is the object of the tree. -/
theorem json_of_shows {t : Expr} (h : objects.Shows t place) : objects.json place = t.object := by
  induction t generalizing place with
  | hole =>
    rw [json_eq h, nodeContents, fields]
    rfl
  | number x =>
    rw [json_eq h, nodeContents, scalarContents]
    simp [fields, object]
  | operation op l r ihl ihr =>
    obtain ⟨i, j, hheld, hl, hr⟩ := h
    have hleft := fields_operandContents "left" hl (fun i => ihl) (operandContents "right" r j)
    have hright := fields_operandContents "right" hr (fun i => ihr) []
    rw [List.append_nil] at hright
    rw [json_eq hheld, nodeContents, scalarContents, List.append_assoc, List.cons_append,
      List.cons_append, List.nil_append, fields, fields, hleft, hright, fields, object]

end Objects

/-! ### Filling the table -/

theorem Contents.put_of_fresh {key : String} {d : Contents} (h : ∀ f ∈ d, f.1 ≠ key) (c : Content) :
    Contents.put key c d = d ++ [(key, c)] := by
  induction d with
  | nil => rfl
  | cons f d ih =>
    obtain ⟨hf, hd⟩ := List.forall_mem_cons.mp h
    rw [Contents.put, if_neg hf, ih hd]
    rfl

namespace Tree.Filling

variable {s s' s'' : Filling} {place : ℕ}

/-- Whether a node waits with its object at a place. -/
def Waits (s : Filling) (t : Expr) (place : ℕ) : Prop := (t, place) ∈ s.waiting

/-- The places of the nodes that wait. -/
def places (s : Filling) : List ℕ := s.waiting.map Prod.snd

/-- Whether the nodes that wait have places of their own, with objects that are still empty. -/
structure Valid (s : Filling) : Prop where
  nodup : s.places.Nodup
  empty : ∀ p ∈ s.places, s.objects[p]? = some []

theorem Valid.of_cons {t : Expr} {waiting : List (Expr × ℕ)} {objects : Objects}
    (h : Valid ⟨(t, place) :: waiting, objects⟩) :
    Valid ⟨waiting, objects⟩ ∧ place ∉ places ⟨waiting, objects⟩ ∧ objects[place]? = some [] := by
  obtain ⟨hnotMem, hnodup⟩ := List.nodup_cons.mp h.nodup
  exact ⟨⟨hnodup, fun p hp => h.empty p (List.mem_cons_of_mem _ hp)⟩, hnotMem,
    h.empty place List.mem_cons_self⟩

/-- What is left in order when fields are put into the object at a place: the nodes that waited wait
still, new ones have new places, and no other object is changed. -/
structure Grows (place : ℕ) (s s' : Filling) : Prop where
  valid : s.Valid → s'.Valid
  waits : ∀ t p, s.Waits t p → s'.Waits t p
  places : ∀ p ∈ s'.places, p ∈ s.places ∨ s.objects.size ≤ p
  kept : ∀ p < s.objects.size, p ≠ place → s'.objects[p]? = s.objects[p]?
  size_le : s.objects.size ≤ s'.objects.size

theorem Grows.refl (place : ℕ) (s : Filling) : Grows place s s where
  valid := id
  waits _ _ := id
  places _ hp := .inl hp
  kept _ _ _ := rfl
  size_le := Nat.le_refl _

theorem Grows.trans (h : Grows place s s') (h' : Grows place s' s'') : Grows place s s'' where
  valid := h'.valid ∘ h.valid
  waits t p := h'.waits t p ∘ h.waits t p
  places p hp := by
    rcases h'.places p hp with hp' | hle
    · exact h.places p hp'
    · exact .inr (h.size_le.trans hle)
  kept p hlt hne := by
    rw [h'.kept p (lt_of_lt_of_le hlt h.size_le) hne, h.kept p hlt hne]
  size_le := h.size_le.trans h'.size_le

/-- No node comes to wait with an object that was there before. -/
theorem Grows.notMem_places (h : Grows place s s') {p : ℕ} (hp : p ∉ s.places)
    (hlt : p < s.objects.size) : p ∉ s'.places := fun hp' =>
  (h.places p hp').elim hp hlt.not_ge

/-! ### One turn -/

theorem getElem?_put (s : Filling) (place : ℕ) (key : String) (c : Content) (p : ℕ) :
    (s.put place key c).objects[p]? =
      if place = p then s.objects[p]?.map (Contents.put key c) else s.objects[p]? :=
  Array.getElem?_modify ..

theorem getElem?_put_place (key : String) {held : Contents} (h : s.objects[place]? = some held)
    (hfresh : ∀ f ∈ held, f.1 ≠ key) (c : Content) :
    (s.put place key c).objects[place]? = some (held ++ [(key, c)]) := by
  rw [getElem?_put, if_pos rfl, h, Option.map_some, Contents.put_of_fresh hfresh]

theorem grows_put (h : place ∉ s.places) (key : String) (c : Content) :
    Grows place s (s.put place key c) where
  valid hs := by
    refine ⟨hs.nodup, fun p hp => ?_⟩
    have hne : place ≠ p := by
      rintro rfl
      exact h hp
    rw [getElem?_put, if_neg hne]
    exact hs.empty p hp
  waits _ _ := id
  places _ hp := .inl hp
  kept p _ hne := by rw [getElem?_put, if_neg hne.symm]
  size_le := Array.size_modify.ge

/-- A new node waits with an empty object of its own. -/
def add (t : Expr) (s : Filling) : Filling :=
  ⟨(t, s.objects.size) :: s.waiting, s.objects.push []⟩

theorem getElem?_add {t : Expr} {p : ℕ} (h : p < s.objects.size) :
    (s.add t).objects[p]? = s.objects[p]? :=
  (Array.getElem?_push_lt h).trans (Array.getElem?_eq_getElem h).symm

theorem grows_add (place : ℕ) (t : Expr) (s : Filling) : Grows place s (s.add t) where
  valid hs := by
    have hlt : ∀ p ∈ s.places, p < s.objects.size := fun p hp =>
      (Array.getElem?_eq_some_iff.mp (hs.empty p hp)).1
    refine ⟨List.nodup_cons.mpr ⟨fun hp => (hlt _ hp).ne rfl, hs.nodup⟩, fun p hp => ?_⟩
    rcases List.mem_cons.mp hp with rfl | hp
    · exact Array.getElem?_push_size
    · rw [getElem?_add (hlt p hp), hs.empty p hp]
  waits _ _ := List.mem_cons_of_mem _
  places p hp := by
    rcases List.mem_cons.mp hp with rfl | hp
    · exact .inr (Nat.le_refl _)
    · exact .inl hp
  kept _ hlt _ := getElem?_add hlt
  size_le := by simp [add]

/-- The type and the value are put into an empty object. -/
theorem putScalar_spec (hplace : place ∉ s.places) (hempty : s.objects[place]? = some [])
    (kind : String) (value : Json) :
    Grows place s (s.putScalar place kind value) ∧
      (s.putScalar place kind value).objects[place]? = some (scalarContents kind value) := by
  have htype := getElem?_put_place "type" hempty (by simp) (.value (.word kind))
  have hgrows := grows_put hplace "type" (.value (.word kind))
  exact ⟨hgrows.trans (grows_put (s := s.put ..) hplace ..),
    getElem?_put_place "value" htype (by simp) (.value value)⟩

/-- An operand that is present is linked behind the fields of an object, and waits then with an
object at a later place. -/
theorem putOperand_spec (key : String) (t : Expr) {held : Contents} (hplace : place ∉ s.places)
    (hheld : s.objects[place]? = some held) (hfresh : ∀ f ∈ held, f.1 ≠ key) :
    ∃ i, Grows place s (s.putOperand place key t) ∧
      (s.putOperand place key t).objects[place]? = some (held ++ operandContents key t i) ∧
      OperandAt (s.putOperand place key t).Waits place t i := by
  have hlt : place < s.objects.size := (Array.getElem?_eq_some_iff.mp hheld).1
  cases ht : t.isHole with
  | true => exact ⟨0, by simp [putOperand, operandContents, OperandAt, ht, hheld, Grows.refl]⟩
  | false =>
    set linked := s.put place key (.object s.objects.size)
    have hsize : linked.objects.size = s.objects.size := Array.size_modify
    have hadd : s.putOperand place key t = linked.add t := by
      simp [putOperand, add, put, ht, linked]
    have hlinked := getElem?_put_place key hheld hfresh (.object s.objects.size)
    have hwaits : (linked.add t).Waits t s.objects.size := hsize ▸ List.mem_cons_self
    rw [hadd]
    refine ⟨s.objects.size, (grows_put hplace ..).trans (grows_add place t linked), ?_,
      fun _ => ⟨hlt, hwaits⟩⟩
    rw [getElem?_add (hsize ▸ hlt), hlinked, operandContents, ht]
    rfl

/-- The turn of a node completes its object; the operands that are present wait then. -/
theorem turn_spec (hplace : place ∉ s.places) (hempty : s.objects[place]? = some []) (t : Expr) :
    Grows place s (turn place t s) ∧ ∃ i j,
      (turn place t s).objects[place]? = some (nodeContents t i j) ∧
      ∀ op l r, t = operation op l r →
        OperandAt (turn place t s).Waits place l i ∧
        OperandAt (turn place t s).Waits place r j := by
  have hlt : place < s.objects.size := (Array.getElem?_eq_some_iff.mp hempty).1
  cases t with
  | hole => exact ⟨Grows.refl .., 0, 0, hempty, nofun⟩
  | number x =>
    obtain ⟨hgrows, hscalar⟩ := putScalar_spec hplace hempty "number" (.ofFloat x)
    exact ⟨hgrows, 0, 0, hscalar, nofun⟩
  | operation op l r =>
    obtain ⟨hgrows, hscalar⟩ := putScalar_spec hplace hempty "operator" (.word op.symbol.toString)
    have hplace₁ := hgrows.notMem_places hplace hlt
    obtain ⟨i, hgrows₁, hleft, hl⟩ := putOperand_spec "left" l hplace₁ hscalar
      (by simp [scalarContents])
    have hplace₂ := hgrows₁.notMem_places hplace₁ (hlt.trans_le hgrows.size_le)
    obtain ⟨j, hgrows₂, hright, hr⟩ := putOperand_spec "right" r hplace₂ hleft
      (by simp [scalarContents, operandContents])
    refine ⟨(hgrows.trans hgrows₁).trans hgrows₂, i, j, hright, ?_⟩
    rintro _ _ _ ⟨⟩
    exact ⟨hl.imp hgrows₂.waits, hr⟩

/-! ### The run -/

/-- Objects of nodes that do not wait stay as they are, and those of nodes that wait become the
objects of their trees. -/
theorem run_spec (s : Filling) (hs : s.Valid) :
    (∀ p < s.objects.size, p ∉ s.places → s.run[p]? = s.objects[p]?) ∧
      ∀ t p, s.Waits t p → s.run.Shows t p := by
  fun_induction run s with
  | case1 s hwaiting => simp [Waits, hwaiting]
  | case2 s t place waiting hwaiting ih =>
    obtain ⟨_, objects⟩ := s
    obtain rfl : _ = (t, place) :: waiting := hwaiting
    obtain ⟨hrest, hplace, hempty⟩ := hs.of_cons
    obtain ⟨hgrows, i, j, hheld, hoperands⟩ := turn_spec hplace hempty t
    obtain ⟨hkept, hshows⟩ := ih (hgrows.valid hrest)
    -- the object of the node that had its turn is complete, and no later turn changes it
    refine ⟨fun p hp hnot => ?_, fun t' p hwaits => ?_⟩
    · obtain ⟨hne, hnot⟩ := not_or.mp (mt List.mem_cons.mpr hnot)
      rw [hkept p (hp.trans_le hgrows.size_le) (hgrows.notMem_places hnot hp),
        hgrows.kept p hp hne]
    · rcases List.mem_cons.mp hwaits with ⟨⟨⟩⟩ | hwaits
      · have hlt : place < objects.size := (Array.getElem?_eq_some_iff.mp hempty).1
        refine Objects.shows_of_contents (i := i) (j := j) ?_ fun op l r ht => ?_
        · rw [hkept place (hlt.trans_le hgrows.size_le) (hgrows.notMem_places hplace hlt), hheld]
        · exact ⟨(hoperands op l r ht).1.imp hshows, (hoperands op l r ht).2.imp hshows⟩
      · exact hshows t' p (hgrows.waits t' p hwaits)

end Tree.Filling

/-- The object of a tree from the table is the one by recursion. -/
theorem Tree.toJson_eq_object (t : Expr) : t.toJson = t.object := by
  have hvalid : Filling.Valid ⟨[(t, 0)], #[[]]⟩ := by
    refine ⟨List.nodup_singleton 0, fun p hp => ?_⟩
    rw [List.mem_singleton.mp hp]
    rfl
  exact Objects.json_of_shows ((Filling.run_spec _ hvalid).2 t 0 List.mem_cons_self)

end LineCalculator
