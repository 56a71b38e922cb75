/-
Writing from a stack.

Where a text has parts inside parts, it is written from a stack of items. A finished text is written
as it stands; a part is taken apart into a text that opens it, which is written, and the items that
follow, which take its place on the stack. Parts that are nested to any depth are so written without
nesting. A weight on the parts shows that the stack runs empty. Where a text may lack room, the room
for what a part adds to it is made first (`Writer.runWithin`).

* `Writer.write_eq` — a stack writes what recursion writes, if the text of each part is its opening
  and the texts of its items;
* `Writer.runWithin_eq_ok`, `Writer.runWithin_of_room` — with room the same is written, and there is
  room for a part if what it takes can be had.
-/
namespace LineCalculator.Text

variable {α : Type}

/-- A thing to write: a finished text, or a part that is still to be taken apart. -/
inductive Item (α : Type) where
  | text (cs : List Char)
  | part (a : α)

/-- The weight of an item, where the parts have weights. -/
def Item.weight (weight : α → Nat) : Item α → Nat
  | text _ => 1
  | part a => weight a

/-- The text that an item is, unless it is a part. -/
def Item.text? : Item α → Option (List Char)
  | text cs => some cs
  | part _ => none

/-- The weight of all items of a stack. -/
def totalWeight (weight : α → Nat) : List (Item α) → Nat
  | [] => 0
  | item :: stack => item.weight weight + totalWeight weight stack

theorem totalWeight_append (weight : α → Nat) (stack stack' : List (Item α)) :
    totalWeight weight (stack ++ stack') =
      totalWeight weight stack + totalWeight weight stack' := by
  induction stack with
  | nil => exact (Nat.zero_add _).symm
  | cons item stack ih => simp [totalWeight, ih, Nat.add_assoc]

/-- How parts are taken apart: the text that opens a part, and the items that follow it, which weigh
less than the part. -/
structure Writer (α : Type) where
  opening : α → List Char
  items : α → List (Item α)
  weight : α → Nat
  weight_items : ∀ a, totalWeight weight (items a) < weight a

namespace Writer

/-- Writes the items of a stack behind the texts that are written already, the latest of them
first. -/
def run (w : Writer α) (stack : List (Item α)) (written : List (List Char)) : List (List Char) :=
  match stack with
  | [] => written
  | .text cs :: stack => w.run stack (cs :: written)
  | .part a :: stack => w.run (w.items a ++ stack) (w.opening a :: written)
termination_by totalWeight w.weight stack
decreasing_by
  · simp [totalWeight, Item.weight]
  · have := w.weight_items a
    simp [totalWeight, totalWeight_append, Item.weight]
    omega

/-- The text of a part. -/
def write (w : Writer α) (a : α) : List Char :=
  (w.run [.part a] []).reverse.flatten

/-- The texts that are made when a part is taken apart. -/
def texts (w : Writer α) (a : α) : List (List Char) :=
  w.opening a :: (w.items a).filterMap Item.text?

/-- Writes as `run` does, but makes room for each part before it is taken apart. What is held so far
is handed on. -/
def runWithin {σ ε : Type} (w : Writer α) (makeRoom : α → σ → Except ε σ) (stack : List (Item α))
    (written : List (List Char)) (held : σ) : Except ε (List (List Char) × σ) :=
  match stack with
  | [] => .ok (written, held)
  | .text cs :: stack => w.runWithin makeRoom stack (cs :: written) held
  | .part a :: stack =>
    match makeRoom a held with
    | .ok held => w.runWithin makeRoom (w.items a ++ stack) (w.opening a :: written) held
    | .error e => .error e
termination_by totalWeight w.weight stack
decreasing_by
  · simp [totalWeight, Item.weight]
  · have := w.weight_items a
    simp [totalWeight, totalWeight_append, Item.weight]
    omega

end Writer

/-- The text of an item, where the parts have texts. -/
def Item.written (render : α → List Char) : Item α → List Char
  | text cs => cs
  | part a => render a

namespace Writer

variable {σ ε : Type} {w : Writer α} {render : α → List Char}

/-- A stack is written as the texts of its items. -/
theorem run_eq (h : ∀ a, render a = w.opening a ++ (w.items a).flatMap (Item.written render))
    (stack : List (Item α)) (written : List (List Char)) :
    (w.run stack written).reverse.flatten =
      written.reverse.flatten ++ stack.flatMap (Item.written render) := by
  fun_induction Writer.run w stack written with
  | case1 written => simp
  | case2 written cs stack ih =>
    rw [ih]
    simp [Item.written]
  | case3 written a stack ih =>
    rw [ih]
    simp [Item.written, h a]

/-- Where there is room, the same is written. -/
theorem runWithin_eq_ok {makeRoom : α → σ → Except ε σ} {stack : List (Item α)}
    {written texts : List (List Char)} {held held' : σ}
    (h : w.runWithin makeRoom stack written held = .ok (texts, held')) :
    texts = w.run stack written := by
  fun_induction runWithin w makeRoom stack written held with
  | case1 written held =>
    cases h
    rw [run]
  | case2 written held cs stack ih =>
    rw [run]
    exact ih h
  | case3 written held a stack held'' hroom ih =>
    rw [run]
    exact ih h
  | case4 written held a stack e hroom => cases h

section Room

variable {makeRoom : α → Nat → Except ε Nat} {cost : α → Nat} {stack : List (Item α)}
  {written : List (List Char)} {held most n : Nat}

/-- The texts of a part are parts of its text. -/
theorem length_le_of_mem_texts
    (h : ∀ a, render a = w.opening a ++ (w.items a).flatMap (Item.written render))
    {a : α} {cs : List Char} (hcs : cs ∈ w.texts a) : cs.length ≤ (render a).length := by
  rw [h a, List.length_append]
  rcases List.mem_cons.mp hcs with rfl | hcs
  · exact Nat.le_add_right ..
  · obtain ⟨item, hitem, htext⟩ := List.mem_filterMap.mp hcs
    cases item with
    | part b => cases htext
    | text cs' =>
      cases htext
      have hwritten : cs ∈ (w.items a).map (Item.written render) := List.mem_map_of_mem hitem
      have hle := (List.sublist_flatten_of_mem hwritten).length_le
      rw [← List.flatMap_def] at hle
      omega

/-- If a part costs three times its text, its texts leave enough for its items, and twice the
opening to spare. -/
theorem length_texts_add_le
    (h : ∀ a, render a = w.opening a ++ (w.items a).flatMap (Item.written render))
    {a : α} (hne : ∀ cs, .text cs ∈ w.items a → cs ≠ []) :
    (w.texts a).flatten.length + totalWeight (fun a => 3 * (render a).length) (w.items a) +
        2 * (w.opening a).length ≤ 3 * (render a).length := by
  have hitems : ∀ items : List (Item α), (∀ cs, .text cs ∈ items → cs ≠ []) →
      (items.filterMap Item.text?).flatten.length +
          totalWeight (fun a => 3 * (render a).length) items ≤
        3 * (items.flatMap (Item.written render)).length := by
    intro items hne
    induction items with
    | nil => exact Nat.le_refl 0
    | cons item items ih =>
      have hle := ih fun cs hcs => hne cs (List.mem_cons_of_mem _ hcs)
      cases item with
      | text cs =>
        have hpos := List.length_pos_iff.mpr (hne cs List.mem_cons_self)
        simp only [Item.text?, Item.written, Item.weight, totalWeight, List.flatMap_cons,
          List.filterMap_cons, List.flatten_cons, List.length_append] at hle ⊢
        omega
      | part a =>
        simp only [Item.text?, Item.written, Item.weight, totalWeight, List.flatMap_cons,
          List.filterMap_cons, List.length_append] at hle ⊢
        omega
  have hle := hitems (w.items a) hne
  rw [texts, h a, List.flatten_cons, List.length_append, List.length_append]
  omega

variable (written) in
/-- Room for a stack, where a part costs no more room than its cost leaves for its items: there is
enough of it if no part is too dear and all items of the stack can be paid. -/
theorem runWithin_of_room
    (h : ∀ a held, cost a ≤ most → held + cost a ≤ n →
      ∃ held', makeRoom a held = .ok held' ∧ held ≤ held' ∧
        held' + totalWeight cost (w.items a) ≤ held + cost a)
    (hmost : totalWeight cost stack ≤ most) (hn : held + totalWeight cost stack ≤ n) :
    ∃ held', w.runWithin makeRoom stack written held = .ok (w.run stack written, held') ∧
      held' ≤ held + totalWeight cost stack := by
  fun_induction run w stack written generalizing held with
  | case1 written =>
    rw [runWithin]
    exact ⟨held, rfl, Nat.le_add_right ..⟩
  | case2 written cs stack ih =>
    simp only [totalWeight, Item.weight] at hmost hn ⊢
    have hstack : held + totalWeight cost stack ≤ n := by omega
    obtain ⟨held', hrun, hle⟩ := ih (by omega) hstack
    rw [runWithin]
    exact ⟨held', hrun, by omega⟩
  | case3 written a stack ih =>
    simp only [totalWeight, Item.weight] at hmost hn ⊢
    -- the items of the part are paid from what its cost leaves
    obtain ⟨held', hroom, hgrows, hitems⟩ := h a held (by omega) (by omega)
    have hstack : held' + totalWeight cost (w.items a ++ stack) ≤ n := by
      rw [totalWeight_append]
      omega
    obtain ⟨held'', hrun, hle⟩ := ih (by rw [totalWeight_append]; omega) hstack
    rw [totalWeight_append] at hle
    rw [runWithin, hroom]
    exact ⟨held'', hrun, by omega⟩

variable (cost) in
/-- Where a stack finds no room, a part is to blame that costs no more than the stack. -/
theorem exists_of_runWithin_eq_error {e : ε} (h : ∀ a, totalWeight cost (w.items a) ≤ cost a)
    (hrun : w.runWithin makeRoom stack written held = .error e) :
    ∃ a held', cost a ≤ totalWeight cost stack ∧ makeRoom a held' = .error e := by
  fun_induction runWithin w makeRoom stack written held with
  | case1 => cases hrun
  | case2 written held cs stack ih =>
    obtain ⟨a, held', hle, hroom⟩ := ih hrun
    exact ⟨a, held', Nat.le_trans hle (Nat.le_add_left ..), hroom⟩
  | case3 written held a stack held'' _ ih =>
    obtain ⟨b, held', hle, hroom⟩ := ih hrun
    have hitems := h a
    rw [totalWeight_append] at hle
    simp only [totalWeight, Item.weight]
    exact ⟨b, held', by omega, hroom⟩
  | case4 written held a stack e hroom =>
    cases hrun
    exact ⟨a, held, Nat.le_add_right .., hroom⟩

end Room

theorem write_eq (h : ∀ a, render a = w.opening a ++ (w.items a).flatMap (Item.written render))
    (a : α) : w.write a = render a := by
  rw [write, run_eq h]
  simp [Item.written]

end Writer

end LineCalculator.Text
