/-
Room for texts.

A text can be made if its length can be counted with and if memory has room for it. How much room
there is is up to the machine, so a memory is whatever it answers when it is asked.

* `Memory.holdAll_of_holds` — texts are made where there is room for all of them;
* `Memory.refuses_of_holdAll_eq_error` — why texts are not made.
-/
namespace LineCalculator.Text

/-- The bound of the counts and lengths that a text can have. -/
def lengthBound : Nat :=
  Nat.pow 2 63

/-- Why a text cannot be made. -/
inductive Shortage where
  /-- A count or a length is out of bounds. -/
  | overflow
  /-- There is no room for it. -/
  | memory
deriving DecidableEq, Repr

/-- Whether there is room for texts that have so many characters in all. -/
abbrev Memory := Nat → Bool

namespace Memory

/-- A memory that has room for any text. -/
def unlimited : Memory :=
  fun _ => true

/-- Makes a text of a length besides those that are held, which have so many characters; with it
they have the characters that are returned. -/
def hold (memory : Memory) (length held : Nat) : Except Shortage Nat :=
  if lengthBound ≤ length then .error .overflow
  else if memory (held + length) then .ok (held + length)
  else .error .memory

/-- Makes texts, one after the other. -/
def holdAll (memory : Memory) (texts : List (List Char)) (held : Nat) : Except Shortage Nat :=
  texts.foldlM (fun held cs => memory.hold cs.length held) held

/-- Whether there is room for up to so many characters. -/
def Holds (memory : Memory) (n : Nat) : Prop :=
  ∀ m ≤ n, memory m = true

/-- Whether a shortage is why texts of up to so many characters are not made. -/
def Refuses (memory : Memory) (n : Nat) (shortage : Shortage) : Prop :=
  shortage = .overflow ∧ lengthBound ≤ n ∨ shortage = .memory ∧ ∃ m, memory m = false

section Hold

variable {memory : Memory} {length held n : Nat} {shortage : Shortage}

theorem Refuses.mono {n' : Nat} (h : memory.Refuses n shortage) (hle : n ≤ n') :
    memory.Refuses n' shortage := by
  rcases h with ⟨hoverflow, hbound⟩ | hshort
  · exact .inl ⟨hoverflow, Nat.le_trans hbound hle⟩
  · exact .inr hshort

theorem hold_of_holds (h : memory.Holds n) (hlength : length < lengthBound)
    (hle : held + length ≤ n) : memory.hold length held = .ok (held + length) := by
  rw [hold, if_neg (Nat.not_le_of_lt hlength), if_pos (h _ hle)]

theorem lt_of_hold_eq_ok {held' : Nat} (h : memory.hold length held = .ok held') :
    length < lengthBound := by
  unfold hold at h
  split at h
  next => cases h
  next hlt => exact Nat.lt_of_not_le hlt

theorem refuses_of_hold_eq_error (h : memory.hold length held = .error shortage) :
    memory.Refuses length shortage := by
  unfold hold at h
  split at h
  next hle =>
    cases h
    exact .inl ⟨rfl, hle⟩
  next =>
    split at h
    next => cases h
    next hroom =>
      cases h
      exact .inr ⟨rfl, _, Bool.eq_false_iff.mpr hroom⟩

/-- Where there is room for all texts, they are made. -/
theorem holdAll_of_holds (h : memory.Holds n) {texts : List (List Char)}
    (hlength : ∀ cs ∈ texts, cs.length < lengthBound) (hle : held + texts.flatten.length ≤ n) :
    memory.holdAll texts held = .ok (held + texts.flatten.length) := by
  induction texts generalizing held with
  | nil => rfl
  | cons cs texts ih =>
    rw [List.flatten_cons, List.length_append] at hle ⊢
    have hle' : held + cs.length ≤ n := by omega
    have hrest : held + cs.length + texts.flatten.length ≤ n := by omega
    have hcs := hold_of_holds h (hlength cs List.mem_cons_self) hle'
    have htexts := ih (fun cs hcs => hlength cs (List.mem_cons_of_mem _ hcs)) hrest
    rw [holdAll, List.foldlM_cons, hcs, ← Nat.add_assoc, ← htexts]
    rfl

/-- Texts are not made because of one among them. -/
theorem refuses_of_holdAll_eq_error {texts : List (List Char)}
    (hlength : ∀ cs ∈ texts, cs.length ≤ n) (h : memory.holdAll texts held = .error shortage) :
    memory.Refuses n shortage := by
  induction texts generalizing held with
  | nil => cases h
  | cons cs texts ih =>
    rw [holdAll, List.foldlM_cons] at h
    cases hcs : memory.hold cs.length held with
    | error shortage' =>
      rw [hcs] at h
      cases h
      exact (refuses_of_hold_eq_error hcs).mono (hlength cs List.mem_cons_self)
    | ok held' =>
      rw [hcs] at h
      exact ih (fun cs hcs => hlength cs (List.mem_cons_of_mem _ hcs)) h

end Hold

end Memory

end LineCalculator.Text
