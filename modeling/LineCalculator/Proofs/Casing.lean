/-
Case and blanks.

Changing the case of a text moves letters to letters: a blank has no other case, and no letter has a
blank for its capital or its small form.  So a text holds nothing but blanks exactly if its capital
or small form does, and stripping these gives an empty text for the same texts.

* `apart_of_mappedBy?` — what the tables of runs map, and what they map it to, is not blank;
* `isAllBlank_upper`, `isAllBlank_lower` — a change of case keeps blank texts and makes no others;
* `strip_eq_nil_iff` — nothing is left of a text exactly if it is blank.
-/
import LineCalculator.Text.Blank
import LineCalculator.Text.Case
import Mathlib.Data.List.TakeWhile

namespace LineCalculator.Text

/-! ### Stripping -/

theorem dropEndWhile_eq_nil_iff {p : Char → Bool} {cs : List Char} :
    dropEndWhile p cs = [] ↔ ∀ c ∈ cs, p c = true := by
  rw [dropEndWhile, List.reverse_eq_nil_iff, List.dropWhile_eq_nil_iff]
  simp only [List.mem_reverse]

/-- Nothing is left of a text without the blanks at its ends exactly if it holds no others. -/
theorem strip_eq_nil_iff {cs : List Char} : strip cs = [] ↔ isAllBlank cs = true := by
  rw [strip, dropEndWhile_eq_nil_iff, isAllBlank, List.all_eq_true]
  constructor
  · intro h c hc
    rw [← List.takeWhile_append_dropWhile (p := isBlank) (l := cs), List.mem_append] at hc
    rcases hc with hc | hc
    · exact List.mem_takeWhile_imp hc
    · exact h c hc
  · intro h c hc
    exact h c ((List.dropWhile_sublist isBlank).mem hc)

/-! ### The tables -/

/-- Whether no code point of a row lies in one of the ranges. -/
def Ranges.avoid (ranges : Ranges) (first last : Nat) : Bool :=
  ranges.toList.all fun (start, stop) => last < start || stop < first

theorem Ranges.contains_eq_false {ranges : Ranges} {first last : Nat} {c : Char}
    (h : ranges.avoid first last = true) (hfirst : first ≤ c.toNat) (hlast : c.toNat ≤ last) :
    ranges.contains c = false := by
  rw [Ranges.contains, Array.any_eq_false']
  intro (start, stop) hmem
  rw [Ranges.avoid, List.all_eq_true] at h
  have hapart := h (start, stop) (Array.mem_toList_iff.mpr hmem)
  simp only [Bool.or_eq_true, decide_eq_true_eq] at hapart
  simp only [Bool.and_eq_true, decide_eq_true_eq]
  omega

/-- Whether a run of letters and what it is mapped to are apart from all blanks. -/
def CaseRun.avoidsBlanks (run : CaseRun) : Bool :=
  blankRanges.avoid run.first run.last &&
    blankRanges.avoid ((run.first : Int) + run.distance).toNat
      ((run.last : Int) + run.distance).toNat

theorem avoidsBlanks_capitalRuns : capitalRuns.toList.all CaseRun.avoidsBlanks = true := by
  decide +kernel

theorem avoidsBlanks_smallRuns : smallRuns.toList.all CaseRun.avoidsBlanks = true := by
  decide +kernel

/-- No character has its own code point outside of the range of characters, and the one that stands
for it then is not blank. -/
theorem isBlank_ofNat_eq_false {first last n : Nat} (h : blankRanges.avoid first last = true)
    (hfirst : first ≤ n) (hlast : n ≤ last) : isBlank (Char.ofNat n) = false := by
  by_cases hn : n.isValidChar
  · have htoNat : (Char.ofNat n).toNat = n := by
      rw [Char.ofNat, dif_pos hn]
      rfl
    exact Ranges.contains_eq_false h (by omega) (by omega)
  · have hzero : Char.ofNat n = '\x00' := by
      rw [Char.ofNat, dif_neg hn]
      rfl
    rw [hzero]
    decide +kernel

/-- What a table of runs maps, and what it maps it to, is not blank. -/
theorem apart_of_mappedBy? {runs : Array CaseRun} (h : runs.toList.all CaseRun.avoidsBlanks = true)
    {c d : Char} (hm : mappedBy? runs c = some d) : isBlank c = false ∧ isBlank d = false := by
  obtain ⟨run, hrun, rfl⟩ := Option.map_eq_some_iff.mp hm
  have hin := Array.find?_some hrun
  have havoids : run.avoidsBlanks = true :=
    List.all_eq_true.mp h run (Array.mem_toList_iff.mpr (Array.mem_of_find?_eq_some hrun))
  simp only [Bool.and_eq_true, decide_eq_true_eq] at hin
  obtain ⟨⟨hfirst, hlast⟩, -⟩ := hin
  rw [CaseRun.avoidsBlanks, Bool.and_eq_true] at havoids
  obtain ⟨hhere, hthere⟩ := havoids
  exact ⟨Ranges.contains_eq_false hhere hfirst hlast,
    isBlank_ofNat_eq_false hthere (by omega) (by omega)⟩

/-- A blank is not in a table of runs. -/
theorem all_isBlank_getD_mappedBy? {runs : Array CaseRun}
    (h : runs.toList.all CaseRun.avoidsBlanks = true) (c : Char) :
    isAllBlank [(mappedBy? runs c).getD c] = isBlank c := by
  rw [isAllBlank, List.all_cons, List.all_nil, Bool.and_true]
  cases hm : mappedBy? runs c with
  | none => rfl
  | some d =>
    obtain ⟨hc, hd⟩ := apart_of_mappedBy? h hm
    rw [Option.getD_some, hc, hd]

/-- A character whose capital is several characters is not blank, and neither are these. -/
theorem apart_longCapitals :
    longCapitals.toList.all (fun (point, points) =>
      blankRanges.avoid point point && !isAllBlank (points.map Char.ofNat)) = true := by
  decide +kernel

/-! ### Texts -/

theorem isAllBlank_capital (c : Char) : isAllBlank (capital c) = isBlank c := by
  unfold capital
  split
  next point points hfind =>
    have hentry := List.all_eq_true.mp apart_longCapitals _
      (Array.mem_toList_iff.mpr (Array.mem_of_find?_eq_some hfind))
    have hpoint := Array.find?_some hfind
    simp only [Bool.and_eq_true, Bool.not_eq_true', beq_iff_eq] at hentry hpoint
    have hc : isBlank c = false :=
      Ranges.contains_eq_false hentry.1 (Nat.le_of_eq hpoint) (Nat.le_of_eq hpoint.symm)
    rw [hentry.2, hc]
  next => exact all_isBlank_getD_mappedBy? avoidsBlanks_capitalRuns c

theorem isAllBlank_small (c : Char) : isAllBlank (small c) = isBlank c := by
  unfold small
  split
  next hdotted =>
    have hapart : blankRanges.avoid 0x130 0x130 = true := by decide +kernel
    have hc : isBlank c = false :=
      Ranges.contains_eq_false hapart (Nat.le_of_eq hdotted.symm) (Nat.le_of_eq hdotted)
    rw [hc]
    decide +kernel
  next => exact all_isBlank_getD_mappedBy? avoidsBlanks_smallRuns c

/-- A text is blank exactly if its capital form is. -/
theorem isAllBlank_upper (cs : List Char) : isAllBlank (upper cs) = isAllBlank cs := by
  induction cs with
  | nil => rfl
  | cons c cs ih =>
    show isAllBlank (capital c ++ upper cs) = _
    have hc : (capital c).all isBlank = isBlank c := isAllBlank_capital c
    have hcs : (upper cs).all isBlank = cs.all isBlank := ih
    rw [isAllBlank, isAllBlank, List.all_append, List.all_cons, hc, hcs]

theorem isAllBlank_lowerAfter (before cs : List Char) :
    isAllBlank (lowerAfter before cs) = isAllBlank cs := by
  induction cs generalizing before with
  | nil => rfl
  | cons c cs ih =>
    -- a sigma is not blank in either of its small forms
    have hsigma : ∀ final : Bool, isAllBlank [if final then 'ς' else 'σ'] = isBlank 'Σ' := by
      decide +kernel
    have hc : isAllBlank (if c = 'Σ' then
        [if meetsCased before && !meetsCased cs then 'ς' else 'σ'] else small c) = isBlank c := by
      split
      next h => rw [h, hsigma]
      next => exact isAllBlank_small c
    have hcs := ih (c :: before)
    rw [isAllBlank] at hc hcs
    rw [lowerAfter, isAllBlank, List.all_append, hc, hcs]
    rfl

/-- A text is blank exactly if its small form is. -/
theorem isAllBlank_lower (cs : List Char) : isAllBlank (lower cs) = isAllBlank cs :=
  isAllBlank_lowerAfter [] cs

end LineCalculator.Text
