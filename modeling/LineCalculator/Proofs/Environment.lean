/-
Variables of the environment.

Each of the three variables gives one setting and is independent of the others.  A value that it
knows replaces its setting, a blank one does nothing, and any other is reported and keeps the
setting.  The variable for the indentation breaks this rule in one place: a value is taken for a
numeral when all its characters are digits, while only decimal digits, and not too many of them, can
be read.

* `Variable` — what is particular to a variable;
* `numeral?_eq_none_iff` — which rows of characters are no numerals;
* `overlay`, `reports` — the settings that the variables give, and what is reported of them;
* `apply_of_not_holdsBadNumeral`, `apply_of_holdsBadNumeral` — the whole resolution;
* `tolerated_iff` — all variables are tolerated exactly if the one for the indentation does not hold
  such a row of digits.
-/
import LineCalculator.Proofs.Casing
import LineCalculator.Settings.Environment

namespace LineCalculator

open Text

namespace Text

/-! ### Numerals -/

theorem foldlM_decimalValue?_eq_none_iff (n : Nat) (cs : List Char) :
    cs.foldlM (fun n c => (decimalValue? c).map (10 * n + ·)) n = none ↔
      ∃ c ∈ cs, decimalValue? c = none := by
  induction cs generalizing n with
  | nil => simp
  | cons c cs ih =>
    rw [List.foldlM_cons]
    cases hc : decimalValue? c with
    | none => simp [hc]
    | some d => simpa [hc] using ih (10 * n + d)

/-- A row of characters is no numeral if it is too long or holds something else than decimal
digits. -/
theorem numeral?_eq_none_iff {cs : List Char} :
    numeral? cs = none ↔ maxDigits < cs.length ∨ ∃ c ∈ cs, decimalValue? c = none := by
  rw [numeral?, decimal?]
  by_cases h : maxDigits < cs.length
  · simp [h]
  · simp [h, foldlM_decimalValue?_eq_none_iff]

/-- The characters of a numeral are digits. -/
theorem all_isDigit_of_numeral? {cs : List Char} {n : Nat} (h : numeral? cs = some n) :
    cs.all isDigit = true := by
  rw [List.all_eq_true]
  intro c hc
  have hread : ¬ (maxDigits < cs.length ∨ ∃ c ∈ cs, decimalValue? c = none) := by
    rw [← numeral?_eq_none_iff, h]
    exact Option.some_ne_none n
  cases hd : decimalValue? c with
  | none => exact absurd (.inr ⟨c, hc, hd⟩) hread
  | some d => rw [isDigit, hd, Option.isSome_some, Bool.true_or]

end Text

namespace Environment

/-! ### The variables -/

/-- What is particular to a variable of the environment. -/
structure Variable (α : Type) where
  name : String
  text : Environment → List Char
  setting : Settings → α
  /-- The value without the blanks around it, and in letters of one case if case does not matter. -/
  word : List Char → List Char
  /-- The setting that a word gives, if the variable knows the word. -/
  known? : List Char → Option α
  /-- What reports say about the words that are known. -/
  expected : List Char
  /-- A setting as reports show it. -/
  shown : α → List Char
  word_eq_nil_iff : ∀ cs, word cs = [] ↔ isAllBlank cs = true
  known?_nil : known? [] = none

namespace Variable

/-- Whether trees are shown. -/
def showTree : Variable Bool where
  name := showTreeName
  text := Environment.showTree
  setting := Settings.showTree
  word cs := strip (lower cs)
  known? word :=
    if trueWords.contains word then some true
    else if falseWords.contains word then some false
    else none
  expected := "Expected true or false; keeping ".toList
  shown b := if b then "True".toList else "False".toList
  word_eq_nil_iff cs := by rw [strip_eq_nil_iff, isAllBlank_lower]
  known?_nil := by decide +kernel

/-- The indentation of trees. -/
def treeIndent : Variable Nat where
  name := treeIndentName
  text := Environment.treeIndent
  setting := Settings.treeIndent
  word := strip
  known? word := if word = [] then none else numeral? word
  expected := "Expected a non-negative integer; keeping ".toList
  shown := Decimal.figures
  word_eq_nil_iff _ := strip_eq_nil_iff
  known?_nil := rfl

/-- The level of the log. -/
def logLevel : Variable Level where
  name := logLevelName
  text := Environment.logLevel
  setting := Settings.logLevel
  word cs := strip (upper cs)
  known? := Level.ofName?
  expected := "Valid values: ".toList ++ Level.names ++ ". Keeping ".toList
  shown level := level.name.toList
  word_eq_nil_iff cs := by rw [strip_eq_nil_iff, isAllBlank_upper]
  known?_nil := by decide +kernel

variable {α : Type} (v : Variable α) (e : Environment) (s : Settings)

/-- The setting that a variable gives, if it knows its value. -/
def given? : Option α :=
  v.known? (v.word (v.text e))

/-- The report on a value that a variable does not know. -/
def report : LogLine :=
  ⟨.warning, Settings.origin,
    "Unknown ".toList ++ v.name.toList ++ " value '".toList ++ v.word (v.text e) ++ "'. ".toList ++
      v.expected ++ v.shown (v.setting s) ++ ['.']⟩

/-- The reports on a variable. -/
def reports : List LogLine :=
  if isAllBlank (v.text e) = true ∨ (v.given? e).isSome = true then [] else [v.report e s]

/-- What a variable says. -/
def reading : Reading α :=
  match v.given? e with
  | some a => .value a
  | none =>
    if v.word (v.text e) = [] then .absent else .unknown (v.word (v.text e))

/-- A blank value is none that a variable knows. -/
theorem given?_of_isAllBlank (h : isAllBlank (v.text e) = true) : v.given? e = none := by
  rw [given?, (v.word_eq_nil_iff _).mpr h, v.known?_nil]

theorem value?_reading : (v.reading e).value? = v.given? e := by
  unfold reading
  split
  next a h => rw [h]; rfl
  next h =>
    rw [h]
    split <;> rfl

theorem toList_warning?_reading :
    ((v.reading e).warning? v.name v.expected (v.shown (v.setting s))).toList = v.reports e s := by
  unfold reading reports
  split
  next a h => simp [h, Reading.warning?]
  next h =>
    rw [h]
    by_cases hblank : isAllBlank (v.text e) = true
    · rw [if_pos ((v.word_eq_nil_iff _).mpr hblank), if_pos (.inl hblank)]
      rfl
    · rw [if_neg (mt (v.word_eq_nil_iff _).mp hblank), if_neg (by simp [hblank])]
      rfl

end Variable

/-- Whether the variable for the indentation holds digits that are not all decimal, or more of them
than are read. -/
def HoldsBadNumeral (e : Environment) : Prop :=
  (∀ c ∈ strip e.treeIndent, isDigit c = true) ∧
    (maxDigits < (strip e.treeIndent).length ∨ ∃ c ∈ strip e.treeIndent, decimalValue? c = none)

instance (e : Environment) : Decidable e.HoldsBadNumeral :=
  -- the quantifiers go over the characters of the value, not over all characters
  haveI := List.decidableBAll (fun c => isDigit c = true) (strip e.treeIndent)
  haveI := List.decidableBEx (fun c => decimalValue? c = none) (strip e.treeIndent)
  inferInstanceAs (Decidable (_ ∧ (_ ∨ _)))

variable (e : Environment) (s : Settings)

theorem readShowTree_eq : readShowTree e.showTree = Variable.showTree.reading e := by
  unfold readShowTree Variable.reading Variable.given? Variable.showTree
  simp only [List.contains_iff_mem]
  split
  · rfl
  · split <;> rfl

theorem readLogLevel_eq : readLogLevel e.logLevel = Variable.logLevel.reading e := by
  unfold readLogLevel Variable.reading Variable.given? Variable.logLevel
  dsimp only
  cases Level.ofName? (strip (upper e.logLevel)) <;> rfl

/-- The indentation is read as the other variables are, unless a row of digits is in the way. -/
theorem readTreeIndent?_of_not_holdsBadNumeral (h : ¬ e.HoldsBadNumeral) :
    readTreeIndent? e.treeIndent = some (Variable.treeIndent.reading e) := by
  unfold readTreeIndent? Variable.reading Variable.given? Variable.treeIndent
  dsimp only
  by_cases hnil : strip e.treeIndent = []
  · rw [if_pos hnil, if_pos hnil, if_pos hnil]
  rw [if_neg hnil, if_neg hnil, if_neg hnil]
  cases hread : numeral? (strip e.treeIndent) with
  | some n =>
    rw [if_pos (all_isDigit_of_numeral? hread)]
    rfl
  | none =>
    rw [if_neg]
    intro hall
    exact h ⟨List.all_eq_true.mp hall, numeral?_eq_none_iff.mp hread⟩

theorem readTreeIndent?_of_holdsBadNumeral (h : e.HoldsBadNumeral) :
    readTreeIndent? e.treeIndent = none := by
  obtain ⟨hall, hbad⟩ := h
  have hnil : strip e.treeIndent ≠ [] := by
    intro hnil
    rw [hnil] at hbad
    simp at hbad
  unfold readTreeIndent?
  dsimp only
  rw [if_neg hnil, if_pos (List.all_eq_true.mpr hall), numeral?_eq_none_iff.mpr hbad]
  rfl

/-! ### The resolution -/

/-- The settings that the variables give, over those that they leave as they are. -/
def overlay : Settings where
  prompt := s.prompt
  showTree := (Variable.showTree.given? e).getD s.showTree
  treeIndent := (Variable.treeIndent.given? e).getD s.treeIndent
  logLevel := (Variable.logLevel.given? e).getD s.logLevel

/-- The reports on the variables, in their order. -/
def reports : List LogLine :=
  Variable.showTree.reports e s ++ Variable.treeIndent.reports e s ++ Variable.logLevel.reports e s

/-- Where the indentation can be read, each variable gives its setting or is reported. -/
theorem apply_of_not_holdsBadNumeral (h : ¬ e.HoldsBadNumeral) :
    e.apply s = (some (e.overlay s), e.reports s) := by
  have hshow := Variable.showTree.toList_warning?_reading e s
  have hindent := Variable.treeIndent.toList_warning?_reading e s
  have hlevel := Variable.logLevel.toList_warning?_reading e s
  rw [apply, readTreeIndent?_of_not_holdsBadNumeral e h]
  dsimp only
  rw [showTreeWarning?, logLevelWarning?, readShowTree_eq, readLogLevel_eq, reports, ← hshow,
    ← hindent, ← hlevel, Variable.value?_reading, Variable.value?_reading, Variable.value?_reading]
  rfl

/-- Where it cannot, the resolution ends behind the first variable. -/
theorem apply_of_holdsBadNumeral (h : e.HoldsBadNumeral) :
    e.apply s = (none, Variable.showTree.reports e s) := by
  rw [apply, readTreeIndent?_of_holdsBadNumeral e h, ← Variable.toList_warning?_reading,
    ← readShowTree_eq]
  rfl

/-! ### What is tolerated -/

/-- What a variable is to do to the settings `s`, of which `s'` are made, and what is to be reported
of it. -/
structure Variable.Obeys {α : Type} (v : Variable α) (e : Environment) (s s' : Settings)
    (reports : List LogLine) : Prop where
  known : ∀ a, v.given? e = some a → v.setting s' = a ∧ reports = []
  blank : isAllBlank (v.text e) = true → v.setting s' = v.setting s ∧ reports = []
  unknown : v.given? e = none → isAllBlank (v.text e) = false →
    v.setting s' = v.setting s ∧ reports = [v.report e s]

theorem Variable.obeys {α : Type} (v : Variable α) {s' : Settings}
    (h : v.setting s' = (v.given? e).getD (v.setting s)) :
    v.Obeys e s s' (v.reports e s) := by
  refine ⟨?_, ?_, ?_⟩
  · intro a ha
    rw [ha] at h
    exact ⟨h, if_pos (.inr (by rw [ha]; rfl))⟩
  · intro hblank
    rw [v.given?_of_isAllBlank e hblank] at h
    exact ⟨h, if_pos (.inl hblank)⟩
  · intro hnone hblank
    rw [hnone] at h
    exact ⟨h, if_neg (by simp [hnone, hblank])⟩

/-- The environment gives settings, whatever its variables hold: each variable changes its own
setting or is reported, and nothing else happens. -/
def Tolerated (e : Environment) (s : Settings) : Prop :=
  ∃ (s' : Settings) (onShowTree onTreeIndent onLogLevel : List LogLine),
    e.apply s = (some s', onShowTree ++ onTreeIndent ++ onLogLevel) ∧
      s'.prompt = s.prompt ∧
      Variable.showTree.Obeys e s s' onShowTree ∧
      Variable.treeIndent.Obeys e s s' onTreeIndent ∧
      Variable.logLevel.Obeys e s s' onLogLevel

/-- **Values of the environment.**  All values are tolerated but rows of digits that are not all
decimal or too many, in the variable for the indentation; these leave no settings. -/
theorem tolerated_iff :
    (e.Tolerated s ↔ ¬ e.HoldsBadNumeral) ∧ ((e.apply s).1 = none ↔ e.HoldsBadNumeral) := by
  by_cases h : e.HoldsBadNumeral
  · have happly := apply_of_holdsBadNumeral e s h
    refine ⟨iff_of_false ?_ (not_not_intro h), iff_of_true (by rw [happly]) h⟩
    rintro ⟨s', _, _, _, heq, -⟩
    rw [happly] at heq
    cases heq
  · have happly := apply_of_not_holdsBadNumeral e s h
    refine ⟨iff_of_true ⟨_, _, _, _, happly, rfl, ?_, ?_, ?_⟩ h,
      iff_of_false (by rw [happly]; exact Option.some_ne_none _) h⟩
    · exact Variable.showTree.obeys e s rfl
    · exact Variable.treeIndent.obeys e s rfl
    · exact Variable.logLevel.obeys e s rfl

/-- A superscript two is a digit, but no decimal one. -/
theorem not_tolerated_superscript :
    ¬ Tolerated { treeIndent := ['²'] } Settings.default := by
  have hbad : HoldsBadNumeral { treeIndent := ['²'] } := by decide +kernel
  rintro ⟨s', _, _, _, heq, -⟩
  rw [apply_of_holdsBadNumeral _ _ hbad] at heq
  cases heq

end Environment

end LineCalculator
