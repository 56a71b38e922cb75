/-
Resolving the settings field by field.

Each setting has sources of its own: its variable, then its key in the table `calc` of the
configuration file, then the default; the prompt has no variable.  The first source that says
something decides, and no other setting has a part in it.  Of several keys that cannot be used the
first is named, in the order in which they are looked up.  The options of an evaluation stand before
all of these.

* `Key` — what is particular to a key of the file, with the values that it may have;
* `Flawed`, `IsFirstFlaw` — what can be wrong with a document, and what is named of it;
* `ofDocument_cases` — the layer that a document gives, or its first flaw;
* `Resolved`, `Key.Resolves.eq` — the sources of each setting, which leave no choice;
* `settings_resolve` — the outcome, the reports and the settings of an evaluation.
-/
import LineCalculator.Console.Session
import LineCalculator.Proofs.Loading
import Mathlib

namespace LineCalculator

open Toml

/-! ### Keys of the file -/

/-- A level is found by its name. -/
theorem Level.ofName?_eq_some_iff {text : List Char} {level : Level} :
    ofName? text = some level ↔ text = level.name.toList := by
  constructor
  · intro h
    have hname := List.find?_some h
    exact (beq_iff_eq.mp hname).symm
  · rintro rfl
    exact ofName?_name level

/-- What is particular to a key of the table `calc`. -/
structure Key (α : Type) where
  name : String
  flaw : SettingsFlaw
  read? : Value → Option α
  /-- Whether a value stands for a setting. -/
  Means : Value → α → Prop
  read?_eq_some_iff : ∀ value a, read? value = some a ↔ Means value a
  /-- What is reported of a bad value begins with the key. -/
  prefix_message : "calc.".toList ++ name.toList <+: flaw.message

namespace Key

/-- The text that asks for an expression: any text. -/
def prompt : Key (List Char) where
  name := "prompt"
  flaw := .prompt
  read? := Layer.text?
  Means value text := value = .text text
  read?_eq_some_iff value text := by cases value <;> simp [Layer.text?]
  prefix_message := by decide +kernel

/-- Whether trees are shown: a truth value. -/
def showTree : Key Bool where
  name := "show_tree"
  flaw := .showTree
  read? := Layer.boolean?
  Means value b := value = .boolean b
  read?_eq_some_iff value b := by cases value <;> simp [Layer.boolean?]
  prefix_message := by decide +kernel

/-- The indentation of trees: an integer that is not negative. -/
def treeIndent : Key Nat where
  name := "tree_indent"
  flaw := .treeIndent
  read? := Layer.natural?
  Means value n := value = .integer n
  read?_eq_some_iff value n := by
    cases value with
    | integer k =>
      cases k with
      | ofNat k =>
        simp only [Layer.natural?, Option.some.injEq, Value.integer.injEq, Int.ofNat_eq_natCast]
        omega
      | negSucc k => simp [Layer.natural?]
    | _ => simp [Layer.natural?]
  prefix_message := by decide +kernel

/-- The level of the log: a text that is the name of a level when it is put in capitals. -/
def logLevel : Key Level where
  name := "log_level"
  flaw := .logLevel
  read? := Layer.level?
  Means value level := ∃ text, value = .text text ∧ Text.upper text = level.name.toList
  read?_eq_some_iff value level := by
    cases value <;> simp [Layer.level?, Level.ofName?_eq_some_iff]
  prefix_message := by decide +kernel

variable {α : Type} (k : Key α) (t : Table)

/-- Whether the table gives a key a value that it may not have. -/
def IsBad : Prop :=
  ∃ value, t.find? k.name.toList = some value ∧ ∀ a, ¬ k.Means value a

/-- Whether the table gives a key the value of a setting, or nothing. -/
def Says : Option α → Prop
  | some a => ∃ value, t.find? k.name.toList = some value ∧ k.Means value a
  | none => t.find? k.name.toList = none

/-- What is read of a key from a table. -/
def setting? : Except SettingsFlaw (Option α) :=
  Layer.setting? t k.name k.flaw k.read?

/-- A key is read from a table, or its value is bad. -/
theorem setting?_cases :
    (k.IsBad t ∧ k.setting? t = .error k.flaw) ∨
      (¬ k.IsBad t ∧ ∃ a?, k.setting? t = .ok a? ∧ k.Says t a?) := by
  unfold setting? Layer.setting?
  cases hfind : t.find? k.name.toList with
  | none =>
    refine .inr ⟨?_, none, rfl, hfind⟩
    rintro ⟨value, hvalue, -⟩
    rw [hfind] at hvalue
    cases hvalue
  | some value =>
    dsimp only
    cases hread : k.read? value with
    | none =>
      refine .inl ⟨⟨value, hfind, ?_⟩, rfl⟩
      intro a ha
      rw [(k.read?_eq_some_iff value a).mpr ha] at hread
      cases hread
    | some a =>
      have hmeans : k.Means value a := (k.read?_eq_some_iff value a).mp hread
      refine .inr ⟨?_, some a, rfl, value, hfind, hmeans⟩
      rintro ⟨value', hvalue', hbad⟩
      rw [hfind] at hvalue'
      cases hvalue'
      exact hbad a hmeans

end Key

/-! ### Documents -/

/-- What a document holds under the name of the calculator, if there is a document. -/
def calcValue? (document? : Option Table) : Option Value :=
  document?.bind (Table.find? "calc".toList)

/-- The table of the calculator; an empty one if there is none. -/
def calcTable : Option Value → Table
  | some (.table t) => t
  | _ => []

/-- What is wrong with the value under the name of the calculator: it is no table, or a key of the
table is bad. -/
def Flawed (calc? : Option Value) : SettingsFlaw → Prop
  | .table => ∃ value, calc? = some value ∧ ∀ t, value ≠ .table t
  | .prompt => Key.prompt.IsBad (calcTable calc?)
  | .showTree => Key.showTree.IsBad (calcTable calc?)
  | .treeIndent => Key.treeIndent.IsBad (calcTable calc?)
  | .logLevel => Key.logLevel.IsBad (calcTable calc?)

/-- The place of a flaw in the order in which flaws are looked for. -/
def SettingsFlaw.place : SettingsFlaw → Nat
  | table => 0
  | prompt => 1
  | showTree => 2
  | treeIndent => 3
  | logLevel => 4

theorem SettingsFlaw.place_inj {flaw flaw' : SettingsFlaw} (h : flaw.place = flaw'.place) :
    flaw = flaw' := by
  cases flaw <;> cases flaw' <;> first | rfl | cases h

/-- Whether there is no flaw of which the place is before `n`. -/
def NoFlawBefore (calc? : Option Value) (n : Nat) : Prop :=
  ∀ flaw : SettingsFlaw, flaw.place < n → ¬ Flawed calc? flaw

/-- Whether a flaw is the first one. -/
def IsFirstFlaw (calc? : Option Value) (flaw : SettingsFlaw) : Prop :=
  Flawed calc? flaw ∧ NoFlawBefore calc? flaw.place

theorem NoFlawBefore.step {calc? : Option Value} (flaw : SettingsFlaw)
    (h : NoFlawBefore calc? flaw.place) (hflaw : ¬ Flawed calc? flaw) :
    NoFlawBefore calc? (flaw.place + 1) := by
  intro other hlt
  rcases Nat.lt_succ_iff_lt_or_eq.mp hlt with hbefore | heq
  · exact h other hbefore
  · rw [SettingsFlaw.place_inj heq]
    exact hflaw

/-- Whether a layer holds what the keys of a table say. -/
structure Layer.Fits (l : Layer) (t : Table) : Prop where
  prompt : Key.prompt.Says t l.prompt?
  showTree : Key.showTree.Says t l.showTree?
  treeIndent : Key.treeIndent.Says t l.treeIndent?
  logLevel : Key.logLevel.Says t l.logLevel?

/-- No key of an empty table is bad. -/
theorem Key.not_isBad_nil {α : Type} (k : Key α) : ¬ k.IsBad [] := by
  rintro ⟨value, hvalue, -⟩
  cases hvalue

theorem not_flawed_none (flaw : SettingsFlaw) : ¬ Flawed none flaw := by
  cases flaw with
  | table =>
    rintro ⟨value, hvalue, -⟩
    cases hvalue
  | prompt => exact Key.not_isBad_nil _
  | showTree => exact Key.not_isBad_nil _
  | treeIndent => exact Key.not_isBad_nil _
  | logLevel => exact Key.not_isBad_nil _

theorem not_flawed_table (t : Table) : ¬ Flawed (some (.table t)) .table := by
  rintro ⟨value, hvalue, hne⟩
  cases hvalue
  exact hne t rfl

/-- What follows on reading a key: its value is bad, and is the first flaw if there was none before,
or the reading goes on. -/
theorem Key.bind_setting?_cases {α β : Type} (k : Key α) {t : Table}
    (hflaw : Flawed (some (.table t)) k.flaw ↔ k.IsBad t)
    (before : NoFlawBefore (some (.table t)) k.flaw.place)
    (next : Option α → Except SettingsFlaw β) :
    (∃ flaw, IsFirstFlaw (some (.table t)) flaw ∧ (k.setting? t >>= next) = .error flaw) ∨
      (NoFlawBefore (some (.table t)) (k.flaw.place + 1) ∧
        ∃ a?, (k.setting? t >>= next) = next a? ∧ k.Says t a?) := by
  rcases k.setting?_cases t with ⟨hbad, hread⟩ | ⟨hgood, a?, hread, hsays⟩
  · refine .inl ⟨k.flaw, ⟨hflaw.mpr hbad, before⟩, ?_⟩
    rw [hread]
    rfl
  · refine .inr ⟨before.step k.flaw (mt hflaw.mp hgood), a?, ?_, hsays⟩
    rw [hread]
    rfl

theorem ofTable_eq (t : Table) :
    Layer.ofTable t = do
      let prompt? ← Key.prompt.setting? t
      let showTree? ← Key.showTree.setting? t
      let treeIndent? ← Key.treeIndent.setting? t
      let logLevel? ← Key.logLevel.setting? t
      return { prompt?, showTree?, treeIndent?, logLevel? } :=
  rfl

/-- The layer of a table, or its first bad key. -/
theorem ofTable_cases (t : Table) :
    (∃ flaw, IsFirstFlaw (some (.table t)) flaw ∧ Layer.ofTable t = .error flaw) ∨
      ((∀ flaw, ¬ Flawed (some (.table t)) flaw) ∧
        ∃ l, Layer.ofTable t = .ok l ∧ l.Fits t) := by
  have before : NoFlawBefore (some (.table t)) SettingsFlaw.table.place := by
    intro flaw hlt
    exact absurd hlt (Nat.not_lt_zero _)
  have beforePrompt := before.step .table (not_flawed_table t)
  rw [ofTable_eq]
  -- the keys are read one after the other, and the first bad one ends the reading
  rcases Key.prompt.bind_setting?_cases Iff.rfl beforePrompt _ with
    hfirst | ⟨beforeShow, prompt?, heq, saysPrompt⟩
  · exact .inl hfirst
  rw [heq]
  rcases Key.showTree.bind_setting?_cases Iff.rfl beforeShow _ with
    hfirst | ⟨beforeIndent, showTree?, heq, saysShow⟩
  · exact .inl hfirst
  rw [heq]
  rcases Key.treeIndent.bind_setting?_cases Iff.rfl beforeIndent _ with
    hfirst | ⟨beforeLevel, treeIndent?, heq, saysIndent⟩
  · exact .inl hfirst
  rw [heq]
  rcases Key.logLevel.bind_setting?_cases Iff.rfl beforeLevel _ with
    hfirst | ⟨beforeEnd, logLevel?, heq, saysLevel⟩
  · exact .inl hfirst
  rw [heq]
  refine .inr ⟨?_, _, rfl, saysPrompt, saysShow, saysIndent, saysLevel⟩
  intro flaw
  exact beforeEnd flaw (by cases flaw <;> decide)

/-- The layer of a document, or its first flaw. -/
theorem ofDocument_cases (document : Table) :
    (∃ flaw, IsFirstFlaw (calcValue? (some document)) flaw ∧
        Layer.ofDocument document = .error flaw) ∨
      ((∀ flaw, ¬ Flawed (calcValue? (some document)) flaw) ∧
        ∃ l, Layer.ofDocument document = .ok l ∧
          l.Fits (calcTable (calcValue? (some document)))) := by
  have hcalc : calcValue? (some document) = document.find? "calc".toList := rfl
  rw [hcalc]
  unfold Layer.ofDocument
  cases document.find? "calc".toList with
  | none => exact .inr ⟨not_flawed_none, {}, rfl, rfl, rfl, rfl, rfl⟩
  | some value =>
    cases value with
    | table t => exact ofTable_cases t
    | _ =>
      refine .inl ⟨.table, ⟨⟨_, rfl, ?_⟩, ?_⟩, rfl⟩
      · intro t ht
        cases ht
      · intro other hlt
        exact absurd hlt (Nat.not_lt_zero _)

/-! ### Sources -/

/-- The sources of a setting: what its variable gives, or else what its key says in the table of the
calculator, or else the default. -/
inductive Key.Resolves {α : Type} (k : Key α) (given? : Option α) (t : Table) (default : α) :
    α → Prop
  | byVariable {a : α} (h : given? = some a) : Resolves k given? t default a
  | byFile {a : α} (hgiven : given? = none) (h : k.Says t (some a)) : Resolves k given? t default a
  | byDefault (hgiven : given? = none) (h : k.Says t none) : Resolves k given? t default default

theorem Key.Says.resolves {α : Type} {k : Key α} {t : Table} {a? : Option α} (h : k.Says t a?)
    (given? : Option α) (default : α) :
    k.Resolves given? t default (given?.getD (a?.getD default)) := by
  cases given? with
  | some a => exact .byVariable rfl
  | none =>
    cases a? with
    | some a => exact .byFile rfl h
    | none => exact .byDefault rfl h

/-- A table says one thing of a key. -/
theorem Key.Says.unique {α : Type} {k : Key α} {t : Table} {a? b? : Option α} (h : k.Says t a?)
    (h' : k.Says t b?) : a? = b? := by
  cases a? with
  | none =>
    cases b? with
    | none => rfl
    | some b =>
      obtain ⟨value, hfind, -⟩ := h'
      rw [Key.Says, hfind] at h
      cases h
  | some a =>
    obtain ⟨value, hfind, hmeans⟩ := h
    cases b? with
    | none =>
      rw [Key.Says, hfind] at h'
      cases h'
    | some b =>
      obtain ⟨value', hfind', hmeans'⟩ := h'
      rw [hfind] at hfind'
      cases hfind'
      rw [← (k.read?_eq_some_iff value a).mpr hmeans, (k.read?_eq_some_iff value b).mpr hmeans']

/-- The sources of a setting leave no choice. -/
theorem Key.Resolves.eq {α : Type} {k : Key α} {given? a? : Option α} {t : Table} {default a : α}
    (h : k.Resolves given? t default a) (ha : k.Says t a?) :
    a = given?.getD (a?.getD default) := by
  cases h with
  | byVariable h => rw [h]; rfl
  | byFile hgiven h => rw [hgiven, ha.unique h]; rfl
  | byDefault hgiven h => rw [hgiven, ha.unique h]; rfl

/-- Where each of the settings that were resolved comes from. -/
structure Resolved (t : Table) (e : Environment) (s : Settings) : Prop where
  prompt : Key.prompt.Resolves none t Settings.default.prompt s.prompt
  showTree :
    Key.showTree.Resolves (Environment.Variable.showTree.given? e) t Settings.default.showTree
      s.showTree
  treeIndent :
    Key.treeIndent.Resolves (Environment.Variable.treeIndent.given? e) t
      Settings.default.treeIndent s.treeIndent
  logLevel :
    Key.logLevel.Resolves (Environment.Variable.logLevel.given? e) t Settings.default.logLevel
      s.logLevel

/-- Whether a configuration file gives a document, or is absent and need not be there. -/
inductive ConfigFile.Gives (c : ConfigFile) (reach : Reach) : Option Table → Prop
  | document {entry : FileEntry} {document : Table} (hfound : c.found? = some entry)
      (h : Table.ofFile reach entry = .ok document) : Gives c reach (some document)
  | absent (hfound : c.found? = none) (h : c.isRequired = false) : Gives c reach none

/-- The layer of a configuration file that gives a document or nothing, or the first flaw. -/
theorem ConfigFile.Gives.layer?_cases {c : ConfigFile} {reach : Reach} {document? : Option Table}
    (h : c.Gives reach document?) :
    (∃ flaw, IsFirstFlaw (calcValue? document?) flaw ∧
        c.layer? reach = .error (.invalid c.path flaw)) ∨
      ((∀ flaw, ¬ Flawed (calcValue? document?) flaw) ∧
        ∃ layer?, c.layer? reach = .ok layer? ∧
          (layer?.getD {}).Fits (calcTable (calcValue? document?))) := by
  cases h with
  | document hfound hfile =>
    rw [layer?_of_document hfound hfile]
    rcases ofDocument_cases _ with ⟨flaw, hfirst, hlayer⟩ | ⟨hnone, l, hlayer, hfits⟩
    · exact .inl ⟨flaw, hfirst, by rw [hlayer]; rfl⟩
    · exact .inr ⟨hnone, some l, by rw [hlayer]; rfl, hfits⟩
  | absent hfound hrequired =>
    rw [layer?_of_absent hfound, hrequired]
    exact .inr ⟨not_flawed_none, none, rfl, rfl, rfl, rfl, rfl⟩

/-- A variable that is reported keeps its setting, so a report shows the setting that stays. -/
theorem Environment.Variable.reports_congr {α : Type} (v : Environment.Variable α)
    (e : Environment) {s s' : Settings} (h : v.setting s' = (v.given? e).getD (v.setting s)) :
    v.reports e s' = v.reports e s := by
  unfold Environment.Variable.reports
  split
  · rfl
  · rename_i hreported
    have hnone : v.given? e = none := by
      cases hgiven : v.given? e with
      | none => rfl
      | some a => exact absurd (.inr (by rw [hgiven]; rfl)) hreported
    rw [hnone] at h
    rw [Environment.Variable.report, Environment.Variable.report, h]
    rfl

theorem Environment.reports_overlay (e : Environment) (s : Settings) :
    e.reports (e.overlay s) = e.reports s := by
  have hshow : Variable.showTree.reports e (e.overlay s) = Variable.showTree.reports e s :=
    Variable.showTree.reports_congr e rfl
  have hindent : Variable.treeIndent.reports e (e.overlay s) = Variable.treeIndent.reports e s :=
    Variable.treeIndent.reports_congr e rfl
  have hlevel : Variable.logLevel.reports e (e.overlay s) = Variable.logLevel.reports e s :=
    Variable.logLevel.reports_congr e rfl
  rw [reports, hshow, hindent, hlevel, reports]

/-- All reports on the variables are warnings. -/
theorem Environment.level_of_mem_reports {e : Environment} {s : Settings} {l : LogLine}
    (h : l ∈ e.reports s) : l.level = .warning := by
  have hone {α : Type} (v : Variable α) (h : l ∈ v.reports e s) : l.level = .warning := by
    unfold Variable.reports at h
    split at h
    · cases h
    · rw [List.mem_singleton.mp h]
      rfl
  rw [reports, List.mem_append, List.mem_append] at h
  rcases h with (h | h) | h
  · exact hone _ h
  · exact hone _ h
  · exact hone _ h

/-- What a document and the environment give: the first flaw of the document, or no settings as the
indentation cannot be read, or settings with a source each. -/
theorem load_cases {c : ConfigFile} {reach : Reach} {document? : Option Table}
    (hc : c.Gives reach document?) (e : Environment) :
    (∃ flaw, IsFirstFlaw (calcValue? document?) flaw ∧
        Settings.load reach c e = ⟨.error (.invalid c.path flaw), []⟩) ∨
      ((∀ flaw, ¬ Flawed (calcValue? document?) flaw) ∧ e.HoldsBadNumeral ∧
        (Settings.load reach c e).outcome = .error .badNumeral) ∨
      ((∀ flaw, ¬ Flawed (calcValue? document?) flaw) ∧ ¬ e.HoldsBadNumeral ∧
        ∃ s, (Settings.load reach c e).outcome = .ok s ∧
          (Settings.load reach c e).log.filter (·.isShownAt .warning) = e.reports s ∧
          Resolved (calcTable (calcValue? document?)) e s) := by
  rcases hc.layer?_cases with ⟨flaw, hfirst, hlayer⟩ | ⟨hnone, layer?, hlayer, hfits⟩
  · exact .inl ⟨flaw, hfirst, load_of_layer?_error hlayer⟩
  by_cases he : e.HoldsBadNumeral
  · exact .inr (.inl ⟨hnone, he, load_of_holdsBadNumeral hlayer he⟩)
  have hload := load_of_layer?_ok hlayer he
  refine .inr (.inr ⟨hnone, he, e.overlay (baseOf layer?), by rw [hload], ?_, ?_⟩)
  · have hloaded :
        (layer?.map fun _ => c.loadedLine).toList.filter (·.isShownAt .warning) = [] := by
      cases layer? <;> rfl
    have hreports : (e.reports (baseOf layer?)).filter (·.isShownAt .warning) =
        e.reports (baseOf layer?) := by
      refine List.filter_eq_self.mpr ?_
      intro l hl
      rw [LogLine.isShownAt, Environment.level_of_mem_reports hl]
      rfl
    rw [hload, List.filter_append, hloaded, hreports, e.reports_overlay]
    rfl
  · exact ⟨hfits.prompt.resolves none _, hfits.showTree.resolves _ _,
      hfits.treeIndent.resolves _ _, hfits.logLevel.resolves _ _⟩

/-! ### Options -/

/-- Whether the settings of an evaluation are those that its options choose, over the ones that were
resolved. -/
structure Console.EvalChoices.Overrides (choices : Console.EvalChoices) (s t : Settings) :
    Prop where
  prompt : t.prompt = s.prompt
  showTree : t.showTree = choices.showTree?.getD s.showTree
  treeIndent : some t.treeIndent =
    match choices.indent? with
    | none => some s.treeIndent
    | some word => Console.wholeNumber? word
  logLevel : t.logLevel = if choices.verbose then .debug else s.logLevel

/-- An evaluation puts its options before the settings that were resolved. -/
theorem overrides_of_layer? {choices : Console.EvalChoices} {layer : Layer} (s : Settings)
    (h : choices.layer? = some layer) : choices.Overrides s (s.under layer) := by
  unfold Console.EvalChoices.layer? at h
  have hlevel : (if choices.verbose then some Level.debug else none).getD s.logLevel =
      if choices.verbose then .debug else s.logLevel := by
    cases choices.verbose <;> rfl
  cases hindent : choices.indent? with
  | none =>
    rw [hindent] at h
    cases h
    exact ⟨rfl, rfl, by rw [hindent]; rfl, hlevel⟩
  | some word =>
    rw [hindent] at h
    cases hword : Console.wholeNumber? word with
    | none => simp [hword] at h
    | some n =>
      simp only [hword] at h
      cases h
      exact ⟨rfl, rfl, by rw [hindent]; exact hword.symm, hlevel⟩

/-! ### The whole resolution -/

/-- **Settings, field by field.**  Of a document with flaws the first is named, and nothing is
reported.  Otherwise there are settings, if the indentation can be read from the environment: each
comes from its own variable, or else its own key, or else the default; the warnings are those of the
variables that hold a value that they do not know; and an evaluation puts its options before. -/
theorem settings_resolve {c : ConfigFile} {reach : Reach} {document? : Option Table}
    (hc : c.Gives reach document?) (e : Environment) :
    (∀ flaw, Flawed (calcValue? document?) flaw → ∃ first,
        IsFirstFlaw (calcValue? document?) first ∧
          Settings.load reach c e = ⟨.error (.invalid c.path first), []⟩ ∧
          (LoadFault.invalid c.path first).fault? =
            some (.configuration (c.path ++ ": ".toList ++ first.message) none)) ∧
      ((∃ s, (Settings.load reach c e).outcome = .ok s) ↔
        (∀ flaw, ¬ Flawed (calcValue? document?) flaw) ∧ ¬ e.HoldsBadNumeral) ∧
      ∀ s, (Settings.load reach c e).outcome = .ok s →
        Resolved (calcTable (calcValue? document?)) e s ∧
          s.logLevel ∈ Level.all ∧ (0 : Int) ≤ s.treeIndent ∧
          (Settings.load reach c e).log.filter (·.isShownAt .warning) = e.reports s ∧
          ∀ (platform : Console.Platform) (choices : Console.EvalChoices) (layer : Layer),
            choices.layer? = some layer →
            ∃ session,
              Console.Session.ofLoading platform layer (Settings.load reach c e) = .ok session ∧
                choices.Overrides s session.settings := by
  rcases load_cases hc e with ⟨first, hfirst, hload⟩ | ⟨hnone, he, hload⟩ |
    ⟨hnone, he, s, hload, hlog, hresolved⟩
  · refine ⟨fun _ _ => ⟨first, hfirst, hload, rfl⟩, ?_, ?_⟩
    · refine iff_of_false ?_ (fun h => h.1 first hfirst.1)
      rintro ⟨s, hs⟩
      rw [hload] at hs
      cases hs
    · intro s hs
      rw [hload] at hs
      cases hs
  · refine ⟨fun flaw hflaw => absurd hflaw (hnone flaw), ?_, ?_⟩
    · refine iff_of_false ?_ (fun h => h.2 he)
      rintro ⟨s, hs⟩
      rw [hload] at hs
      cases hs
    · intro s hs
      rw [hload] at hs
      cases hs
  · refine ⟨fun flaw hflaw => absurd hflaw (hnone flaw), iff_of_true ⟨s, hload⟩ ⟨hnone, he⟩, ?_⟩
    intro s' hs'
    rw [hload] at hs'
    cases hs'
    refine ⟨hresolved, by cases s.logLevel <;> decide, Int.natCast_nonneg _, hlog, ?_⟩
    intro platform choices layer hchoices
    refine ⟨_, by rw [Console.Session.ofLoading, hload]; rfl, ?_⟩
    exact overrides_of_layer? s hchoices

/-- A file that gives an indentation. -/
def indentFile : ConfigFile :=
  .standard ['/'] (some (.file "[calc]\ntree_indent = 8\n".toUTF8))

/-- The document of `indentFile`. -/
def indentDocument : Table :=
  [("calc".toList, .table [("tree_indent".toList, .integer 8)])]

/-- Variables of which one is known and one is not. -/
def mixedEnvironment : Environment where
  showTree := "no".toList
  treeIndent := "wide".toList

/-- One setting comes from its variable, and another from the file, as its variable is not known. -/
theorem settings_resolve_indentFile :
    indentFile.Gives .unbounded (some indentDocument) ∧
      ∃ s, (Settings.load .unbounded indentFile mixedEnvironment).outcome = .ok s ∧
        s.showTree = false ∧ s.treeIndent = 8 := by
  have hgives : indentFile.Gives .unbounded (some indentDocument) := by
    refine .document rfl ?_
    cbv
  have hfits :
      Layer.Fits { treeIndent? := some 8 } (calcTable (calcValue? (some indentDocument))) :=
    ⟨rfl, rfl, ⟨.integer 8, rfl, rfl⟩, rfl⟩
  obtain ⟨-, hreturns, hsettings⟩ := settings_resolve hgives mixedEnvironment
  have hlayer : Layer.ofDocument indentDocument = .ok { treeIndent? := some 8 } := rfl
  have hflaws : ∀ flaw, ¬ Flawed (calcValue? (some indentDocument)) flaw := by
    rcases ofDocument_cases indentDocument with ⟨flaw, -, herror⟩ | ⟨hnone, -⟩
    · rw [hlayer] at herror
      cases herror
    · exact hnone
  obtain ⟨s, hs⟩ := hreturns.mpr ⟨hflaws, by decide +kernel⟩
  obtain ⟨hresolved, -⟩ := hsettings s hs
  refine ⟨hgives, s, hs, ?_, ?_⟩
  · have hgiven : Environment.Variable.showTree.given? mixedEnvironment = some false := by
      decide +kernel
    rw [hresolved.showTree.eq hfits.showTree, hgiven]
    rfl
  · have hgiven : Environment.Variable.treeIndent.given? mixedEnvironment = none := by
      decide +kernel
    rw [hresolved.treeIndent.eq hfits.treeIndent, hgiven]
    rfl

end LineCalculator
