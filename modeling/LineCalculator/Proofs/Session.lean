/-
What an evaluation shows.

An evaluation shows the tree of its expression, if trees are shown, and then the value.  A text that
is no expression leaves the output empty, and a tree without a value still stands there.  A blank
text is found out before it is read: the blanks between tokens are among those that are stripped, so
no other text is found to have no tokens.  Of the settings only those of the tree have a part in
this, and only a tree that has no text stands in the way.

How texts are shown is up to the display, which is only taken to print trees and results as they
are (`Display.KeepsTexts`); messages it may show in any way.

* `isAllBlank_of_parse_empty`, `parse_of_isAllBlank` — blank texts, and texts without tokens;
* `Session.answer_of_parse_error`, `Session.answer_of_parse_ok` — the answer to an expression;
* `Answers` — how the answer goes with the value of the expression;
* `Session.visible_answer_congr` — sessions that show trees alike answer alike;
* `run_answers` — the run of a request.
-/
import LineCalculator.Console.Run
import LineCalculator.Proofs.Casing
import LineCalculator.Proofs.Dump
import LineCalculator.Proofs.Loading
import LineCalculator.Proofs.Pulling
import LineCalculator.Proofs.Substitution

namespace LineCalculator

/-! ### Blank texts -/

theorem strip_ne_nil_of_not_isAllBlank {cs : List Char} (h : Text.isAllBlank cs = false) :
    Text.strip cs ≠ [] := by
  rw [ne_eq, Text.strip_eq_nil_iff, h]
  exact Bool.false_ne_true

/-- A text without tokens holds nothing but the blanks between tokens. -/
theorem isBlank_of_tokenize_nil {source : List Char} (h : tokenize source = .ok []) :
    IsBlank source := by
  rw [tokenize] at h
  cases hs : scan 0 source with
  | token t next rest =>
    obtain ⟨us, -, hus⟩ := (readTokens_ok_iff hs).mp h
    cases hus
  | stray c position next rest =>
    rw [readTokens_of_stray hs] at h
    cases h
  | finished next =>
    obtain ⟨hblank, -⟩ := scan_eq_finished hs
    exact hblank

/-- The blanks between tokens are blanks. -/
theorem IsBlank.isAllBlank {cs : List Char} (h : IsBlank cs) : Text.isAllBlank cs = true := by
  rw [Text.isAllBlank, List.all_eq_true]
  intro c hc
  rcases isSpace_iff.mp (h c hc) with rfl | rfl | rfl | rfl <;> decide +kernel

/-- Only a blank text is found to have no tokens. -/
theorem isAllBlank_of_parse_empty {source : List Char} (h : parse source = .error .empty) :
    Text.isAllBlank source = true := by
  refine IsBlank.isAllBlank ?_
  cases ht : tokenize source with
  | error e =>
    obtain ⟨e', he', hne⟩ := parse_of_stopped ht
    rw [he'] at h
    cases h
    exact absurd rfl hne
  | ok ts =>
    by_cases hts : ts = []
    · rw [hts] at ht
      exact isBlank_of_tokenize_nil ht
    · rcases parse_cases ht hts with ⟨t, hp, -⟩ | ⟨i, t, -, -, hp⟩
      · rw [hp] at h
        cases h
      · rw [hp] at h
        cases h

/-- No token starts in a blank text. -/
theorem scan_ne_token_of_isAllBlank {cs : List Char} (h : Text.isAllBlank cs = true)
    (position : Nat) (t : Token) (next : Nat) (rest : List Char) :
    scan position cs ≠ .token t next rest := by
  induction cs generalizing position with
  | nil =>
    intro hs
    cases hs
  | cons c cs ih =>
    rw [Text.isAllBlank, List.all_cons, Bool.and_eq_true] at h
    obtain ⟨hc, hcs⟩ := h
    obtain ⟨hop, hfigure, -⟩ := no_lexeme_of_isBlank hc
    by_cases hspace : isSpace c = true
    · rw [scan_cons_of_isSpace hspace]
      exact ih hcs (position + 1)
    · rw [scan_cons_of_startsNothing ⟨hop, hfigure, Bool.eq_false_iff.mpr hspace⟩]
      intro hs
      cases hs

/-- A blank text is no expression. -/
theorem parse_of_isAllBlank {source : List Char} (h : Text.isAllBlank source = true) :
    ∃ e, parse source = .error e := by
  rw [parse]
  cases hs : scan 0 source with
  | token t next rest => exact absurd hs (scan_ne_token_of_isAllBlank h 0 t next rest)
  | stray c position next rest => exact ⟨_, readTree_of_stray hs⟩
  | finished next => exact ⟨_, readTree_of_finished hs⟩

/-- An expression is not blank. -/
theorem isAllBlank_of_parse_ok {source : List Char} {t : Expr} (h : parse source = .ok t) :
    Text.isAllBlank source = false := by
  rw [Bool.eq_false_iff]
  intro hblank
  obtain ⟨e, he⟩ := parse_of_isAllBlank hblank
  rw [h] at he
  cases he

namespace Console

/-- Whether a display prints the texts of trees, and those of results, as they are. -/
structure Display.KeepsTexts (d : Display) : Prop where
  tree : ∀ (memory : Text.Memory) (indent : ℤ) (t : Expr) (text : List Char),
    t.dump memory indent = .ok text → d.printed text = text
  result : ∀ x, d.printed (resultText x) = resultText x

theorem Display.keepsTexts_plain : Display.plain.KeepsTexts :=
  ⟨fun _ _ _ _ _ => rfl, fun _ => rfl⟩

/-! ### The answer of a session -/

namespace Session

/-- What a session shows of a tree: nothing, or its text on lines of its own. -/
inductive ShowsTree (s : Session) (t : Expr) : List Char → Prop
  | hidden (hshow : s.settings.showTree = false) : ShowsTree s t []
  | shown {text : List Char} (hshow : s.settings.showTree = true)
      (htext : t.dump s.platform.memory s.settings.treeIndent = .ok text) :
      ShowsTree s t (line text)

/-- Whether a session is to show a tree that has no text, and why it has none. -/
structure LacksText (s : Session) (t : Expr) (shortage : Text.Shortage) : Prop where
  showTree : s.settings.showTree = true
  dump_eq : t.dump s.platform.memory s.settings.treeIndent = .error shortage

variable {s : Session} {expression : List Char} {t : Expr} {shortage : Text.Shortage}

/-- There is a text where memory has room for it and for what is made on the way to it. -/
theorem not_lacksText_of_holds (h : Tree.IsWritable s.settings.treeIndent t)
    (hmemory : s.platform.memory.Holds (s.settings.treeIndent +
      4 * (Json.pretty s.settings.treeIndent t.toJson).length)) : ¬ s.LacksText t shortage := by
  intro hlacks
  have hdump := hlacks.dump_eq
  rw [Tree.dump_of_holds h hmemory] at hdump
  cases hdump

/-- A tree is shown, or it has no text. -/
theorem treeText_cases (hkeeps : s.platform.display.KeepsTexts) (t : Expr) :
    ((∃ out, s.treeText t = .ok out ∧ s.ShowsTree t out) ∧
        ∀ shortage, ¬ s.LacksText t shortage) ∨
      ∃ shortage, s.treeText t = .error shortage ∧ s.LacksText t shortage := by
  unfold treeText
  cases hshow : s.settings.showTree with
  | false =>
    refine .inl ⟨⟨[], rfl, .hidden hshow⟩, fun shortage hlacks => ?_⟩
    rw [hlacks.showTree] at hshow
    cases hshow
  | true =>
    rw [if_pos rfl]
    cases hdump : t.dump s.platform.memory s.settings.treeIndent with
    | ok text =>
      refine .inl ⟨⟨line text, ?_, .shown hshow hdump⟩, fun shortage hlacks => ?_⟩
      · rw [Except.map, printLine, hkeeps.tree _ _ _ _ hdump]
      · rw [hlacks.dump_eq] at hdump
        cases hdump
    | error shortage => exact .inr ⟨shortage, rfl, hshow, hdump⟩

theorem treeText_of_lacksText (h : s.LacksText t shortage) : s.treeText t = .error shortage := by
  rw [treeText, if_pos h.showTree, h.dump_eq]
  rfl

/-- What is shown behind the tree: the value, or the fault of the expression. -/
def verdict (s : Session) : Except Fault Float → Output
  | .ok value => { exitCode := 0, out := s.printLine (resultText value) }
  | .error fault => .ofFault s.platform.display fault

/-- What stands before the verdict where errors are reported. -/
def logBefore (s : Session) (expression : List Char) : List Char :=
  s.reports ++ s.logText (calculate expression).events

/-- An expression that is not blank is answered with what is shown of its tree and with the verdict
on it. -/
theorem answer_of_not_isAllBlank (h : Text.isAllBlank expression = false) :
    s.answer expression = ((s.preview expression).mapError .noText).map fun out =>
      (s.verdict (calculate expression).outcome).after out (s.logBefore expression) := by
  rw [answer, respond, h, if_neg Bool.false_ne_true, evaluate]
  cases s.preview expression with
  | error shortage => rfl
  | ok out =>
    cases (calculate expression).outcome <;>
      simp [Except.map, Except.mapError, verdict, logBefore, Output.after]

theorem answer_of_isAllBlank (h : Text.isAllBlank expression = true) :
    s.answer expression = .ok ⟨1, [], s.reports ++
      line (s.platform.display.reported "Error: No expression inputted!".toList)⟩ := by
  rw [answer, respond, if_pos h]
  rfl

/-- The fault of an expression stands behind what is shown. -/
theorem after_verdict_error (fault : Fault) (out err : List Char) :
    (s.verdict (.error fault)).after out err =
      ⟨1, out, err ++ (Output.ofFault s.platform.display fault).err⟩ := by
  simp [verdict, Output.after, Output.ofFault, Output.failure]

/-- A value stands behind what is shown. -/
theorem after_verdict_ok (hkeeps : s.platform.display.KeepsTexts) (x : Float)
    (out err : List Char) :
    (s.verdict (.ok x)).after out err = ⟨0, out ++ line (resultText x), err⟩ := by
  simp [verdict, Output.after, printLine, hkeeps.result]

/-- What is no expression is answered with its fault alone. -/
theorem answer_of_parse_error {e : ParseError} (h : Text.isAllBlank expression = false)
    (hp : parse expression = .error e) :
    s.answer expression = .ok ⟨1, [], s.logBefore expression ++
      (Output.ofFault s.platform.display (e.fault expression)).err⟩ := by
  rw [answer_of_not_isAllBlank h, preview, hp, calculate_of_parse_error hp]
  exact congrArg Except.ok (after_verdict_error _ _ _)

/-- An expression is answered with what is shown of its tree and the verdict on it. -/
theorem answer_of_parse_ok {out : List Char} (hp : parse expression = .ok t)
    (htree : s.treeText t = .ok out) :
    s.answer expression =
      .ok ((s.verdict (calculate expression).outcome).after out (s.logBefore expression)) := by
  rw [answer_of_not_isAllBlank (isAllBlank_of_parse_ok hp), preview, hp]
  dsimp only
  rw [htree]
  rfl

/-- Without a text of the tree there is no answer. -/
theorem answer_of_lacksText (hp : parse expression = .ok t) (h : s.LacksText t shortage) :
    s.answer expression = .error (.noText shortage) := by
  rw [answer_of_not_isAllBlank (isAllBlank_of_parse_ok hp), preview, hp]
  dsimp only
  rw [treeText_of_lacksText h]
  rfl

end Session

/-! ### How an answer goes with the expression -/

/-- How a run ends that answers an expression in a session. -/
structure Answers (expression : List Char) (s : Session) (outcome : Outcome) : Prop where
  blank : Text.strip expression = [] → outcome = .ok ⟨1, [], s.reports ++
    line (s.platform.display.reported "Error: No expression inputted!".toList)⟩
  exit : (∃ out err, outcome = .ok ⟨0, out, err⟩) ↔ ∃ x, (calculate expression).outcome = .ok x
  value : ∀ x, (calculate expression).outcome = .ok x →
    ∃ t out err, parse expression = .ok t ∧ s.ShowsTree t out ∧
      outcome = .ok ⟨0, out ++ line (resultText x), err⟩
  refused : ∀ e, parse expression = .error e → ∃ err, outcome = .ok ⟨1, [], err⟩
  unvalued : ∀ t fault, parse expression = .ok t → (calculate expression).outcome = .error fault →
    ∃ out err, s.ShowsTree t out ∧ outcome = .ok ⟨1, out, err⟩
  reported : Text.strip expression ≠ [] → ∀ fault, (calculate expression).outcome = .error fault →
    fault ≠ .emptyExpression ∧ ∃ out, outcome =
      .ok ⟨1, out, s.logBefore expression ++ (Output.ofFault s.platform.display fault).err⟩

namespace Session

variable {s : Session} {expression : List Char} {t : Expr} {shortage : Text.Shortage}

theorem answers_of_isAllBlank (h : Text.isAllBlank expression = true) :
    Answers expression s (s.answer expression) := by
  obtain ⟨e, hp⟩ := parse_of_isAllBlank h
  have hfault := calculate_of_parse_error hp
  rw [answer_of_isAllBlank h]
  refine ⟨fun _ => rfl, ?_, ?_, fun _ _ => ⟨_, rfl⟩, ?_, ?_⟩
  · simp [hfault]
  · simp [hfault]
  · simp [hp]
  · intro hne
    exact absurd (Text.strip_eq_nil_iff.mpr h) hne

theorem answers_of_parse_error {e : ParseError} (h : Text.isAllBlank expression = false)
    (hp : parse expression = .error e) : Answers expression s (s.answer expression) := by
  have hfault := calculate_of_parse_error hp
  have hstrip := strip_ne_nil_of_not_isAllBlank h
  rw [answer_of_parse_error h hp]
  refine ⟨fun hnil => absurd hnil hstrip, ?_, ?_, fun _ _ => ⟨_, rfl⟩, ?_, ?_⟩
  · simp [hfault]
  · simp [hfault]
  · simp [hp]
  · intro _ fault hf
    rw [hfault] at hf
    cases hf
    refine ⟨?_, _, rfl⟩
    -- the fault of no tokens is that of a blank text
    intro hempty
    cases e with
    | empty => rw [isAllBlank_of_parse_empty hp] at h; cases h
    | stray c position => cases hempty
    | malformed position => cases hempty

theorem answers_of_parse_ok {out : List Char} (hkeeps : s.platform.display.KeepsTexts)
    (hp : parse expression = .ok t) (htree : s.treeText t = .ok out) (hshows : s.ShowsTree t out) :
    Answers expression s (s.answer expression) := by
  have hstrip := strip_ne_nil_of_not_isAllBlank (isAllBlank_of_parse_ok hp)
  rw [answer_of_parse_ok hp htree]
  rcases calculate_of_parse_cases hp with ⟨-, x, hx⟩ | ⟨-, symbol, side, hfault⟩
  · rw [hx, after_verdict_ok hkeeps]
    refine ⟨fun h => absurd h hstrip, iff_of_true ⟨_, _, rfl⟩ ⟨x, hx⟩, ?_, ?_, ?_, ?_⟩
    · intro y hy
      rw [hx] at hy
      cases hy
      exact ⟨t, out, _, hp, hshows, rfl⟩
    · simp [hp]
    · simp [hx]
    · simp [hx]
  · rw [hfault, after_verdict_error]
    refine ⟨fun h => absurd h hstrip, ?_, ?_, ?_, ?_, ?_⟩
    · simp [hfault]
    · simp [hfault]
    · simp [hp]
    · intro t' fault' hp' _
      rw [hp] at hp'
      cases hp'
      exact ⟨out, _, hshows, rfl⟩
    · intro _ fault' hfault'
      rw [hfault] at hfault'
      cases hfault'
      exact ⟨by simp, _, rfl⟩

theorem not_answers_of_lacksText (hp : parse expression = .ok t) (h : s.LacksText t shortage) :
    ¬ Answers expression s (s.answer expression) := by
  rw [answer_of_lacksText hp h]
  intro hanswers
  cases hc : (calculate expression).outcome with
  | ok x =>
    obtain ⟨_, _, _, -, -, heq⟩ := hanswers.value x hc
    cases heq
  | error fault =>
    obtain ⟨_, _, -, heq⟩ := hanswers.unvalued t fault hp hc
    cases heq

/-- A session answers all texts, but for expressions with a tree that it is to show and that has no
text. -/
theorem answers_answer_iff (hkeeps : s.platform.display.KeepsTexts) (expression : List Char) :
    Answers expression s (s.answer expression) ↔
      ¬ ∃ t shortage, parse expression = .ok t ∧ s.LacksText t shortage := by
  cases hp : parse expression with
  | error e =>
    refine iff_of_true ?_ (by simp)
    cases hblank : Text.isAllBlank expression with
    | true => exact answers_of_isAllBlank hblank
    | false => exact answers_of_parse_error hblank hp
  | ok t =>
    rcases treeText_cases hkeeps t with ⟨⟨out, htree, hshows⟩, hnot⟩ | ⟨shortage, -, hlacks⟩
    · refine iff_of_true (answers_of_parse_ok hkeeps hp htree hshows) ?_
      rintro ⟨t', shortage, heq, hlacks⟩
      cases heq
      exact hnot shortage hlacks
    · exact iff_of_false (not_answers_of_lacksText hp hlacks)
        (not_not_intro ⟨t, shortage, rfl, hlacks⟩)

/-! ### What has no part in it -/

/-- Whether two sessions on one platform show trees alike: none, or with one indentation. -/
structure ShowsTreesAs (s s' : Session) : Prop where
  platform : s.platform = s'.platform
  showTree : s.settings.showTree = s'.settings.showTree
  treeIndent : s'.settings.showTree = true → s.settings.treeIndent = s'.settings.treeIndent

end Session

/-- The exit code of a run and what it shows on its output. -/
def visible (outcome : Outcome) : Except Breakdown (Nat × List Char) :=
  outcome.map fun o => (o.exitCode, o.out)

namespace Session

variable {s s' : Session}

theorem printLine_congr (h : s.ShowsTreesAs s') : s.printLine = s'.printLine := by
  funext text
  rw [printLine, printLine, h.platform]

theorem treeText_congr (h : s.ShowsTreesAs s') (t : Expr) : s.treeText t = s'.treeText t := by
  unfold treeText
  rw [h.showTree, h.platform, printLine_congr h]
  split
  next hshow => rw [h.treeIndent hshow]
  next => rfl

theorem preview_congr (h : s.ShowsTreesAs s') (expression : List Char) :
    s.preview expression = s'.preview expression := by
  unfold preview
  split
  next t _ => exact treeText_congr h t
  next => rfl

theorem verdict_congr (h : s.ShowsTreesAs s') (outcome : Except Fault Float) :
    s.verdict outcome = s'.verdict outcome := by
  cases outcome with
  | ok x => rw [verdict, verdict, printLine_congr h]
  | error fault => rw [verdict, verdict, h.platform]

/-- Sessions that show trees alike answer alike, whatever their levels of the log and their
reports. -/
theorem visible_answer_congr (h : s.ShowsTreesAs s') (expression : List Char) :
    visible (s.answer expression) = visible (s'.answer expression) := by
  cases hblank : Text.isAllBlank expression with
  | true =>
    rw [answer_of_isAllBlank hblank, answer_of_isAllBlank hblank]
    rfl
  | false =>
    rw [answer_of_not_isAllBlank hblank, answer_of_not_isAllBlank hblank, preview_congr h,
      verdict_congr h]
    cases s'.preview expression <;> rfl

end Session

/-! ### Runs -/

section Runs

variable {r : EvalRequest} {around : Surroundings} {session : Session} {expression : Word}

theorem run_of_start (hr : r.expression? = some expression) (hs : r.start around = .ok session) :
    r.run around = session.answer expression := by
  rw [EvalRequest.run, hs]
  dsimp only
  rw [hr]

/-- A session has the platform of its surroundings. -/
theorem platform_of_start (hs : r.start around = .ok session) :
    session.platform = around.platform := by
  unfold EvalRequest.start at hs
  split at hs
  · cases hs
  · unfold Session.ofLoading at hs
    cases hload : (Settings.load around.platform.reach (r.configFile around)
      around.environment).outcome with
    | error fault =>
      simp only [hload] at hs
      cases hs
    | ok settings =>
      simp only [hload] at hs
      cases hs
      rfl

/-- **Evaluations from end to end.**  Where the settings are resolved, and trees and results are
printed as they are, a run answers its expression, unless it is to show a tree that has no text;
then it breaks down.  It has one where its layout can be counted with and memory has room for it.
Runs for one expression whose sessions show trees alike have one exit code and one output. -/
theorem run_answers (hkeeps : around.platform.display.KeepsTexts)
    (hr : r.expression? = some expression) (hs : r.start around = .ok session) :
    (Answers expression session (r.run around) ↔
        ¬ ∃ t shortage, parse expression = .ok t ∧ session.LacksText t shortage) ∧
      (∀ t shortage, parse expression = .ok t → session.LacksText t shortage →
        r.run around = .error (.noText shortage)) ∧
      (∀ t shortage, session.LacksText t shortage →
        ¬ (Tree.IsWritable session.settings.treeIndent t ∧
          around.platform.memory.Holds (session.settings.treeIndent +
            4 * (Json.pretty session.settings.treeIndent t.toJson).length))) ∧
      ∀ (r' : EvalRequest) (around' : Surroundings) (session' : Session),
        r'.expression? = some expression → r'.start around' = .ok session' →
        session'.ShowsTreesAs session → visible (r'.run around') = visible (r.run around) := by
  rw [run_of_start hr hs]
  rw [← platform_of_start hs] at hkeeps ⊢
  refine ⟨Session.answers_answer_iff hkeeps expression, ?_, ?_, ?_⟩
  · intro t shortage
    exact Session.answer_of_lacksText
  · rintro t shortage hlacks ⟨hwritable, hmemory⟩
    exact Session.not_lacksText_of_holds hwritable hmemory hlacks
  · intro r' around' session' hr' hs' hlike
    rw [run_of_start hr' hs']
    exact Session.visible_answer_congr hlike expression

end Runs

/-- Surroundings in which a variable asks for an indentation that is no count. -/
def wideSurroundings : Surroundings where
  directory := ['/']
  find? _ := none
  environment := { treeIndent := "9223372036854775808".toList }
  input := []
  platform := .ideal

/-- The settings that are resolved in `wideSurroundings`. -/
def wideSettings : Settings :=
  { Settings.default with treeIndent := Text.lengthBound }

/-- A request for the value of `1`, with the choice whether its tree is shown. -/
def oneRequest (showTree : Bool) : EvalRequest where
  layer := { showTree? := some showTree }
  config? := none
  expression? := some ['1']

/-- The session of `oneRequest` in `wideSurroundings`. -/
def wideSession (showTree : Bool) : Session where
  settings := wideSettings.under (oneRequest showTree).layer
  reports := []
  platform := .ideal

theorem start_oneRequest (showTree : Bool) :
    (oneRequest showTree).start wideSurroundings = .ok (wideSession showTree) := by
  have hload : Settings.load .unbounded ((oneRequest showTree).configFile wideSurroundings)
      wideSurroundings.environment = ⟨.ok wideSettings, []⟩ := by
    have hlayer : ((oneRequest showTree).configFile wideSurroundings).layer? .unbounded =
        .ok none := rfl
    have hoverlay : wideSurroundings.environment.overlay (baseOf none) = wideSettings := by
      decide +kernel
    have hreports : wideSurroundings.environment.reports (baseOf none) = [] :=
      List.isEmpty_iff.mp (by decide +kernel)
    rw [load_of_layer?_ok hlayer (by decide +kernel), hoverlay, hreports]
    rfl
  show (Session.ofLoading .ideal (oneRequest showTree).layer
    (Settings.load .unbounded ((oneRequest showTree).configFile wideSurroundings)
      wideSurroundings.environment)).mapError (Output.ofLoadFault .plain) =
        .ok (wideSession showTree)
  rw [hload]
  rfl

theorem parse_one : parse ['1'] = .ok (.number (figureNumber '1')) := by
  rw [parse, readTree_of_token rfl rfl, readTree_of_finished rfl]
  rfl

/-- The value of `1` is shown if its tree is not. -/
theorem run_answers_oneRequest :
    wideSurroundings.platform.display.KeepsTexts ∧
      (oneRequest false).expression? = some ['1'] ∧
      (oneRequest false).start wideSurroundings = .ok (wideSession false) ∧
      Answers ['1'] (wideSession false) ((oneRequest false).run wideSurroundings) := by
  have hr : (oneRequest false).expression? = some ['1'] := rfl
  have hs := start_oneRequest false
  have hkeeps : wideSurroundings.platform.display.KeepsTexts := Display.keepsTexts_plain
  obtain ⟨hanswers, -⟩ := run_answers hkeeps hr hs
  refine ⟨hkeeps, hr, hs, hanswers.mpr ?_⟩
  rintro ⟨t, shortage, -, hlacks⟩
  cases hlacks.showTree

/-- The value of `1` is not shown if its tree is to be shown before it. -/
theorem not_answers_oneRequest :
    (oneRequest true).expression? = some ['1'] ∧
      (oneRequest true).start wideSurroundings = .ok (wideSession true) ∧
      ¬ Answers ['1'] (wideSession true) ((oneRequest true).run wideSurroundings) := by
  have hr : (oneRequest true).expression? = some ['1'] := rfl
  have hs := start_oneRequest true
  have hlacks : (wideSession true).LacksText (.number (figureNumber '1')) .overflow :=
    ⟨rfl, Tree.dump_of_out_of_bounds (.inr (by decide +kernel))⟩
  refine ⟨hr, hs, ?_⟩
  rw [run_of_start hr hs]
  exact Session.not_answers_of_lacksText parse_one hlacks

end Console

end LineCalculator
