/-
Evaluating an expression at the console.

A session has its settings, with the options of the command over those of the file and of the
environment. It answers one expression: first with the tree of the expression, if trees are shown,
then with the value. An expression that is not given is asked for.

* `Session.answer` — the answer to an expression;
* `Session.transcript` — the whole session with a given input, as it stands on the screen.
-/
import LineCalculator.Calculation
import LineCalculator.Console.Output
import LineCalculator.Console.Prompt
import LineCalculator.Console.Request
import LineCalculator.Text.Blank
import LineCalculator.Text.Lines
import LineCalculator.Tree.Dump

namespace LineCalculator.Console

/-- The settings in force, the reports that were made while they were resolved, and what the session
is given. -/
structure Session where
  settings : Settings
  reports : List Char
  platform : Platform

/-- A text on a line of its own. -/
def line (text : List Char) : List Char :=
  text ++ ['\n']

/-- The text that shows a value. -/
def resultText (value : Float) : List Char :=
  "Result: ".toList ++ NumberStyle.result.write value

namespace Session

/-- The session whose settings are resolved, with those of a request over them. The reports are
shown without their level and origin; that a file was read is not reported. -/
def ofLoading (platform : Platform) (layer : Layer) (loading : Loading) :
    Except LoadFault Session :=
  loading.outcome.map fun settings =>
    ⟨settings.under layer,
      (loading.log.filter fun l => l.isShownAt .warning).flatMap fun l => line l.message,
      platform⟩

/-- A text on a line of the output. -/
def printLine (s : Session) (text : List Char) : List Char :=
  line (s.platform.display.printed text)

/-- The lines of the events that are shown at the level in force. -/
def logText (s : Session) (events : List Event) : List Char :=
  ((events.map Event.line).filter fun l => l.isShownAt s.settings.logLevel).flatMap
    fun l => line l.text

/-- The lines of a tree, if trees are shown. -/
def treeText (s : Session) (t : Expr) : Except Text.Shortage (List Char) :=
  if s.settings.showTree then
    (t.dump s.platform.memory s.settings.treeIndent).map s.printLine
  else .ok []

/-- What is shown of an expression before its value. -/
def preview (s : Session) (expression : List Char) : Except Text.Shortage (List Char) :=
  match parse expression with
  | .ok tree => s.treeText tree
  | .error _ => .ok []

/-- The answer to an expression that is not blank. -/
def evaluate (s : Session) (expression : List Char) : Outcome :=
  let calculation := calculate expression
  ((s.preview expression).mapError .noText).map fun out =>
    let answer : Output :=
      match calculation.outcome with
      | .ok value => { exitCode := 0, out := s.printLine (resultText value) }
      | .error fault => .ofFault s.platform.display fault
    answer.after out (s.logText calculation.events)

/-- The answer to an expression, without the reports. -/
def respond (s : Session) (expression : List Char) : Outcome :=
  if Text.isAllBlank expression then
    .ok (.failure (s.platform.display.reported "Error: No expression inputted!".toList))
  else s.evaluate expression

/-- The answer to an expression. -/
def answer (s : Session) (expression : List Char) : Outcome :=
  (s.respond expression).map (·.after [] s.reports)

/-- The end of a session whose input ends before an expression. -/
def aborted (s : Session) : Output :=
  (Output.failure "Aborted.".toList).after [] s.reports

/-- The answer to the first line of an input, or the end of a session whose input has none. -/
def reply (s : Session) (input : List Char) : Outcome :=
  match Text.firstLine? (Text.unifyLineEnds input) with
  | some typed => s.answer typed
  | none => .ok s.aborted

/-- The session with an input: after the prompt stands the line that was typed. -/
def transcript (s : Session) (input : List Char) : Outcome :=
  match Text.firstLine? (Text.unifyLineEnds input) with
  | some typed => (s.answer typed).map (·.after (plainPrompt s.settings.prompt ++ line typed) [])
  | none => .ok (s.aborted.after (plainPrompt s.settings.prompt) [])

end Session

end LineCalculator.Console
