/-
What a command line asks for.

There are two commands: `eval` evaluates an expression, which is asked for if it is not given, and
`tokens` shows the tokens of one. In front of a command, or without one, the version can be asked
for. `Request.ofWords?` reads a command line.
-/
import LineCalculator.Console.Options
import LineCalculator.Console.WholeNumber
import LineCalculator.Settings

namespace LineCalculator.Console

/-- How an expression is to be evaluated. -/
structure EvalRequest where
  /-- The settings that the options give. -/
  layer : Layer
  /-- The configuration file that is asked for. -/
  config? : Option Word
  /-- The expression, unless it is to be asked for. -/
  expression? : Option Word

/-- What a command line asks for. -/
inductive Request where
  | version
  | evaluate (request : EvalRequest)
  | tokens (expression : Word)

/-- The choices that the options in front of a command make. -/
structure GlobalChoices where
  version : Bool := false

/-- The options in front of a command. -/
def globalOptions : List (CommandOption GlobalChoices) :=
  [{ long := "version", short? := some 'v', effect := .switch fun _ => ⟨true⟩ }]

/-- The choices that the options of an evaluation make. -/
structure EvalChoices where
  showTree? : Option Bool := none
  indent? : Option Word := none
  verbose : Bool := false
  config? : Option Word := none

/-- The options of an evaluation. -/
def evalOptions : List (CommandOption EvalChoices) :=
  [{ long := "tree", effect := .switch fun c => { c with showTree? := some true } },
   { long := "no-tree", effect := .switch fun c => { c with showTree? := some false } },
   { long := "indent", short? := some 'i'
     effect := .valued fun value c => { c with indent? := some value } },
   { long := "verbose", short? := some 'V', effect := .switch fun c => { c with verbose := true } },
   { long := "config", short? := some 'c'
     effect := .valued fun value c => { c with config? := some value } }]

namespace EvalChoices

/-- The settings that the choices give, if the indentation is a whole number. -/
def layer? (c : EvalChoices) : Option Layer := do
  let treeIndent? ← match c.indent? with
    | none => some none
    | some word => (wholeNumber? word).map some
  return {
    showTree? := c.showTree?
    treeIndent?
    logLevel? := if c.verbose then some .debug else none }

end EvalChoices

namespace Request

/-- The evaluation that the words after its command ask for. -/
def evaluation? (words : List Word) : Option Request := do
  let (choices, arguments) ← readOptions? evalOptions true {} words
  let layer ← choices.layer?
  match arguments with
  | [] => some (.evaluate ⟨layer, choices.config?, none⟩)
  | [expression] => some (.evaluate ⟨layer, choices.config?, some expression⟩)
  | _ => none

/-- The tokens that the words after their command ask for. The command has no options. -/
def tokens? (words : List Word) : Option Request := do
  let ((), arguments) ← readOptions? [] true () words
  match arguments with
  | [expression] => some (.tokens expression)
  | _ => none

/-- What a command line asks for, if it has the form of one. Where a command should stand, behind
the two hyphens that end the options, the options in front of one are understood all the same. -/
def ofWords? (words : List Word) : Option Request := do
  let (choices, rest) ← readOptions? globalOptions false {} words
  if choices.version then return .version
  match rest with
  | [] => none
  | command :: rest =>
    if command = "eval".toList then evaluation? rest
    else if command = "tokens".toList then tokens? rest
    else
      let (choices, _) ← readOptions? globalOptions false {} (command :: rest)
      if choices.version then some .version else none

end Request

end LineCalculator.Console
