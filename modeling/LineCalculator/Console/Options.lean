/-
Options of a command.

Options and arguments stand in one list of words. An option has a long name behind two hyphens, and
it may have a short one, a single character, behind one. The value of a long option may be joined to
it with an equals sign; short options may be joined to each other, and a value to the last of them.
Two hyphens alone end the options, and a hyphen alone is an argument.

* `readOptions?` — the choices that the options make, and the words that are left.
-/
namespace LineCalculator.Console

/-- A word of a command line. -/
abbrev Word := List Char

/-- What an option does to the choices made so far. -/
inductive Effect (α : Type) where
  /-- It stands alone. -/
  | switch (set : α → α)
  /-- It takes a value. -/
  | valued (set : Word → α → α)

/-- An option under its names, which are given without hyphens. -/
structure CommandOption (α : Type) where
  long : String
  short? : Option Char := none
  effect : Effect α

/-- What an option word leads to: choices, or choices that the next word is the value of. -/
inductive Step (α : Type) where
  | done (choices : α)
  | awaiting (set : Word → α)

variable {α : Type}

/-- The options that are joined in a word behind one hyphen. -/
def readShort? (options : List (CommandOption α)) (choices : α) : List Char → Option (Step α)
  | [] => some (.done choices)
  | c :: more =>
    match options.find? (·.short? == some c) with
    | none => none
    | some option =>
      match option.effect with
      | .switch set => readShort? options (set choices) more
      | .valued set =>
        some (if more = [] then .awaiting (set · choices) else .done (set more choices))

/-- The option of a word behind two hyphens, with the value that is joined to it. -/
def readLong? (options : List (CommandOption α)) (choices : α) (word : Word) : Option (Step α) :=
  let name := word.takeWhile (· ≠ '=')
  let joined? := (word.dropWhile (· ≠ '=')).tail?
  match options.find? (·.long.toList == name) with
  | none => none
  | some option =>
    match option.effect, joined? with
    | .switch set, none => some (.done (set choices))
    | .switch _, some _ => none
    | .valued set, some value => some (.done (set value choices))
    | .valued set, none => some (.awaiting (set · choices))

/-- Whether a word is an option: a hyphen alone is none, and two end the options. -/
def isOption (word : Word) : Bool :=
  word.head? = some '-' && 1 < word.length && word ≠ ['-', '-']

/-- The option or options of a word. -/
def readOption? (options : List (CommandOption α)) (choices : α) (word : Word) : Option (Step α) :=
  match word with
  | '-' :: '-' :: name => readLong? options choices name
  | _ => readShort? options choices word.tail

/-- The choices that the options among the words make, and the other words; nothing if an option is
unknown, lacks its value, or has one that it does not take. Unless the options may be
`interspersed`, they end at the first other word. -/
def readOptions? (options : List (CommandOption α)) (interspersed : Bool) (choices : α) :
    List Word → Option (α × List Word)
  | [] => some (choices, [])
  | word :: words =>
    if word = ['-', '-'] then some (choices, words)
    else if isOption word then
      match readOption? options choices word with
      | none => none
      | some (.done choices) => readOptions? options interspersed choices words
      | some (.awaiting set) =>
        match words with
        | [] => none
        | value :: words => readOptions? options interspersed (set value) words
    else if interspersed then
      (readOptions? options interspersed choices words).map fun (choices, others) =>
        (choices, word :: others)
    else some (choices, word :: words)

end LineCalculator.Console
