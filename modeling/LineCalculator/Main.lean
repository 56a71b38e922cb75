/-
The program.

It reads its command line, looks up the one configuration file that is concerned and the variables
of the environment, and asks for an expression if none is given. All else is decided by `Console`.
-/
import LineCalculator.Console.Run
import LineCalculator.Console.Screen

open LineCalculator LineCalculator.Console

/-- What stands under a path. A file that may not be read counts as a directory: neither holds a
text. -/
def lookUp (path : List Char) : IO (Option FileEntry) := do
  try
    let place := (← IO.currentDir) / String.ofList path
    if ← place.isDir then return some .directory
    if ← place.pathExists then return some (.file (← IO.FS.readBinFile place))
    return none
  catch _ => return some .directory

/-- The value of a variable of the environment. -/
def readVariable (name : String) : IO (List Char) := do
  return ((← IO.getEnv name).getD "").toList

/-- The variables of the environment. -/
def readEnvironment : IO Environment := do
  return {
    showTree := ← readVariable Environment.showTreeName
    treeIndent := ← readVariable Environment.treeIndentName
    logLevel := ← readVariable Environment.logLevelName }

/-- Writes what a run leaves behind and returns its exit code. -/
def finish : Outcome → IO UInt32
  | .ok output => do
    (← IO.getStdout).putStr (String.ofList output.out)
    (← IO.getStderr).putStr (String.ofList output.err)
    return UInt32.ofNat output.exitCode
  | .error breakdown => do
    (← IO.getStderr).putStrLn (String.ofList breakdown.message)
    return 1

/-- Asks for an expression and answers it. -/
def converse (session : Session) : IO UInt32 := do
  let stdout ← IO.getStdout
  let prompt := session.settings.prompt
  stdout.putStr (String.ofList (if ← stdout.isTty then prompt else plainPrompt prompt))
  stdout.flush
  let typed ← (← IO.getStdin).getLine
  finish (session.reply typed.toList)

/-- Does what a command line asks for. -/
def main (args : List String) : IO UInt32 := do
  match Request.ofWords? (args.map String.toList) with
  | none => do
    (← IO.getStderr).putStr (String.ofList usage)
    return 2
  | some request =>
    let directory := (← IO.currentDir).toString.toList
    let found? ← match request.configPath? with
      | some path => lookUp path
      | none => pure none
    let platform : Platform := { Platform.ideal with display := .screen }
    let surroundings : Surroundings :=
      ⟨directory, fun _ => found?, ← readEnvironment, [], platform⟩
    match request.asks? surroundings with
    | some session => converse session
    | none => finish (request.run surroundings)
