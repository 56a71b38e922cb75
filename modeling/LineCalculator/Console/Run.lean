/-
Runs of the program.

A run does what a command line asks for, in given surroundings: the files it may read, the variables
of the environment, what is typed, and the platform.
-/
import LineCalculator.Console.Session
import LineCalculator.Console.TokenTable
import LineCalculator.Release

namespace LineCalculator.Console

/-- What a run meets. -/
structure Surroundings where
  /-- The current directory. -/
  directory : List Char
  /-- What stands under a path, seen from the current directory. -/
  find? : List Char → Option FileEntry
  environment : Environment
  input : List Char
  platform : Platform

namespace EvalRequest

/-- The configuration file of a request. -/
def configFile (r : EvalRequest) (s : Surroundings) : ConfigFile :=
  match r.config? with
  | some path => .required path (s.find? path)
  | none => .standard s.directory (s.find? configName)

/-- The session of a request, or how the run ends if its settings cannot be resolved. No path holds
the character with the number zero. -/
def start (r : EvalRequest) (s : Surroundings) : Except Outcome Session :=
  if r.config?.any (·.contains '\x00') then .error (.error .badValue)
  else
    let loading := Settings.load s.platform.reach (r.configFile s) s.environment
    (Session.ofLoading s.platform r.layer loading).mapError
      (Output.ofLoadFault s.platform.display)

/-- How the run of a request ends. -/
def run (r : EvalRequest) (s : Surroundings) : Outcome :=
  match r.start s with
  | .error outcome => outcome
  | .ok session =>
    match r.expression? with
    | some expression => session.answer expression
    | none => session.transcript s.input

end EvalRequest

/-- The line that shows the version. -/
def versionLine : List Char :=
  line ("climbcalc version ".toList ++ Release.ownVersion)

namespace Request

/-- The path of the configuration file that a request concerns. -/
def configPath? : Request → Option (List Char)
  | evaluate request => some (request.config?.getD configName)
  | _ => none

/-- The session that has to ask for its expression, if the request leads to one. -/
def asks? (s : Surroundings) : Request → Option Session
  | evaluate request => if request.expression?.isNone then (request.start s).toOption else none
  | _ => none

/-- How a run ends that is asked for something. -/
def run (s : Surroundings) : Request → Outcome
  | version => .ok { exitCode := 0, out := versionLine }
  | evaluate request => request.run s
  | tokens expression => .ok (showTokens s.platform.display expression)

end Request

/-- What is shown of a command line that asks for nothing. -/
def usage : List Char :=
  ("Usage: climbcalc [--version]\n" ++
    "       climbcalc eval [--tree | --no-tree] [--indent N] [--verbose] [--config PATH]" ++
    " [EXPRESSION]\n" ++
    "       climbcalc tokens EXPRESSION\n").toList

end LineCalculator.Console
