/-
Resolving the settings.

`Settings.load` lays the settings of a configuration file and of the environment over the defaults.
It tells what it did in a log, which ends where the resolution does.
-/
import LineCalculator.Fault
import LineCalculator.Settings.Environment
import LineCalculator.Settings.File
import LineCalculator.Toml.File

namespace LineCalculator

/-- The name of the configuration file that is read when none is asked for. -/
def configName : List Char :=
  "climbcalc.toml".toList

/-- A configuration file: its path as it is shown, and what stands under it. -/
structure ConfigFile where
  path : List Char
  /-- Whether it was asked for; otherwise it may be absent. -/
  isRequired : Bool
  found? : Option FileEntry

/-- Why settings cannot be resolved. -/
inductive LoadFault where
  | notFound (path : List Char)
  | unreadable (path : List Char)
  | invalid (path : List Char) (flaw : SettingsFlaw)
  /-- The bytes of the file encode no text. -/
  | undecodable
  /-- A numeral in the file or in the environment cannot be read. -/
  | badNumeral
  /-- A value in the file stands within more collections than are read. -/
  | tooDeep
deriving DecidableEq

namespace LoadFault

/-- The fault that is reported, unless a text, a numeral or a value could not be read at all. -/
def fault? : LoadFault → Option Fault
  | notFound path => some (.configuration ("Config file not found: ".toList ++ path) none)
  | unreadable path => some (.configuration ("Cannot read ".toList ++ path ++ ": ".toList) none)
  | invalid path flaw => some (.configuration (path ++ ": ".toList ++ flaw.message) none)
  | undecodable => none
  | badNumeral => none
  | tooDeep => none

/-- The fault of a file without a document. -/
def ofFile (path : List Char) : Toml.FileFlaw → LoadFault
  | .unreadable => unreadable path
  | .undecodable => undecodable
  | .numeralTooLong => badNumeral
  | .tooDeep => tooDeep

end LoadFault

namespace ConfigFile

/-- A configuration file that was asked for. -/
def required (path : List Char) (found? : Option FileEntry) : ConfigFile :=
  ⟨normalPath path, true, found?⟩

/-- The configuration file that a directory may hold. -/
def standard (directory : List Char) (found? : Option FileEntry) : ConfigFile :=
  ⟨pathIn directory configName, false, found?⟩

/-- The settings of what stands under the path of a configuration file. -/
def read (reach : Toml.Reach) (path : List Char) (entry : FileEntry) : Except LoadFault Layer := do
  let document ← (Toml.Table.ofFile reach entry).mapError (LoadFault.ofFile path)
  (Layer.ofDocument document).mapError (LoadFault.invalid path)

/-- The settings of a configuration file, if there is one. -/
def layer? (c : ConfigFile) (reach : Toml.Reach) : Except LoadFault (Option Layer) :=
  match c.found? with
  | some entry => (read reach c.path entry).map some
  | none => if c.isRequired then .error (.notFound c.path) else .ok none

/-- The report that a configuration file was read. -/
def loadedLine (c : ConfigFile) : LogLine :=
  ⟨.debug, Settings.origin, "Loaded settings from ".toList ++ c.path⟩

end ConfigFile

/-- The settings or the fault, and the log of the resolution. -/
structure Loading where
  outcome : Except LoadFault Settings
  log : List LogLine

/-- Resolves the settings. -/
def Settings.load (reach : Toml.Reach) (config : ConfigFile) (environment : Environment) :
    Loading :=
  match config.layer? reach with
  | .error fault => ⟨.error fault, []⟩
  | .ok layer? =>
    let read := (layer?.map fun _ => config.loadedLine).toList
    let (settings?, warnings) := environment.apply (Settings.default.under (layer?.getD {}))
    ⟨settings?.elim (.error .badNumeral) .ok, read ++ warnings⟩

end LineCalculator
