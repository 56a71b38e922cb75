/-
Documents in files.

A file holds a document if its bytes are the encoding of a text and the text is a document.
-/
import LineCalculator.Files
import LineCalculator.Toml.Document

namespace LineCalculator.Toml

/-- Why a file gives no document. -/
inductive FileFlaw where
  /-- It is a directory, or its text is in no form of a document. -/
  | unreadable
  /-- Its bytes encode no text. -/
  | undecodable
  /-- It holds an integer with more digits than are read. -/
  | numeralTooLong
  /-- It holds a value within more collections than are read. -/
  | tooDeep
deriving DecidableEq, Repr

/-- The flaw of a file whose text has a flaw. -/
def Flaw.inFile : Flaw → FileFlaw
  | malformed => .unreadable
  | numeralTooLong => .numeralTooLong
  | tooDeep => .tooDeep

/-- The document that a file holds. -/
def Table.ofFile (reach : Reach) : FileEntry → Except FileFlaw Table
  | .directory => .error .unreadable
  | .file content =>
    match String.fromUTF8? content with
    | some text => (ofText reach text.toList).mapError Flaw.inFile
    | none => .error .undecodable

end LineCalculator.Toml
