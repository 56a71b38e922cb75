/-
Capital and small letters.

`upper` and `lower` map a whole text, by the mappings of all scripts: a character may become several
(a sharp s becomes two capitals), and a capital sigma becomes the final small sigma at the end of a
word and the ordinary one elsewhere.
-/
import LineCalculator.Text.CaseTable

namespace LineCalculator.Text

/-- The character that a table of runs maps a character to, if it has an entry. -/
def mappedBy? (runs : Array CaseRun) (c : Char) : Option Char :=
  (runs.find? fun run =>
      run.first ≤ c.toNat && c.toNat ≤ run.last && (c.toNat - run.first) % run.step == 0).map
    fun run => Char.ofNat ((c.toNat : Int) + run.distance).toNat

/-- The capital of a character, or the character itself if it has none. -/
def capital (c : Char) : List Char :=
  match longCapitals.find? fun (point, _) => point == c.toNat with
  | some (_, points) => points.map Char.ofNat
  | none => [(mappedBy? capitalRuns c).getD c]

/-- The small form of a character. The dotted capital i keeps its dot as a character of its own. -/
def small (c : Char) : List Char :=
  if c.toNat = 0x130 then ['i', Char.ofNat 0x307] else [(mappedBy? smallRuns c).getD c]

/-- A text in capitals. -/
def upper (cs : List Char) : List Char :=
  cs.flatMap capital

/-- Whether the next character that is not skipped has a case. -/
def meetsCased (cs : List Char) : Bool :=
  match cs.dropWhile caseIgnorableRanges.contains with
  | c :: _ => casedRanges.contains c
  | [] => false

/-- The small form of a text that follows `before`, which is given in reverse. -/
def lowerAfter (before : List Char) : List Char → List Char
  | [] => []
  | c :: rest =>
    let here :=
      if c = 'Σ' then [if meetsCased before && !meetsCased rest then 'ς' else 'σ'] else small c
    here ++ lowerAfter (c :: before) rest

/-- A text in small letters. -/
def lower (cs : List Char) : List Char :=
  lowerAfter [] cs

end LineCalculator.Text
