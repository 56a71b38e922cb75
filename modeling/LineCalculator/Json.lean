/-
JSON values and their two layouts.

Objects keep their fields in order. `Json.compact` writes a value on one line, `Json.pretty` with a
field a line and an indentation that grows with the depth; an indentation of zero or less still
breaks the lines.
-/
import LineCalculator.Number.Style

namespace LineCalculator

mutual

/-- A JSON value. A word is a text that needs no escapes. -/
inductive Json where
  | integer (value : Int)
  | float (value : Float)
  | word (text : String)
  | object (fields : Fields)

/-- The fields of an object, in order. -/
inductive Fields where
  | nil
  | cons (key : String) (value : Json) (rest : Fields)

end

namespace Json

/-- The number that a double is written as: a whole one below the bound is an integer, and zero has
no sign. -/
def ofFloat (x : Float) : Json :=
  match Datum.ofFloat x with
  | .finite negative m =>
    match m.natural? with
    | some k => if k < wholeBound then integer (if negative then -(k : Int) else k) else float x
    | none => float x
  | _ => float x

/-- A word between quotes. -/
def quotedWord (text : String) : List Char :=
  '\x22' :: (text.toList ++ ['\x22'])

/-- A key and the mark that precedes its value. -/
def keyText (key : String) : List Char :=
  quotedWord key ++ [':', ' ']

mutual

/-- A value on one line. -/
def compact : Json → List Char
  | integer n => Decimal.integerText n
  | float x => NumberStyle.json.write x
  | word text => quotedWord text
  | object fields => '{' :: (compactFields fields ++ ['}'])

/-- The fields of an object on one line. -/
def compactFields : Fields → List Char
  | .nil => []
  | .cons key value .nil => keyText key ++ compact value
  | .cons key value rest => keyText key ++ compact value ++ ',' :: ' ' :: compactFields rest

end

/-- A line break and the indentation of a depth. -/
def lineBreak (indent : Int) (depth : Nat) : List Char :=
  '\n' :: List.replicate (indent.toNat * depth) ' '

mutual

/-- A value with a field a line, as it stands at a depth. -/
def prettyAt (indent : Int) (depth : Nat) : Json → List Char
  | integer n => Decimal.integerText n
  | float x => NumberStyle.json.write x
  | word text => quotedWord text
  | object .nil => ['{', '}']
  | object fields =>
    '{' :: (prettyFields indent (depth + 1) fields ++ lineBreak indent depth ++ ['}'])

/-- The fields of an object, each on its line. -/
def prettyFields (indent : Int) (depth : Nat) : Fields → List Char
  | .nil => []
  | .cons key value .nil => lineBreak indent depth ++ keyText key ++ prettyAt indent depth value
  | .cons key value rest =>
    lineBreak indent depth ++ keyText key ++ prettyAt indent depth value ++
      ',' :: prettyFields indent depth rest

end

/-- A value with a field a line. -/
def pretty (indent : Int) (value : Json) : List Char :=
  prettyAt indent 0 value

end Json

end LineCalculator
