/-
Values of a TOML document.

A table keeps its entries in the order in which they were written, each key once. Numbers with a
point or an exponent, and dates and times, are kept as they were written: no answer depends on more
than their kind.

* `Table.add?` — a table with one entry more, unless its key is taken;
* `Table.alter?` — a change to the table that a path leads to.
-/
namespace LineCalculator.Toml

/-- A part of the name of an entry. -/
abbrev Key := List Char

/-- The keys that lead to an entry, from the outermost table inwards. -/
abbrev Path := List Key

/-- A TOML value. -/
inductive Value where
  | text (text : List Char)
  | integer (value : Int)
  | float (literal : List Char)
  | boolean (value : Bool)
  | moment (literal : List Char)
  | array (elements : List Value)
  | table (entries : List (Key × Value))

/-- The entries of a table, in order. -/
abbrev Table := List (Key × Value)

namespace Value

/-- Whether a value holds other values. -/
def isCollection : Value → Bool
  | array _ => true
  | table _ => true
  | _ => false

end Value

namespace Table

/-- The value of an entry. -/
def find? (key : Key) : Table → Option Value
  | [] => none
  | (k, v) :: rest => if k = key then some v else find? key rest

/-- The table with an entry: in the place of the old one if there is one, otherwise at the end. -/
def put (key : Key) (value : Value) : Table → Table
  | [] => [(key, value)]
  | (k, v) :: rest => if k = key then (k, value) :: rest else (k, v) :: put key value rest

/-- The table with an entry of its own, unless the key is taken. -/
def add? (key : Key) (value : Value) (t : Table) : Option Table :=
  if (t.find? key).isSome then none else some (t.put key value)

/-- The table after a change to the one that a path leads to. Tables that are missing on the way are
made; an array stands for its last table if `throughArrays` is set, and anything else in the way
bars it. -/
def alter? (throughArrays : Bool) (change : Table → Option Table) :
    Path → Table → Option Table
  | [], t => change t
  | key :: path, t =>
    match t.find? key with
    | none => (alter? throughArrays change path []).map fun inner => t.put key (.table inner)
    | some (.table inner) =>
      (alter? throughArrays change path inner).map fun inner => t.put key (.table inner)
    | some (.array elements) =>
      match throughArrays, elements.getLast? with
      | true, some (.table inner) =>
        (alter? throughArrays change path inner).map fun inner =>
          t.put key (.array (elements.dropLast ++ [.table inner]))
      | _, _ => none
    | some _ => none

end Table

end LineCalculator.Toml
