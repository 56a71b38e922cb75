/-
Paths, and what stands under them.

A path is a row of names with slashes between them. `normalPath` gives the form in which paths are
shown: without empty names and without single points, but with every double point, as leaving a
directory again need not lead back. `Listing.find?` looks a path up from a directory whose content
is given.
-/
namespace LineCalculator

/-- What stands under a path. -/
inductive FileEntry where
  | file (content : ByteArray)
  | directory

/-- The parts of a text between its slashes. -/
def splitSlashes : List Char → List (List Char)
  | [] => [[]]
  | c :: cs =>
    if c = '/' then [] :: splitSlashes cs
    else
      match splitSlashes cs with
      | name :: names => (c :: name) :: names
      | [] => [[c]]

/-- The names of a path that count. -/
def pathNames (path : List Char) : List (List Char) :=
  (splitSlashes path).filter fun name => name ≠ [] ∧ name ≠ ['.']

/-- The slashes that mark a path from the root: two where exactly two are written, otherwise one. -/
def pathRoot (path : List Char) : List Char :=
  match path.takeWhile (· = '/') with
  | [] => []
  | ['/', '/'] => ['/', '/']
  | _ => ['/']

/-- A path as it is shown. -/
def normalPath (path : List Char) : List Char :=
  match pathRoot path ++ ['/'].intercalate (pathNames path) with
  | [] => ['.']
  | shown => shown

/-- The path of a name in a directory. -/
def pathIn (directory name : List Char) : List Char :=
  normalPath (directory ++ '/' :: name)

/-- The files and directories below a directory, under their paths from it. -/
abbrev Listing := List (List Char × FileEntry)

namespace Listing

/-- What stands under a path of names from the directory, which may also be a directory on the way
to a file. -/
def at? (listing : Listing) (names : List (List Char)) : Option FileEntry :=
  if names = [] then some .directory
  else
    match listing.find? fun (path, _) => pathNames path = names with
    | some (_, entry) => some entry
    | none =>
      if listing.any fun (path, _) => names.isPrefixOf (pathNames path) then some .directory
      else none

/-- Where names lead, from the place that `here` leads to, its last name first. Nothing is known
outside of the directory but that it lies in others. -/
def follow? (listing : Listing) (here : List (List Char)) (above : Nat) :
    List (List Char) → Option FileEntry
  | [] => if above = 0 then listing.at? here.reverse else some .directory
  | name :: names =>
    match listing.at? here.reverse with
    | some .directory =>
      if name = ['.', '.'] then
        match here with
        | _ :: here => follow? listing here above names
        | [] => follow? listing [] (above + 1) names
      else if above = 0 then follow? listing (name :: here) 0 names
      else none
    | _ => none

/-- What stands under a path, seen from the directory. -/
def find? (listing : Listing) (path : List Char) : Option FileEntry :=
  if pathRoot path = [] then listing.follow? [] 0 (pathNames path)
  else if (pathNames path).all (· = ['.', '.']) then some .directory
  else none

end Listing

end LineCalculator
