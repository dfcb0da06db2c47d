import Tabula.Keyed

/-!
The files below a working directory, as a value: the bytes of each by its path.
-/

namespace Tabula

abbrev Files := List (String × ByteArray)

namespace Files

def bytes? (files : Files) (path : String) : Option ByteArray := Keyed.find? files path

def write (files : Files) (path : String) (bytes : ByteArray) : Files := Keyed.put path bytes files

def remove (files : Files) (path : String) : Files := files.filter (·.1 ≠ path)

/-- One step along a path: a part of one dot, or of nothing, leads nowhere, and one of two dots
leads back. -/
def follow (above : List (List Char)) (part : List Char) : List (List Char) :=
  if part = [] ∨ part = ['.'] then above
  else if part = ['.', '.'] ∧ above ≠ [] ∧ above.getLast? ≠ some ['.', '.'] then above.dropLast
  else above ++ [part]

/-- The parts of a path between slashes. -/
def parts (path : String) : List (List Char) := (path.toList.splitOn '/').foldl follow []

/-- A path in its shortest form. -/
def simplify (path : String) : String :=
  let start := if path.toList.head? = some '/' then ['/'] else []
  String.ofList (start ++ ['/'].intercalate (parts path))

/-- The path of a file in a directory. A file whose path starts at the root is in no other one. -/
def join (directory file : String) : String :=
  simplify (if file.toList.head? = some '/' then file else directory ++ "/" ++ file)

/-- Whether a path stays below the working directory. -/
def isInside (path : String) : Bool :=
  path.toList.head? != some '/' && (parts path).head? != some ['.', '.']

/-- The paths in order, those of a directory relative to it. -/
def below (files : Files) (directory : String) : List String :=
  let above := if directory = "" then [] else directory.toList ++ ['/']
  let found := files.filterMap fun f =>
    if above.isPrefixOf f.1.toList && isInside f.1 then
      some (String.ofList (f.1.toList.drop above.length))
    else none
  found.mergeSort (fun a b => !(b < a))

end Files

end Tabula
