import Tabula.Files
import Tabula.Text.Quoted

/-!
Files that cannot be reached, and directories that cannot be made.

Directories are made where data is to be kept, and nowhere else: a file name that leads on into
another one leads nowhere.
-/

namespace Tabula

inductive FileFault where
  /-- a path has a zero character in it -/
  | zeroCharacter
  | noDirectory (path : String)
  | nameTooLong (path : String)
  /-- a file is where a directory should be made -/
  | fileExists (path : String)
  /-- a file is on the way to where a directory should be made -/
  | notDirectory (path : String)
deriving DecidableEq

namespace FileFault

def message : FileFault → String
  | zeroCharacter => "embedded null byte"
  | noDirectory path => "[Errno 2] No such file or directory: " ++ Text.quoted path
  | nameTooLong path => "[Errno 36] File name too long: " ++ Text.quoted path
  | fileExists path => "[Errno 17] File exists: " ++ Text.quoted path
  | notDirectory path => "[Errno 20] Not a directory: " ++ Text.quoted path

end FileFault

namespace Files

/-- The number of bytes that a name between slashes may have. -/
def longestName : Nat := 255

def isTooLong (part : List Char) : Bool := longestName < (String.ofList part).utf8ByteSize

/-- Whether a part of a path leads to a directory that is there, whatever the files are. -/
def isStep (part : List Char) : Bool := part = [] || part = ['.'] || part = ['.', '.']

/-- What is in the way from a directory to a file, if anything is. -/
def fault? (directory file : String) : Option FileFault :=
  let parts := file.toList.splitOn '/'
  if file.toList.contains '\x00' then some .zeroCharacter
  else if !parts.dropLast.all isStep then some (.noDirectory (join directory file))
  else if (parts.getLast?.map isTooLong).getD false then some (.nameTooLong (join directory file))
  else none

/-- What is in the way of making a directory, if anything is. -/
def directoryFault? (files : Files) (directory : String) : Option FileFault :=
  let path := simplify directory
  if directory.toList.contains '\x00' then some .zeroCharacter
  else if (directory.toList.splitOn '/').any isTooLong then some (.nameTooLong path)
  else if (files.bytes? path).isSome then some (.fileExists path)
  else if files.any fun f => (f.1.toList ++ ['/']).isPrefixOf path.toList then
    some (.notDirectory path)
  else none

end Files

end Tabula
