import Tabula.Failure
import Tabula.Statement.Reader
import Tabula.Text.Blank
import Tabula.Text.Word

/-!
Commands: texts that are read as statements.

The kind of a command is told from its first words. They are read in any case, with blanks of any
number between two, and no further letter may follow the last. The command is then read to its end
as a statement of that kind.
-/

namespace Tabula

open Text

namespace Kind

/-- The keywords that a command of a kind starts with. -/
def opening : Kind → List Keyword
  | createTable => [.create, .table]
  | insert => [.insert, .into]
  | select => [.select]
  | update => [.update]
  | delete => [.delete]
  | createIndex => [.create, .index]
  | showTables => [.show, .tables]
  | describe => [.describe]

/-- Whether a text starts with the keywords, and with blanks between them. -/
def opens : List Keyword → List Char → Bool
  | [], _ => true
  | k :: ks, cs =>
    match dropWord? k.text.toList cs with
    | none => false
    | some rest =>
      match ks with
      | [] => !(rest.head?.any isWordChar)
      | _ => rest.head?.any isBlank && opens ks (trimLeft rest)

/-- The kind of a command without blanks around it. -/
def ofText? (cs : List Char) : Option Kind := all.find? fun k => opens k.opening cs

end Kind

/-- The kind of a command, blanks around it aside. -/
def Kind.ofCommand (command : String) : Except Failure Kind :=
  match Kind.ofText? (trim command.toList) with
  | some kind => .ok kind
  | none => .error (.unknownCommand (trimmed command))

namespace Statement

def parse (command : String) : Except Failure Statement := do
  let kind ← Kind.ofCommand command
  match Token.scan (trimmed command) with
  | .error ⟨.number fault, _⟩ => throw (.number fault)
  | .error fault => throw (.invalid kind (.scan fault))
  | .ok placed => (ofTokens kind (placed.map (·.token))).mapError (.invalid kind)

end Statement

end Tabula
