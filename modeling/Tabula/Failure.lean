import Tabula.Files.Fault
import Tabula.Json.Shape
import Tabula.Statement
import Tabula.Statement.Fault

/-!
Why a command has no answer.
-/

namespace Tabula

inductive KeyFault where
  | missing
  | duplicate
deriving DecidableEq

inductive Failure where
  | unknownCommand (command : String)
  | invalid (kind : Kind) (fault : StatementFault)
  | noTable (table : String)
  | primaryKey (column : Label) (fault : KeyFault)
  | unique (column : Label)
  | number (fault : NumberFault)
  | shape (fault : ShapeFault)
  | file (fault : FileFault)
deriving DecidableEq

namespace Failure

def message : Failure → String
  | unknownCommand command => "Unknown command: " ++ command
  | invalid kind fault => "Invalid " ++ kind.name ++ " syntax - " ++ fault.message
  | noTable table => "Table " ++ table ++ " does not exist"
  | primaryKey _ .missing => "Primary key violation: primary key cannot be NULL"
  | primaryKey _ .duplicate => "Primary key violation: duplicate key value"
  | unique column => "Unique constraint violation on column: " ++ column.plain
  | number fault => fault.message
  | shape fault => fault.message
  | file fault => fault.message

/-- Whether the database refuses the command. Conversions that reach a limit are no refusal, nor are
names that cannot be used and files that cannot be reached. -/
def isRefusal : Failure → Bool
  | number _ | shape _ | file _ => false
  | _ => true

end Failure

end Tabula
