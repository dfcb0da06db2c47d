import Tabula.Database.Execute
import Tabula.SnapshotFile
import Tabula.Statement.Command

/-!
Sessions: a database in memory, and the file where it is kept.

Without a file a database lives in memory only. With a file, a snapshot is written after every
statement that may change data, also when the statement failed, since a failed one may have moved a
counter.
-/

namespace Tabula

structure Session where
  file : Option SnapshotFile
  database : Database

/-- The session and the files after a command, the notices on the way, and the answer. -/
structure Reply where
  session : Session
  files : Files
  notices : List Notice
  outcome : Except Failure Answer

namespace Session

/-- A session with an empty database and no file. -/
def inMemory : Session := ⟨none, .empty⟩

/-- Starts with the database in the file, or with an empty one. -/
def start (file : Option SnapshotFile) (files : Files) :
    List Notice × Except SnapshotFile.OpenFault Session :=
  match file with
  | none => ([], .ok inMemory)
  | some f =>
    let (notices, opened) := f.openWithin Json.deepest files
    (notices, do return ⟨some f, ← SnapshotFile.database (← opened)⟩)

def save (s : Session) (files : Files) : Except Failure Files :=
  match s.file with
  | none => .ok files
  | some f => f.write files s.database

/-- Executes a statement. Where the snapshot cannot be written, that is the answer. -/
def run (s : Session) (files : Files) (statement : Statement) : Reply :=
  let execution := s.database.execute statement
  let s := { s with database := execution.database }
  if statement.kind.isQuery then ⟨s, files, execution.notices, execution.outcome⟩
  else
    match s.save files with
    | .ok files => ⟨s, files, execution.notices, execution.outcome⟩
    | .error failure => ⟨s, files, execution.notices, .error failure⟩

def execute (s : Session) (files : Files) (command : String) : Reply :=
  match Statement.parse command with
  | .error failure => ⟨s, files, [], .error failure⟩
  | .ok statement => s.run files statement

end Session

end Tabula
