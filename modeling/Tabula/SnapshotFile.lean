import Tabula.Database.Snapshot
import Tabula.Files
import Tabula.Json.Read
import Tabula.Json.Write
import Tabula.Notice

/-!
The one file that keeps the snapshot of a database.

A file that holds no snapshot is reported and passed over, and nothing is loaded. Only a document
that is too deep and a snapshot with an infinite counter cannot be opened, nor can a directory that
cannot be made. A snapshot that is opened may still have cells or texts that statements cannot deal
with.
-/

namespace Tabula

structure SnapshotFile where
  directory : String
  key : String
deriving DecidableEq

namespace SnapshotFile

def defaultKey : String := "rdbms_database"

def name (f : SnapshotFile) : String := f.key ++ ".json"

def path (f : SnapshotFile) : String := Files.join f.directory f.name

/-- The name under which a snapshot is written before it takes its place. -/
def draftName (f : SnapshotFile) : String := "." ++ f.key ++ ".snapshot.tmp"

def draftPath (f : SnapshotFile) : String := Files.join f.directory f.draftName

/-- Why a file cannot be opened. -/
inductive OpenFault where
  | tooDeep
  | infiniteCounter
  | file (fault : FileFault)
  /-- it can be opened, but statements cannot deal with everything in it -/
  | strange
deriving DecidableEq

def OpenFault.message : OpenFault → String
  | tooDeep => Json.Fault.message .tooDeep
  | infiniteCounter => Snapshot.Fault.message .infiniteCounter
  | file fault => fault.message
  | strange => "cells that are lists or objects, or halves of pairs in text"

/-- The content of the file, if there is one. Only a name that is too long spoils the search. -/
def content? (f : SnapshotFile) (files : Files) : Except FileFault (Option ByteArray) :=
  match Files.fault? f.directory f.name with
  | some (.nameTooLong path) => .error (.nameTooLong path)
  | some _ => .ok none
  | none => .ok (files.bytes? f.path)

/-- The document in the file, if it is an object of at most this depth. Without a file there is
nothing to report. -/
def document? (limit : Nat) (f : SnapshotFile) (files : Files) :
    List Notice × Except OpenFault (Option Document) :=
  match f.content? files with
  | .error fault => ([], .error (.file fault))
  | .ok none => ([], .ok none)
  | .ok (some bytes) =>
    match String.fromUTF8? bytes with
    | none => ([.unreadable f.path "invalid encoding"], .ok none)
    | some text =>
      match Json.readDocument limit text with
      | .error .tooDeep => ([], .error .tooDeep)
      | .error fault => ([.unreadable f.path fault.message], .ok none)
      | .ok (.object members) => ([], .ok (some (.object members)))
      | .ok _ => ([.notAnObject f.path], .ok none)

/-- The snapshot in the file, or an empty one. -/
def load (limit : Nat) (f : SnapshotFile) (files : Files) :
    List Notice × Except OpenFault Snapshot :=
  match f.document? limit files with
  | (notices, .error fault) => (notices, .error fault)
  | (notices, .ok none) => (notices, .ok .empty)
  | (notices, .ok (some document)) =>
    match Snapshot.ofDocument document with
    | .ok s => (notices ++ [.loaded s.tables.length f.path], .ok s)
    | .error .infiniteCounter => (notices, .error .infiniteCounter)
    | .error fault => (notices ++ [.malformed f.path fault.message], .ok .empty)

/-- Makes the directory, and loads the snapshot in the file. -/
def openWithin (limit : Nat) (f : SnapshotFile) (files : Files) :
    List Notice × Except OpenFault Snapshot :=
  match files.directoryFault? f.directory with
  | some fault => ([], .error (.file fault))
  | none => f.load limit files

/-- The database of a snapshot that was loaded. -/
def database (s : Snapshot) : Except OpenFault Database :=
  match s.database? with
  | some db => .ok db
  | none => .error .strange

/-- Writes a snapshot in place of the one before. -/
def write (f : SnapshotFile) (files : Files) (db : Database) : Except Failure Files :=
  match Files.fault? f.directory f.draftName with
  | some fault => .error (.file fault)
  | none => do
    let text ← db.toJson.write.mapError .number
    return files.write f.path text.toUTF8

def remove (f : SnapshotFile) (files : Files) : Files := files.remove f.path

end SnapshotFile

end Tabula
