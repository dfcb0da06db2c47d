import Tabula.Console
import Tabula.Settings

/-!
The console as a program.

It talks on standard input and output, and reports notices on standard error. The snapshot is read
once at the start, and written whenever it has changed.
-/

namespace Tabula.Main

/-- The files that matter: the one with the snapshot, if there is one. -/
def readFiles (file : Option SnapshotFile) : IO Files := do
  match file with
  | none => return []
  | some f =>
    try return Files.write [] f.path (← IO.FS.readBinFile f.path)
    catch _ => return []

/-- The file is replaced as a whole. -/
def writeFile (f : SnapshotFile) (bytes : ByteArray) : IO Unit := do
  IO.FS.createDirAll f.directory
  IO.FS.writeBinFile f.draftPath bytes
  IO.FS.rename f.draftPath f.path

def saveChanges (file : Option SnapshotFile) (old new : Files) : IO Unit := do
  if let some f := file then
    match old.bytes? f.path, new.bytes? f.path with
    | some a, some b => if a != b then writeFile f b
    | none, some b => writeFile f b
    | _, none => return

def report (level : LogLevel) (notices : List Notice) : IO Unit := do
  for n in notices do
    if level.shows n.level then IO.eprintln n.text

def readEvent (input : IO.FS.Stream) : IO Console.Event := do
  let text ← input.getLine
  return if text.isEmpty then .endOfInput else .line text

partial def talk (level : LogLevel) (c : Console) : IO Unit := do
  match c.phase.prompt? with
  | none => return
  | some prompt =>
    let output ← IO.getStdout
    output.putStr prompt
    output.flush
    let turn := c.take (← readEvent (← IO.getStdin))
    report level turn.notices
    saveChanges c.session.file c.files turn.console.files
    output.putStr turn.shown
    talk level turn.console

def environment : IO (List (String × String)) :=
  Settings.Field.all.filterMapM fun f => do
    return (← IO.getEnv f.variable).map fun v => (f.variable, v)

def usage : String := "usage: tabula [-h] [--data-dir DIRECTORY] [--log-level LEVEL]"

end Tabula.Main

open Tabula in
def main (arguments : List String) : IO UInt32 := do
  match Settings.ofCommandLine (← Main.environment) arguments with
  | .help =>
    IO.println Main.usage
    return 0
  | .wrong =>
    IO.eprintln Main.usage
    return 2
  | .start settings =>
    let files ← Main.readFiles settings.file
    match Session.start settings.file files with
    | (notices, .error fault) =>
      Main.report settings.level notices
      IO.eprintln fault.message
      return 1
    | (notices, .ok session) =>
      Main.report settings.level notices
      IO.print Console.greeting
      Main.talk settings.level (Console.start session files)
      return 0
