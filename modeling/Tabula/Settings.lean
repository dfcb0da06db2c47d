import Tabula.CommandLine
import Tabula.Json
import Tabula.SnapshotFile
import Tabula.Text.Casing

/-!
Settings: where data is kept, and from which level on notices are shown.
-/

namespace Tabula

/-- The levels that can be asked for. Some have two names. -/
inductive LogLevel where
  | critical | fatal | error | warning | warn | info | debug | notset
deriving DecidableEq

namespace LogLevel

def name : LogLevel → String
  | critical => "CRITICAL"
  | fatal => "FATAL"
  | error => "ERROR"
  | warning => "WARNING"
  | warn => "WARN"
  | info => "INFO"
  | debug => "DEBUG"
  | notset => "NOTSET"

def all : List LogLevel := [critical, fatal, error, warning, warn, info, debug, notset]

/-- The level of a name in any case. -/
def ofText? (s : String) : Option LogLevel :=
  all.find? fun l => l.name.toList == Text.capitals s.toList

/-- Whether notices of a level are shown. -/
def shows : LogLevel → Level → Bool
  | critical, _ | fatal, _ | error, _ => false
  | warning, l | warn, l => l == .warning
  | info, _ | debug, _ | notset, _ => true

end LogLevel

structure Settings where
  /-- without a directory, data is kept in memory only -/
  directory : Option String
  key : String
  level : LogLevel
deriving DecidableEq

namespace Settings

def default : Settings := ⟨some "data", SnapshotFile.defaultKey, .info⟩

inductive Field where
  | directory
  | key
  | level
deriving DecidableEq

def Field.name : Field → String
  | directory => "data_dir"
  | key => "storage_key"
  | level => "log_level"

/-- The variable of the environment that sets a field. -/
def Field.variable : Field → String
  | directory => "RDBMS_DATA_DIR"
  | key => "RDBMS_STORAGE_KEY"
  | level => "RDBMS_LOG_LEVEL"

def Field.all : List Field := [directory, key, level]

inductive FieldFault where
  | noText (field : Field)
  | unknownLevel (given : String)
deriving DecidableEq

namespace FieldFault

def field : FieldFault → Field
  | noText field => field
  | unknownLevel _ => .level

def message : FieldFault → String
  | noText _ => "Input should be a valid string"
  | unknownLevel given => "Value error, Unknown log level: " ++ given

end FieldFault

abbrev Checked := Except FieldFault

def readDirectory : Option Json → Checked (Option String)
  | none => .ok default.directory
  | some (.scalar .null) => .ok none
  | some (.scalar (.text s)) => .ok (if s = "" then none else some s)
  | some _ => .error (.noText .directory)

def readKey : Option Json → Checked String
  | none => .ok default.key
  | some (.scalar (.text s)) => .ok s
  | some _ => .error (.noText .key)

def readLevel : Option Json → Checked LogLevel
  | none => .ok default.level
  | some (.scalar (.text s)) =>
    match LogLevel.ofText? s with
    | some l => .ok l
    | none => .error (.unknownLevel s)
  | some _ => .error (.noText .level)

def faults {α : Type} : Checked α → List FieldFault
  | .ok _ => []
  | .error fault => [fault]

/-- The settings that fields give, or every fault among them. Fields that are not known are passed
over. -/
def ofFields (fields : List (String × Json)) : Except (List FieldFault) Settings :=
  let given (f : Field) := Keyed.find? fields f.name
  match readDirectory (given .directory), readKey (given .key), readLevel (given .level) with
  | .ok directory, .ok key, .ok level => .ok ⟨directory, key, level⟩
  | directory, key, level => .error (faults directory ++ faults key ++ faults level)

def ofEnvironment (environment : List (String × String)) : Except (List FieldFault) Settings :=
  ofFields (Field.all.filterMap fun f =>
    (Keyed.find? environment f.variable).map fun s => (f.name, .text s))

/-- The option of the command line that sets a field. -/
def Field.option? : Field → Option CommandLine.Flag
  | directory => some ⟨"--data-dir", fun _ => true⟩
  | level => some ⟨"--log-level", fun _ => true⟩
  | key => none

/-- The fields that were set on the command line. No value at all is a list of none. -/
def chosenFields (found : List (String × Option String)) : List (String × Json) :=
  Field.all.filterMap fun f => do
    let value ← CommandLine.lastValue? found (← f.option?).name
    return (f.name, value.elim (.array []) .text)

/-- The settings of the environment, of which options may replace the directory and the level. The
environment must be right even where it is replaced. -/
def ofCommandLine (environment : List (String × String)) (arguments : List String) :
    CommandLine.Launch Settings :=
  match ofEnvironment environment with
  | .error _ => .wrong
  | .ok base =>
    match CommandLine.read (Field.all.filterMap Field.option?) arguments with
    | .help => .help
    | .wrong => .wrong
    | .values found =>
      let fields := chosenFields found
      let isChosen (f : Field) := (Keyed.find? fields f.name).isSome
      match ofFields fields with
      | .error _ => .wrong
      | .ok chosen =>
        .start ⟨if isChosen .directory then chosen.directory else base.directory, base.key,
          if isChosen .level then chosen.level else base.level⟩

/-- The file of the snapshot, if there is one. -/
def file (s : Settings) : Option SnapshotFile := s.directory.map fun d => ⟨d, s.key⟩

end Settings

end Tabula
