import Tabula.CommandLine
import Tabula.Number.Numeral

/-!
Where the service listens.
-/

namespace Tabula.Service

/-- The host and the port, where they have a value. -/
structure Address where
  host : Option String
  port : Option Int
deriving DecidableEq

namespace Address

def default : Address := ⟨some "127.0.0.1", some 8000⟩

def readPort? (s : String) : Option Int :=
  match Numeral.readInt? s.toList with
  | some (.ok n) => some n
  | _ => none

def ofCommandLine (arguments : List String) : CommandLine.Launch Address :=
  match CommandLine.read [⟨"--host", fun _ => true⟩, ⟨"--port", fun s => (readPort? s).isSome⟩]
      arguments with
  | .help => .help
  | .wrong => .wrong
  | .values found =>
    .start ⟨(CommandLine.lastValue? found "--host").getD default.host,
      ((CommandLine.lastValue? found "--port").map (·.bind readPort?)).getD default.port⟩

end Address

end Tabula.Service
