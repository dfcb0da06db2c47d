import Tabula.Text.Quoted

/-!
What the database reports while it works, beside its answers.
-/

namespace Tabula

inductive Level where
  | info
  | warning
deriving DecidableEq

inductive Notice where
  /-- text that should be a number is stored as NULL -/
  | notANumber (value wanted column : String)
  | replacingTable (table : String)
  | conditionIgnored (condition : String)
  /-- the file cannot be read, or is not in the format -/
  | unreadable (path cause : String)
  | notAnObject (path : String)
  /-- the file holds no snapshot -/
  | malformed (path cause : String)
  | loaded (tables : Nat) (path : String)
deriving DecidableEq

namespace Notice

def level : Notice → Level
  | loaded .. => .info
  | _ => .warning

def text : Notice → String
  | notANumber value wanted column =>
    "Value " ++ Text.quoted value ++ " is not " ++ wanted ++ " for column '" ++ column ++
      "', storing NULL"
  | replacingTable table => "Replacing existing table '" ++ table ++ "'"
  | conditionIgnored condition => "WHERE clause is not applied to JOIN queries: " ++ condition
  | unreadable path cause => "Ignoring unreadable snapshot " ++ path ++ ": " ++ cause
  | notAnObject path => "Ignoring snapshot " ++ path ++ ": expected an object"
  | malformed path cause => "Ignoring malformed snapshot " ++ path ++ ": " ++ cause
  | loaded tables path => "Loaded " ++ toString tables ++ " table(s) from " ++ path

end Notice

end Tabula
