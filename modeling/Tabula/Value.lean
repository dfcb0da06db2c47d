import Tabula.Number.Numeral
import Tabula.Number.Shortest
import Tabula.Text.Quoted

/-!
The values of cells, and how they are shown.
-/

namespace Tabula

/-- Truth values come from stored data only; no statement writes one. -/
inductive Value where
  | null
  | bool (b : Bool)
  | int (n : Int)
  | real (x : Binary64)
  | text (s : String)
deriving DecidableEq, Inhabited

namespace Value

/-- The value as a number. A truth value counts as one or zero, text as none. -/
def number? : Value → Option Number
  | bool b => some (.int (if b then 1 else 0))
  | int n => some (.int n)
  | real x => some (.real x)
  | null | text _ => none

def ofNumber : Number → Value
  | .int n => int n
  | .real x => real x

/-- The plain text of a value. -/
def plain : Value → String
  | null => "None"
  | bool b => if b then "True" else "False"
  | int n => String.ofList (decimalInt n)
  | real x => String.ofList x.text
  | text s => s

/-- The value as plain text, if it is short enough. -/
def shown : Value → Except NumberFault String
  | int n => writeInt n
  | v => .ok v.plain

/-- The value as it stands in a condition: text is quoted. -/
def literal : Value → Except NumberFault String
  | text s => .ok (Text.quoted s)
  | v => v.shown

/-- What a text column stores: whole floating-point numbers lose their fraction. -/
def asText : Value → Except NumberFault Value
  | null => .ok null
  | real x =>
    match x.isWhole, x.truncate? with
    | true, some n => text <$> writeInt n
    | _, _ => .ok (text (String.ofList x.text))
  | v => text <$> v.shown

end Value

end Tabula
