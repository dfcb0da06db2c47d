import Tabula.Json.Shape
import Tabula.Notice
import Tabula.Text.Casing

/-!
Columns, their types, and the conversion of values on the way into a column.
-/

namespace Tabula

inductive ColumnType where
  | integer
  | real
  | text
deriving DecidableEq

namespace ColumnType

def name : ColumnType → String
  | integer => "INTEGER"
  | real => "REAL"
  | text => "TEXT"

/-- The type that a declaration names, in any case; any other declaration means text. -/
def ofDeclared (declared : String) : ColumnType :=
  let word := String.ofList (Text.capitals (Text.trim declared.toList))
  if word = integer.name then integer else if word = real.name then real else text

/-- Numbers lose their fraction. A whole number is refused where no floating-point number is as
large, and a floating-point number without a whole part becomes NULL. -/
def toInteger : Number → Except NumberFault Value
  | .int n => do
    let _ ← Binary64.ofInt n
    return .int n
  | .real x => .ok ((x.truncate?).elim .null .int)

def toReal : Number → Except NumberFault Value
  | .int n => .real <$> Binary64.ofInt n
  | .real x => .ok (.real x)

/-- The value as a column of this type stores it. Text gives a numeric column the number at its
head. -/
def cast (t : ColumnType) (column : String) (v : Value) :
    Except NumberFault (Value × List Notice) :=
  match t, v with
  | text, v => (·, []) <$> v.asText
  | _, .null => .ok (.null, [])
  | integer, .text s => do
    match ← Numeral.leadingInt? s.toList with
    | some n => return (.int n, [])
    | none => return (.null, [.notANumber s "an integer" column])
  | real, .text s =>
    match Numeral.leadingReal? s.toList with
    | some x => .ok (.real x, [])
    | none => .ok (.null, [.notANumber s "a real" column])
  | integer, v => (·, []) <$> (v.number?.elim (.ok .null) toInteger)
  | real, v => (·, []) <$> (v.number?.elim (.ok .null) toReal)

/-- A column that was not declared stores text. -/
def castUndeclared : Value → Except NumberFault Value
  | .null => .ok .null
  | v => .text <$> v.shown

end ColumnType

/-- The declared type is kept as it was written. Statements give text for the name and the type; a
column that was stored may have anything. -/
structure Column where
  name : Json
  declared : Json
deriving DecidableEq

/-- Nothing at all means text, too. -/
def Column.type (c : Column) : Except ShapeFault ColumnType :=
  match c.declared.text? with
  | some s => .ok (.ofDeclared s)
  | none => if c.declared.isEmpty then .ok .text else .error (.noType c.declared.shape)

end Tabula
