import Tabula.Comparison
import Tabula.Row

/-!
Conditions on rows: one column compared with one value.
-/

namespace Tabula

/-- A column, perhaps with the table it belongs to. -/
structure ColumnName where
  table : Option String
  column : String
deriving DecidableEq

def ColumnName.text (r : ColumnName) : String :=
  match r.table with
  | some table => table ++ "." ++ r.column
  | none => r.column

structure Condition where
  column : ColumnName
  comparison : Comparison
  value : Value
deriving DecidableEq

namespace Condition

/-- A row has its cells under the text of a reference, qualified or not. -/
def holds (c : Condition) (row : Row) : Except NumberFault Bool :=
  c.comparison.holds (Row.cell row c.column.text) c.value

def text (c : Condition) : Except NumberFault String := do
  return c.column.text ++ " " ++ c.comparison.text ++ " " ++ (← c.value.literal)

/-- The members whose row satisfies the condition and those whose row does not, unless it cannot be
decided for one of them. -/
def partition {α : Type} (c : Condition) (row : α → Row) :
    List α → Except NumberFault (List α × List α)
  | [] => .ok ([], [])
  | a :: as => do
    let matched ← c.holds (row a)
    let (yes, no) ← c.partition row as
    return if matched then (a :: yes, no) else (yes, a :: no)

end Condition

end Tabula
