import Tabula.Label

/-!
Rows: the cells of a record by label, in the order in which they were set.
-/

namespace Tabula

abbrev Row := List (Label × Value)

/-- The cell of a label. A missing cell reads as NULL. -/
def Row.at (row : Row) (l : Label) : Value := (Keyed.find? row l).getD .null

/-- The cell of a column. -/
def Row.cell (row : Row) (column : String) : Value := Row.at row (.name column)

/-- The row with the given columns only, each once. -/
def Row.project (row : Row) (columns : List String) : Row :=
  Keyed.ofList (columns.map fun c => (Label.name c, Row.cell row c))

/-- The row after assignments to columns. -/
def Row.assign (row : Row) (assignments : List (String × Value)) : Row :=
  Keyed.putAll row (assignments.map fun a => (Label.name a.1, a.2))

end Tabula
