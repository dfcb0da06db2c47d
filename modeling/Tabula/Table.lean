import Tabula.Column
import Tabula.Condition
import Tabula.Failure
import Tabula.Json.Same
import Tabula.Notice
import Tabula.Row

/-!
Tables: columns, constraints, records, and the counter that fills a primary key.

A record is a row with an identity. The identity is what a table and an index of it share: both hold
the same record, so a change of its row is seen in both.
-/

namespace Tabula

structure Record where
  id : Nat
  row : Row
deriving DecidableEq

/-- The primary key, if there is one, and the unique columns, by the names of columns. -/
structure Constraints where
  primaryKey : Json
  unique : List Json
deriving DecidableEq

namespace Constraints

/-- How a description marks a column. -/
def mark (c : Constraints) (column : Json) : String :=
  if column.equal c.primaryKey then "PRI" else if c.unique.any column.same then "UNI" else ""

/-- The label of the primary key; nothing at all is none. -/
def key (c : Constraints) : Except ShapeFault (Option Label) :=
  if c.primaryKey.isEmpty then .ok none else some <$> c.primaryKey.label

end Constraints

structure Table where
  columns : List Column
  constraints : Constraints
  records : List Record
  counter : Int
deriving DecidableEq

/-- A description of a column: its name, its declared type and its mark. -/
structure ColumnInfo where
  name : Json
  declared : Json
  mark : String
deriving DecidableEq

namespace Table

def ofColumns (defs : List ColumnDeclaration) : Table where
  columns := defs.map fun d => ⟨.text d.name, .text d.declared⟩
  constraints :=
    ⟨((defs.find? (·.primaryKey)).map (Json.text ·.name)).getD .null,
      (defs.filter (·.unique)).map (Json.text ·.name)⟩
  records := []
  counter := 1

def rows (t : Table) : List Row := t.records.map (·.row)

/-- The first column of a name counts. -/
def column? (t : Table) (name : String) : Option Column :=
  t.columns.find? (·.name.text? == some name)

def cast (t : Table) (column : String) (v : Value) : Except Failure (Value × List Notice) :=
  match t.column? column with
  | some c => do
    let type ← c.type.mapError .shape
    (type.cast column v).mapError .number
  | none => (·, []) <$> (ColumnType.castUndeclared v).mapError .number

/-- Casts and sets one cell after the other, up to the first that cannot be cast. The notices are
those of the cells that came to be set. -/
def fill (t : Table) (row : Row) : List (String × Value) → List Notice × Except Failure Row
  | [] => ([], .ok row)
  | (column, v) :: cells =>
    match t.cast column v with
    | .error failure => ([], .error failure)
    | .ok (v, notices) =>
      let (more, result) := t.fill (Keyed.put (.name column) v row) cells
      (notices ++ more, result)

/-- Whether a record has this very value under a label. -/
def holds (t : Table) (l : Label) (v : Value) : Bool :=
  t.records.any fun r => (Row.at r.row l).same v

def keyFault? (t : Table) (key : Option Label) (row : Row) : Option Failure :=
  key.bind fun l =>
    if Row.at row l = .null then some (.primaryKey l .missing)
    else if t.holds l (Row.at row l) then some (.primaryKey l .duplicate)
    else none

/-- NULL may stand in a unique column more than once. -/
def uniqueFault? (t : Table) (row : Row) : Option Failure :=
  t.constraints.unique.findSome? fun column =>
    match column.label with
    | .error fault => some (.shape fault)
    | .ok l =>
      if Row.at row l ≠ .null ∧ t.holds l (Row.at row l) = true then some (.unique l) else none

/-- Why a row cannot be added; the primary key is looked at first. -/
def fault? (t : Table) (key : Option Label) (row : Row) : Option Failure :=
  t.keyFault? key row <|> t.uniqueFault? row

/-- The cells to start a row with, and the table after it. A primary key that is not listed is
taken from the counter, which moves on. -/
def startRow (t : Table) (key : Option Label) (columns : List String) : Row × Table :=
  match key with
  | some l =>
    if columns.any fun c => Key.same l (.name c) then ([], t)
    else ([(l, .int t.counter)], { t with counter := t.counter + 1 })
  | none => ([], t)

/-- What became of an insertion: the table after it, the record if there is one, and notices. -/
structure Insertion where
  table : Table
  notices : List Notice
  outcome : Except Failure Record

/-- Inserts a row under a new identity. Even if the row is refused, the counter has moved. -/
def insert (t : Table) (id : Nat) (columns : List String) (values : List Value) : Insertion :=
  match t.constraints.key with
  | .error fault => ⟨t, [], .error (.shape fault)⟩
  | .ok key =>
    let (start, t) := t.startRow key columns
    match t.fill start (columns.zip values) with
    | (notices, .error failure) => ⟨t, notices, .error failure⟩
    | (notices, .ok row) =>
      match t.fault? key row with
      | some failure => ⟨t, notices, .error failure⟩
      | none => ⟨{ t with records := t.records ++ [⟨id, row⟩] }, notices, .ok ⟨id, row⟩⟩

/-- The rows that satisfy a condition; all without one. -/
def select (t : Table) : Option Condition → Except NumberFault (List Row)
  | none => .ok t.rows
  | some c => (·.1) <$> c.partition id t.rows

/-- Assigns to one matching record after the other and counts them. Where the condition cannot be
decided for a record, it and those after it stay as they are. -/
def updateRecords (assignments : List (String × Value)) (c : Condition) :
    List Record → List Record × Except NumberFault Nat
  | [] => ([], .ok 0)
  | r :: rs =>
    match c.holds r.row with
    | .error fault => (r :: rs, .error fault)
    | .ok matched =>
      let (rest, count) := updateRecords assignments c rs
      if matched then ({ r with row := Row.assign r.row assignments } :: rest, (· + 1) <$> count)
      else (r :: rest, count)

def update (t : Table) (assignments : List (String × Value)) (c : Condition) :
    Table × Except NumberFault Nat :=
  let (records, count) := updateRecords assignments c t.records
  ({ t with records }, count)

/-- The table without the matching records, and their number. -/
def delete (t : Table) (c : Condition) : Except NumberFault (Table × Nat) := do
  let (gone, kept) ← c.partition (·.row) t.records
  return ({ t with records := kept }, gone.length)

def describe (t : Table) : List ColumnInfo :=
  t.columns.map fun c => ⟨c.name, c.declared, t.constraints.mark c.name⟩

end Table

end Tabula
