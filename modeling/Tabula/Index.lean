import Tabula.Json.Plain
import Tabula.Table

/-!
Indexes: the records of a table by the value of one column, as they were when they were added.
-/

namespace Tabula

/-- Statements give text for the name, the table and the column; an index that was stored may have
anything. -/
structure Index where
  name : Json
  table : Json
  column : Json
  /-- the values in the order in which they first came, as they first came -/
  entries : List (Value × List Record)
deriving DecidableEq

namespace Index

def empty (name table column : String) : Index := ⟨.text name, .text table, .text column, []⟩

/-- An index is known by the table and the column. -/
def keyOf (table column : String) : String := table ++ "." ++ column

def key (i : Index) : String := keyOf i.table.plain i.column.plain

/-- Adds to the records of a value; a new value comes last. -/
def addEntry (v : Value) (r : Record) : List (Value × List Record) → List (Value × List Record)
  | [] => [(v, [r])]
  | e :: es => if e.1.sameKey v then (e.1, e.2 ++ [r]) :: es else e :: addEntry v r es

/-- Adds a record under its cell of a label. -/
def addUnder (l : Label) (i : Index) (r : Record) : Index :=
  { i with entries := addEntry (Row.at r.row l) r i.entries }

def add (i : Index) (r : Record) : Except ShapeFault Index :=
  (i.column.label).map fun l => i.addUnder l r

/-- The index of a column with the given records and no others. -/
def build (name table column : String) (rs : List Record) : Index :=
  rs.foldl (addUnder (.name column)) (empty name table column)

def search (i : Index) (v : Value) : List Record :=
  ((i.entries.find? fun e => e.1.sameKey v).map (·.2)).getD []

def values (i : Index) : List Value := i.entries.map (·.1)

def size (i : Index) : Nat := i.entries.foldr (fun e n => e.2.length + n) 0

/-- The index after the given records took new rows. It keeps the values it was built with. -/
def refresh (i : Index) (changed : List Record) : Index :=
  { i with
    entries := i.entries.map fun e =>
      (e.1, e.2.map fun r => (changed.find? (·.id == r.id)).getD r) }

end Index

end Tabula
