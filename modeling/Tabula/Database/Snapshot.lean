import Tabula.Database
import Tabula.Json.Write
import Tabula.Snapshot

/-!
Snapshots of databases.

A table is stored with its columns, constraints, rows and counter, an index with its entries, a list
of pairs, so that its values keep their kinds. A snapshot is the database again if its cells are
scalars and its texts have no halves of pairs, which is all that statements can deal with. Such a
database shares no records between its tables and its indexes.
-/

namespace Tabula

namespace Database

section Writing

/-- The name of the member that holds the cell of a label. -/
def memberName (l : Label) : String :=
  match l.value with
  | .text s => s
  | v => String.ofList (Json.writeScalar v)

def rowToJson (row : Row) : Json := .object (row.map fun c => (memberName c.1, .scalar c.2))

def columnToJson (c : Column) : Json := .object [("name", c.name), ("type", c.declared)]

def tableToJson (t : Table) : Json :=
  .object [("columns", .array (t.columns.map columnToJson)),
    ("constraints", .object [("primary_key", t.constraints.primaryKey),
      ("unique", .array t.constraints.unique)]),
    ("rows", .array (t.rows.map rowToJson)),
    ("next_id", .int t.counter)]

def entryToJson (e : Value × List Record) : Json :=
  .array [.scalar e.1, .array (e.2.map fun r => rowToJson r.row)]

def indexToJson (i : Index) : Json :=
  .object [("name", i.name), ("table", i.table), ("column", i.column),
    ("entries", .array (i.entries.map entryToJson))]

def toJson (db : Database) : Json :=
  .object [("tables", .object (db.tables.map fun e => (e.1, tableToJson e.2))),
    ("indexes", .object (db.indexes.map fun e => (e.1, indexToJson e.2)))]

end Writing

end Database

/-! ### Databases of snapshots -/

namespace Snapshot

def Column.column? (c : Column) : Option Tabula.Column := do
  return ⟨← c.name.json?, ← c.declared.json?⟩

def value? : Document → Option Value
  | .atom a => a.value?
  | _ => none

def row? (row : Row) : Option Tabula.Row :=
  row.mapM fun c => do return (⟨← c.1.value?⟩, ← value? c.2)

/-- Gives identities to rows, one after the other from `first`. -/
def number (first : Nat) (rows : List Tabula.Row) : List Record :=
  (rows.zipIdx first).map fun x => ⟨x.2, x.1⟩

def Table.table? (first : Nat) (t : Table) : Option Tabula.Table := do
  return ⟨← t.columns.mapM Column.column?, ⟨← t.primaryKey.json?, ← t.unique.mapM Document.json?⟩,
    number first (← t.rows.mapM row?), t.counter⟩

/-- Tables whose records have identities from `first` up to the number that comes back. -/
def tables? (first : Nat) : List (Wide × Table) → Option (List (String × Tabula.Table) × Nat)
  | [] => some ([], first)
  | (name, t) :: rest => do
    let u ← t.table? first
    let (us, last) ← tables? (first + u.records.length) rest
    return ((← name.string?, u) :: us, last)

def entry? (e : Atom × List Row) : Option (Value × List Tabula.Row) := do
  return (← e.1.value?, ← e.2.mapM row?)

/-- Gives identities to the rows of entries, one after the other from `first`. -/
def numberEntries (first : Nat) :
    List (Value × List Tabula.Row) → List (Value × List Record) × Nat
  | [] => ([], first)
  | (v, rows) :: rest =>
    let (es, last) := numberEntries (first + rows.length) rest
    ((v, number first rows) :: es, last)

def Index.index? (first : Nat) (i : Index) : Option (Tabula.Index × Nat) := do
  let (entries, last) := numberEntries first (← i.entries.mapM entry?)
  return (⟨← i.name.json?, ← i.table.json?, ← i.column.json?, entries⟩, last)

def indexes? (first : Nat) : List (Wide × Index) → Option (List (String × Tabula.Index) × Nat)
  | [] => some ([], first)
  | (key, i) :: rest => do
    let (j, next) ← i.index? first
    let (js, last) ← indexes? next rest
    return ((← key.string?, j) :: js, last)

/-- The database of a snapshot, if statements can deal with everything in it. -/
def database? (s : Snapshot) : Option Database := do
  let (tables, next) ← tables? 0 s.tables
  let (indexes, last) ← indexes? next s.indexes
  return ⟨tables, indexes, last⟩

end Snapshot

/-- An index that is written and read again; its records have identities from `first`. -/
def Database.copyIndex? (first : Nat) (i : Index) : Option Index := do
  let k ← (Snapshot.readIndex (indexToJson i).document).toOption
  return (← k.index? first).1

end Tabula
