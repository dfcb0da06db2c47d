import Tabula.Document
import Tabula.Number.Numeral

/-!
Snapshots: the tables and indexes that a document describes.

Reading is lenient about the shape of lists and rows: any list will do, of the members of an object
or the characters of a text as well, and a row may be a list of pairs. Names are taken as they are,
and so are cells, which may be lists and objects. Only labels and the values of an index must be
scalars, since things are found under them.
-/

namespace Tabula

namespace Snapshot

abbrev Row := List (Atom × Document)

structure Column where
  name : Document
  declared : Document

structure Table where
  columns : List Column
  primaryKey : Document
  unique : List Document
  rows : List Row
  counter : Int

structure Index where
  name : Document
  table : Document
  column : Document
  entries : List (Atom × List Row)

/-- Why a document is no snapshot. -/
inductive Fault where
  | missing (member : String)
  /-- this is not what it should be -/
  | wrong (part : String)
  /-- the counter is infinite, which no lenience covers -/
  | infiniteCounter
deriving DecidableEq

def Fault.message : Fault → String
  | missing member => "no member " ++ member
  | wrong part => "cannot read " ++ part
  | infiniteCounter => "cannot convert float infinity to integer"

end Snapshot

structure Snapshot where
  tables : List (Wide × Snapshot.Table)
  indexes : List (Wide × Snapshot.Index)

namespace Snapshot

def empty : Snapshot := ⟨[], []⟩

abbrev Result := Except Fault

def members (part : String) : Document → Result (List (Wide × Document))
  | .object members => .ok members
  | _ => .error (.wrong part)

def member (name : String) (d : Document) : Result Document :=
  match d.member? name with
  | some x => .ok x
  | none => .error (.missing name)

/-- What a document lists: items, the names of members, or characters. -/
def listed (part : String) : Document → Result (List Document)
  | .array items => .ok items
  | .object members => .ok (members.map fun m => .text m.1)
  | .atom (.text s) => .ok (s.map fun c => .text [c])
  | _ => .error (.wrong part)

def readAtom (part : String) : Document → Result Atom
  | .atom a => .ok a
  | _ => .error (.wrong part)

def readPair (part : String) (d : Document) : Result (Document × Document) := do
  match ← listed part d with
  | [x, y] => return (x, y)
  | _ => throw (.wrong part)

def readCell (d : Document) : Result (Atom × Document) := do
  let (l, x) ← readPair "a cell" d
  return (← readAtom "a label" l, x)

def readRow : Document → Result Row
  | .object members => .ok (members.map fun m => (.text m.1, m.2))
  | d => do return Keyed.ofList (← (← listed "a row" d).mapM readCell)

def readRows (d : Document) : Result (List Row) := do (← listed "rows" d).mapM readRow

def readColumn (d : Document) : Result Column := do
  return ⟨← member "name" d, ← member "type" d⟩

/-- The primary key and the unique columns. -/
def readConstraints (d : Document) : Result (Document × List Document) := do
  let found ← members "constraints" d
  let unique ← match Keyed.find? found (Wide.ofString "unique") with
    | some x => listed "unique columns" x
    | none => pure []
  return ((Keyed.find? found (Wide.ofString "primary_key")).getD .null, unique)

/-- A counter is a whole number, or what can be turned into one. -/
def readCounter : Document → Result Int
  | .atom (.int n) => .ok n
  | .atom (.bool b) => .ok (if b then 1 else 0)
  | .atom (.real (.infinite _)) => .error .infiniteCounter
  | .atom (.real x) =>
    match x.truncate? with
    | some n => .ok n
    | none => .error (.wrong "a counter")
  | .atom (.text s) =>
    match s.string?.bind fun s => Numeral.readInt? s.toList with
    | some (.ok n) => .ok n
    | _ => .error (.wrong "a counter")
  | _ => .error (.wrong "a counter")

def readTable (d : Document) : Result Table := do
  let constraints ← member "constraints" d
  let columns ← (← listed "columns" (← member "columns" d)).mapM readColumn
  let (primaryKey, unique) ← readConstraints constraints
  let rows ← readRows (← member "rows" d)
  return ⟨columns, primaryKey, unique, rows, ← readCounter (← member "next_id" d)⟩

def readEntry (d : Document) : Result (Atom × List Row) := do
  let (v, rows) ← readPair "an entry" d
  return (← readAtom "a value" v, ← readRows rows)

/-- Of the entries of one value the last one counts. -/
def readIndex (d : Document) : Result Index := do
  let name ← member "name" d
  let table ← member "table" d
  let column ← member "column" d
  let entries ← (← listed "entries" (← member "entries" d)).mapM readEntry
  return ⟨name, table, column, Keyed.ofList entries⟩

/-- Reads what stands under the names of a member; a member that is not there has none. -/
def readAll {α : Type} (read : Document → Result α) (found : List (Wide × Document))
    (name : String) : Result (List (Wide × α)) :=
  match Keyed.find? found (Wide.ofString name) with
  | none => .ok []
  | some d => do (← members name d).mapM fun m => do return (m.1, ← read m.2)

def ofDocument (d : Document) : Result Snapshot := do
  let found ← members "a snapshot" d
  let tables ← readAll readTable found "tables"
  return ⟨tables, ← readAll readIndex found "indexes"⟩

end Snapshot

end Tabula
