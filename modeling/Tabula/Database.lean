import Tabula.Index
import Tabula.Table

/-!
Databases: tables by name and indexes by key, and what a statement answers.
-/

namespace Tabula

structure Database where
  tables : List (String × Table)
  indexes : List (String × Index)
  /-- an identity that no record has yet, and none after it -/
  freshId : Nat
deriving DecidableEq

/-- What a statement that changes data did. -/
inductive Effect where
  | created (table : String)
  | inserted
  | updated (count : Nat)
  | deleted (count : Nat)
  | indexed (index table column : String)
deriving DecidableEq

namespace Effect

def message : Effect → String
  | created table => "Table " ++ table ++ " created"
  | inserted => "Row inserted"
  | updated count => "Updated " ++ toString count ++ " row(s)"
  | deleted count => "Deleted " ++ toString count ++ " row(s)"
  | indexed index table column =>
    "Index " ++ index ++ " created on " ++ table ++ "(" ++ column ++ ")"

/-- The number of rows that were changed, where rows are what is changed. -/
def affected? : Effect → Option Nat
  | inserted => some 1
  | updated count | deleted count => some count
  | created _ | indexed .. => none

end Effect

inductive Answer where
  | rows (rows : List Row)
  | description (columns : List ColumnInfo)
  | done (effect : Effect)
deriving DecidableEq

namespace Database

def empty : Database := ⟨[], [], 0⟩

def names (db : Database) : List String := Keyed.keys db.tables

def table? (db : Database) (name : String) : Option Table := Keyed.find? db.tables name

def table (db : Database) (name : String) : Except Failure Table :=
  match db.table? name with
  | some t => .ok t
  | none => .error (.noTable name)

def index? (db : Database) (key : String) : Option Index := Keyed.find? db.indexes key

def putTable (db : Database) (name : String) (t : Table) : Database :=
  { db with tables := Keyed.put name t db.tables }

def putIndex (db : Database) (key : String) (i : Index) : Database :=
  { db with indexes := Keyed.put key i db.indexes }

end Database

end Tabula
