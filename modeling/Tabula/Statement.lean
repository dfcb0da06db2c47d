import Tabula.Condition

/-!
The statements of the command language.
-/

namespace Tabula

/-- The kinds of statements, in the order in which a command is tried. -/
inductive Kind where
  | createTable
  | insert
  | select
  | update
  | delete
  | createIndex
  | showTables
  | describe
deriving DecidableEq

namespace Kind

def all : List Kind :=
  [createTable, insert, select, update, delete, createIndex, showTables, describe]

def name : Kind → String
  | createTable => "CREATE TABLE"
  | insert => "INSERT"
  | select => "SELECT"
  | update => "UPDATE"
  | delete => "DELETE"
  | createIndex => "CREATE INDEX"
  | showTables => "SHOW TABLES"
  | describe => "DESCRIBE"

/-- A query changes nothing. -/
def isQuery : Kind → Bool
  | select | showTables | describe => true
  | _ => false

end Kind

structure ColumnDeclaration where
  name : String
  declared : String
  primaryKey : Bool
  unique : Bool
deriving DecidableEq

/-- A second table, and the columns that must be equal. -/
structure Join where
  table : String
  left : ColumnName
  right : ColumnName
deriving DecidableEq

inductive Statement where
  | createTable (table : String) (columns : List ColumnDeclaration)
  | insert (table : String) (columns : List String) (values : List Value)
  /-- without columns, all of them are selected -/
  | select (table : String) (columns : Option (List ColumnName)) (join : Option Join)
      (condition : Option Condition)
  | update (table : String) (assignments : List (String × Value)) (condition : Condition)
  | delete (table : String) (condition : Condition)
  | createIndex (index table column : String)
  | showTables
  | describe (table : String)
deriving DecidableEq

def Statement.kind : Statement → Kind
  | createTable .. => .createTable
  | insert .. => .insert
  | select .. => .select
  | update .. => .update
  | delete .. => .delete
  | createIndex .. => .createIndex
  | showTables => .showTables
  | describe _ => .describe

end Tabula
