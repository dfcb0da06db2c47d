import Tabula.Session
import Tabula.Web

/-!
The service: an application around a session.

The root tells what there is, `/query` takes a command, `/tables` lists the tables, and below it is
one table each. What the database refuses is answered as such.
-/

namespace Tabula.Service

open Web

abbrev State := Session × Files

/-- The root tells what there is. -/
def rootContent : Content :=
  .dict [(.name "name", .text "Simple RDBMS API"), (.name "version", .text "1.0.0"),
    (.name "endpoints", .dict [(.name "POST /query", .text "Execute a SQL-like statement"),
      (.name "GET /tables", .text "List all tables"),
      (.name "GET /tables/\x7bname\x7d", .text "Get table info")])]

def rowContent (row : Row) : Content := .dict (row.map fun c => (c.1, .value c.2))

def columnContent (c : ColumnInfo) : Content :=
  .dict [(.name "column", .document c.name), (.name "type", .document c.declared),
    (.name "key", .text c.mark)]

def listContent (items : List Content) : Content :=
  .dict [(.name "success", .value (.bool true)), (.name "data", .list items),
    (.name "row_count", .count items.length)]

def answerContent : Answer → Content
  | .rows rows => listContent (rows.map rowContent)
  | .description columns => listContent (columns.map columnContent)
  | .done effect =>
    .dict ([(.name "success", .value (.bool true)), (.name "message", .text effect.message)] ++
      (effect.affected?.map fun n => (Label.name "rows_affected", Content.count n)).toList)

def tablesContent (db : Database) : Content :=
  .dict [(.name "tables", .list (db.names.map .text))]

def tableContent (t : Table) : Content :=
  .dict [(.name "schema", .list (t.describe.map columnContent)),
    (.name "row_count", .count t.records.length)]

def failureContent (f : Failure) : Content :=
  .dict [(.name "success", .value (.bool false)), (.name "error", .text f.message)]

/-- What is no refusal is a fault of the service. -/
def caught (f : Failure) : Option (Nat × Content) :=
  match f with
  | .noTable _ => some (404, failureContent f)
  | _ => if f.isRefusal then some (400, failureContent f) else none

/-- Executes a command. -/
def query (text : String) (p : State) : State × Except Failure Content :=
  let reply := p.1.execute p.2 text
  ((reply.session, reply.files), reply.outcome.map answerContent)

def app : App State where
  endpoints :=
    [⟨"GET", "/", .plain fun p => (p, .ok rootContent)⟩,
      ⟨"POST", "/query", .ofBody "query" query⟩,
      ⟨"GET", "/tables", .plain fun p => (p, .ok (tablesContent p.1.database))⟩,
      ⟨"GET", "/tables/", .ofPath fun name p => (p, (p.1.database.table name).map tableContent)⟩]
  caught := caught

end Tabula.Service
