import Tabula.Database

/-!
Executing statements.

Every execution ends with a database, whether or not there is an answer: a refused insertion has
still used up an identifier, and an update that fails keeps the rows it has changed.
-/

namespace Tabula

/-- The database after a statement, the notices on the way, and the answer. -/
structure Execution where
  database : Database
  notices : List Notice
  outcome : Except Failure Answer

namespace Database

/-- An execution that changes nothing. -/
def unchanged (db : Database) (outcome : Except Failure Answer) : Execution := ⟨db, [], outcome⟩

/-- A table takes the place of another of its name, whose indexes stay. -/
def createTable (db : Database) (name : String) (defs : List ColumnDeclaration) : Execution :=
  ⟨db.putTable name (.ofColumns defs),
    if (db.table? name).isSome then [.replacingTable name] else [],
    .ok (.done (.created name))⟩

/-- Adds a record to the indexes of a table, one after the other, up to the first that has no use
for it. -/
def addToIndexes (name : String) (r : Record) :
    List (String × Index) → List (String × Index) × Except ShapeFault Unit
  | [] => ([], .ok ())
  | (key, i) :: rest =>
    if i.table.text? = some name then
      match i.add r with
      | .error fault => ((key, i) :: rest, .error fault)
      | .ok i =>
        let (rest, done) := addToIndexes name r rest
        ((key, i) :: rest, done)
    else
      let (rest, done) := addToIndexes name r rest
      ((key, i) :: rest, done)

/-- A new record goes into every index of its table. -/
def insert (db : Database) (name : String) (columns : List String) (values : List Value) :
    Execution :=
  match db.table name with
  | .error failure => db.unchanged (.error failure)
  | .ok t =>
    let insertion := t.insert db.freshId columns values
    let db := db.putTable name insertion.table
    match insertion.outcome with
    | .error failure => ⟨db, insertion.notices, .error failure⟩
    | .ok r =>
      let (indexes, done) := addToIndexes name r db.indexes
      ⟨{ db with indexes, freshId := db.freshId + 1 }, insertion.notices,
        match done with
        | .ok _ => .ok (.done .inserted)
        | .error fault => .error (.shape fault)⟩

/-- Keeps the columns that are asked for. -/
def project (columns : Option (List ColumnName)) (rows : List Row) : List Row :=
  match columns with
  | none => rows
  | some refs => rows.map fun row => Row.project row (refs.map (·.text))

def select (db : Database) (name : String) (columns : Option (List ColumnName))
    (c : Option Condition) : Except Failure Answer := do
  let t ← db.table name
  let rows ← (t.select c).mapError .number
  return .rows (project columns rows)

/-- The cells of a row under their qualified names. -/
def qualified (table : String) (row : Row) : Row :=
  row.map fun c => (.name (table ++ "." ++ c.1.plain), c.2)

/-- The joined rows, a left row with each right row whose operand is loosely equal to its own. -/
def joinRows (left right : String) (leftColumn rightColumn : String) (rights : List Row) :
    List Row → Except NumberFault (List Row)
  | [] => .ok []
  | l :: ls => do
    let found ← pairUp l rights
    return found ++ (← joinRows left right leftColumn rightColumn rights ls)
where
  pairUp (l : Row) : List Row → Except NumberFault (List Row)
    | [] => .ok []
    | r :: rs => do
      let matched ← (Row.cell l leftColumn).looselyEqual (Row.cell r rightColumn)
      let rest ← pairUp l rs
      return if matched then Keyed.ofList (qualified left l ++ qualified right r) :: rest else rest

/-- The operands of a join may stand in either order. A condition is not applied, which is
reported. -/
def selectJoined (db : Database) (name : String) (columns : Option (List ColumnName)) (j : Join)
    (c : Option Condition) : List Notice × Except Failure Answer :=
  match db.table name, db.table j.table with
  | .error failure, _ | _, .error failure => ([], .error failure)
  | .ok left, .ok right =>
    let (l, r) :=
      if j.left.table = some j.table ∧ j.right.table = some name then (j.right, j.left)
      else (j.left, j.right)
    if l.table = some name ∧ r.table = some j.table then
      let notices :=
        match c.map Condition.text with
        | some (.ok text) => [.conditionIgnored text]
        | _ => []
      let answer := do
        let rows ← (joinRows name j.table l.column r.column right.rows left.rows).mapError .number
        return .rows (project columns rows)
      (notices, answer)
    else ([], .error (.invalid .select (.foreignJoin name j.table)))

/-- Rows change in the indexes as they do in the table. -/
def update (db : Database) (name : String) (assignments : List (String × Value)) (c : Condition) :
    Execution :=
  match db.table name with
  | .error failure => db.unchanged (.error failure)
  | .ok t =>
    let (t, count) := t.update assignments c
    let indexes := db.indexes.map fun e => (e.1, e.2.refresh t.records)
    ⟨{ db.putTable name t with indexes }, [],
      match count with
      | .ok n => .ok (.done (.updated n))
      | .error fault => .error (.number fault)⟩

/-- Records stay in the indexes after they are gone from the table. -/
def delete (db : Database) (name : String) (c : Condition) : Execution :=
  match db.table name with
  | .error failure => db.unchanged (.error failure)
  | .ok t =>
    match t.delete c with
    | .error fault => db.unchanged (.error (.number fault))
    | .ok (t, n) => ⟨db.putTable name t, [], .ok (.done (.deleted n))⟩

def createIndex (db : Database) (index name column : String) : Execution :=
  match db.table name with
  | .error failure => db.unchanged (.error failure)
  | .ok t =>
    ⟨db.putIndex (Index.keyOf name column) (.build index name column t.records), [],
      .ok (.done (.indexed index name column))⟩

def execute (db : Database) : Statement → Execution
  | .createTable name defs => db.createTable name defs
  | .insert name columns values => db.insert name columns values
  | .select name columns none c => db.unchanged (db.select name columns c)
  | .select name columns (some j) c =>
    let (notices, outcome) := db.selectJoined name columns j c
    ⟨db, notices, outcome⟩
  | .update name assignments c => db.update name assignments c
  | .delete name c => db.delete name c
  | .createIndex index name column => db.createIndex index name column
  | .showTables =>
    db.unchanged (.ok (.rows (db.names.map fun name => [(.name "table_name", .text name)])))
  | .describe name => db.unchanged do return .description (← db.table name).describe

end Database

end Tabula
