import Tabula.Database
import Tabula.Failure
import Tabula.Json.Plain

/-!
Answers as they are shown on a console.

Rows are shown as a table: a line of headings, a line of dashes, and a line for each row. Every
column is as wide as its heading and its cells need.
-/

namespace Tabula.Console

/-- A line of text. -/
def line (s : String) : String := s ++ "\n"

/-- The text of a cell. -/
def cellText : Value → Except NumberFault String
  | .null => .ok "NULL"
  | v => v.shown

/-- The text of a cell that holds a document. -/
def documentText (j : Json) : String := if j = .null then "NULL" else j.plain

/-- The labels of all rows, in the order in which they first come. -/
def labels (rows : List Row) : List Label :=
  rows.foldl (fun known row => known ++ (Keyed.keys row).filter fun l => !known.any (Key.same l)) []

/-- The texts of a row, one for each label. -/
def cellTexts (labels : List Label) (row : Row) : Except NumberFault (List String) :=
  labels.mapM fun l => cellText (Row.at row l)

def width (headings : List String) (texts : List (List String)) (j : Nat) : Nat :=
  (headings :: texts).foldl (fun w row => max w (row.getD j "").length) 0

def pad (width : Nat) (s : String) : String :=
  s ++ String.ofList (List.replicate (width - s.length) ' ')

/-- One line of a table. -/
def tableLine (widths : List Nat) (texts : List String) : String :=
  " | ".intercalate (List.zipWith pad widths texts)

/-- The lines of a table, from its headings down. -/
def tableLines (headings : List String) (texts : List (List String)) : List String :=
  let widths := (List.range headings.length).map (width headings texts)
  let header := tableLine widths headings
  header :: String.ofList (List.replicate header.length '-') :: texts.map (tableLine widths)

/-- A table, and the number of its rows. -/
def tableText (headings : List String) (texts : List (List String)) : String :=
  String.join ((tableLines headings texts).map line) ++
    line ("\n" ++ toString texts.length ++ " row(s) returned")

def noRows : String := line "No rows returned"

def rowsText (rows : List Row) : Except Failure String :=
  if rows.isEmpty then .ok noRows
  else do
    let headings ← ((labels rows).mapM Label.heading).mapError .shape
    let texts ← (rows.mapM (cellTexts (labels rows))).mapError .number
    return tableText headings texts

def descriptionText (columns : List ColumnInfo) : String :=
  if columns.isEmpty then noRows
  else
    tableText ["column", "type", "key"]
      (columns.map fun c => [documentText c.name, documentText c.declared, c.mark])

def answerText : Answer → Except Failure String
  | .rows rows => rowsText rows
  | .description columns => .ok (descriptionText columns)
  | .done effect => .ok (line effect.message)

/-- What is shown for a failure. -/
def failureText (f : Failure) : String :=
  line ((if f.isRefusal then "Error: " else "Unexpected error: ") ++ f.message)

def columnText (c : ColumnInfo) : String :=
  line ("    " ++ c.name.plain ++ " " ++ c.declared.plain ++
    if c.mark = "" then "" else " (" ++ c.mark ++ ")")

/-- A table in a list of tables. -/
def entryText (name : String) (t : Table) : String :=
  line ("  " ++ name ++ " (" ++ toString t.records.length ++ " rows)") ++
    String.join (t.describe.map columnText)

/-- A list of the tables with their columns. -/
def tablesText (db : Database) : String :=
  if db.tables.isEmpty then line "No tables in database."
  else line "Tables:" ++ String.join (db.tables.map fun e => entryText e.1 e.2)

end Tabula.Console
