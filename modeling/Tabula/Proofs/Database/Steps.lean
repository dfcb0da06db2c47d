import Tabula.Proofs.Index
import Tabula.Proofs.Keyed
import Tabula.Proofs.Table.Steps

/-!
What a statement can do to a database, once for all: `Step` has one case for every way in which an
execution ends. Whatever holds of a database after every statement is proved by going through them.
-/

namespace Tabula.Database

/-- A statement may take a database to another. -/
inductive Step (db : Database) : Statement → Database → Prop
  | same (s : Statement) : Step db s db
  | create (name : String) (defs : List ColumnDeclaration) :
    Step db (.createTable name defs) (db.putTable name (.ofColumns defs))
  /-- the row is refused; the counter may have moved -/
  | refuse {name : String} {t : Table} (columns : List String) (values : List Value)
    (ht : db.table? name = some t) :
    Step db (.insert name columns values) (db.putTable name (t.spend columns))
  | append {name : String} {t : Table} {key : Option Label} {columns : List String}
    {values : List Value} {row : Row} (ht : db.table? name = some t)
    (hkey : t.constraints.key = .ok key)
    (hrow : (t.fill (t.startRow key columns).1 (columns.zip values)).2 = .ok row)
    (hfault : t.fault? key row = none) :
    Step db (.insert name columns values)
      { db.putTable name { t.spend columns with records := t.records ++ [⟨db.freshId, row⟩] } with
        indexes := Keyed.mapValues (Index.note name ⟨db.freshId, row⟩) db.indexes
        freshId := db.freshId + 1 }
  | update {name : String} {t : Table} (assignments : List (String × Value)) (c : Condition)
    (ht : db.table? name = some t) :
    Step db (.update name assignments c)
      { db.putTable name (t.update assignments c).1 with
        indexes := Keyed.mapValues (·.refresh (t.update assignments c).1.records) db.indexes }
  | delete {name : String} {t : Table} (c : Condition) {gone kept : List Record}
    (ht : db.table? name = some t)
    (hc : c.partition (·.row) t.records = .ok (gone, kept)) :
    Step db (.delete name c) (db.putTable name { t with records := kept })
  | index {name : String} {t : Table} (index column : String) (ht : db.table? name = some t) :
    Step db (.createIndex index name column)
      (db.putIndex (Index.keyOf name column) (.build index name column t.records))

variable {db : Database} {name : String} {t : Table}

lemma table_eq_ok : db.table name = .ok t ↔ db.table? name = some t := by
  unfold Database.table
  cases db.table? name with
  | none => simp
  | some u => simp

lemma table_eq_error (h : db.table? name = none) : db.table name = .error (.noTable name) := by
  rw [Database.table, h]

lemma table?_putTable (db : Database) (name n : String) (t : Table) :
    (db.putTable name t).table? n = if name = n then some t else db.table? n := by
  rw [table?, putTable, Keyed.find?_put, Key.same_string]
  by_cases h : name = n <;> simp [h, table?]

lemma putTable_of_table? (ht : db.table? name = some t) : db.putTable name t = db := by
  rw [putTable, Keyed.put_of_find? ht]

section Insertion

variable {columns : List String} {values : List Value}

/-- An insertion that the table refuses. -/
lemma insert_refused (ht : db.table? name = some t) {failure : Failure}
    (h : (t.insert db.freshId columns values).outcome = .error failure) :
    db.insert name columns values =
      ⟨db.putTable name (t.insert db.freshId columns values).table,
        (t.insert db.freshId columns values).notices, .error failure⟩ := by
  unfold insert
  rw [table_eq_ok.2 ht]
  dsimp only
  rw [h]

/-- An insertion that the table accepts, where the columns of all indexes are names. -/
lemma insert_accepted (ht : db.table? name = some t) {r : Record}
    (hi : ∀ e ∈ db.indexes, e.2.column.IsText)
    (h : (t.insert db.freshId columns values).outcome = .ok r) :
    db.insert name columns values =
      ⟨{ db.putTable name (t.insert db.freshId columns values).table with
          indexes := Keyed.mapValues (Index.note name r) db.indexes
          freshId := db.freshId + 1 },
        (t.insert db.freshId columns values).notices, .ok (.done .inserted)⟩ := by
  have hadd : addToIndexes name r db.indexes =
      (Keyed.mapValues (Index.note name r) db.indexes, .ok ()) := addToIndexes_eq hi
  unfold insert
  rw [table_eq_ok.2 ht]
  dsimp only
  rw [h]
  simp only [putTable, hadd]

end Insertion

/-- **Every execution is a step.** -/
theorem step_execute (hi : ∀ e ∈ db.indexes, e.2.column.IsText) (s : Statement) :
    Step db s (db.execute s).database := by
  cases s with
  | createTable name defs => exact .create name defs
  | insert name columns values =>
    cases ht : db.table? name with
    | none =>
      rw [execute, insert, table_eq_error ht]
      exact .same _
    | some t =>
      rcases t.insert_cases db.freshId columns values with
        ⟨failure, hout, htable⟩ | ⟨key, row, hkey, hrow, hfault, hout, htable⟩
      · rw [execute, insert_refused ht hout, htable]
        exact .refuse columns values ht
      · rw [execute, insert_accepted ht hi hout, htable]
        exact .append ht hkey hrow hfault
  | select name columns join c =>
    cases join with
    | none => exact .same _
    | some j => exact .same _
  | update name assignments c =>
    cases ht : db.table? name with
    | none =>
      rw [execute, update, table_eq_error ht]
      exact .same _
    | some t =>
      rw [execute, update, table_eq_ok.2 ht]
      exact .update assignments c ht
  | delete name c =>
    cases ht : db.table? name with
    | none =>
      rw [execute, delete, table_eq_error ht]
      exact .same _
    | some t =>
      rw [execute, delete, table_eq_ok.2 ht]
      dsimp only
      cases hd : t.delete c with
      | error fault => exact .same _
      | ok found =>
        obtain ⟨⟨gone, kept⟩, hc, hfound⟩ := bind_eq_ok.1 hd
        cases hfound
        exact .delete c ht hc
  | createIndex index name column =>
    cases ht : db.table? name with
    | none =>
      rw [execute, createIndex, table_eq_error ht]
      exact .same _
    | some t =>
      rw [execute, createIndex, table_eq_ok.2 ht]
      exact .index index column ht
  | showTables => exact .same _
  | describe name => exact .same _

end Tabula.Database
