import Tabula.Proofs.Database.Kept

/-!
What a statement that fails leaves behind.

Only an update can fail with some of its work done. Any other statement that fails leaves the
database as it was, except that an insertion into a table whose key it does not list has taken an
identifier from the counter.
-/

namespace Tabula

namespace Table

/-- Whether a table has a primary key that is not listed. -/
def leavesKeyOut (t : Table) (columns : List String) : Bool :=
  match t.constraints.key with
  | .ok (some (.name key)) => !columns.contains key
  | _ => false

lemma spend_of_leavesKeyOut {t : Table} (h : t.Storable) (columns : List String) :
    t.spend columns =
      if t.leavesKeyOut columns then { t with counter := t.counter + 1 } else t := by
  rcases h.key with hk | ⟨key, hk⟩
  · rw [spend_eq hk, leavesKeyOut, hk]
    rfl
  · have hleaves : t.leavesKeyOut columns = !columns.contains key := by
      rw [leavesKeyOut, hk]
      rfl
    rw [spend_eq hk, hleaves, startRow_of_name]
    cases columns.contains key <;> rfl

end Table

namespace Database

/-- The database after a statement that has failed, an update aside. -/
def afterFailure (db : Database) : Statement → Database
  | .insert name columns _ =>
    match db.table? name with
    | some t =>
      if t.leavesKeyOut columns then db.putTable name { t with counter := t.counter + 1 } else db
    | none => db
  | _ => db

variable {db : Database} {name : String}

lemma insert_failed (h : db.Storable) {columns : List String} {values : List Value}
    {failure : Failure} (he : (db.insert name columns values).outcome = .error failure) :
    (db.insert name columns values).database = db.afterFailure (.insert name columns values) := by
  cases ht : db.table? name with
  | none => simp only [insert, table_eq_error ht, afterFailure, ht, unchanged]
  | some t =>
    rcases t.insert_cases db.freshId columns values with
      ⟨refusal, hout, htable⟩ | ⟨key, row, -, -, -, hout, -⟩
    · obtain ⟨k, -, hm⟩ := Keyed.mem_of_find? ht
      have hspend := Table.spend_of_leavesKeyOut (h.tables (k, t) hm) columns
      rw [insert_refused ht hout, afterFailure, ht, htable, hspend]
      dsimp only
      split
      · rfl
      · exact putTable_of_table? ht
    · rw [insert_accepted ht (fun e he => (h.indexes e he).column) hout] at he
      cases he

/-- **A statement that fails changes nothing but a counter**, unless it is an update. -/
theorem execute_failed (h : db.Storable) {s : Statement} (hs : s.kind ≠ .update)
    {failure : Failure} (he : (db.execute s).outcome = .error failure) :
    (db.execute s).database = db.afterFailure s := by
  cases s with
  | createTable name defs => cases he
  | insert name columns values => exact insert_failed h he
  | update name assignments c => exact absurd rfl hs
  | delete name c =>
    rw [execute, delete] at he ⊢
    cases ht : db.table name with
    | error refusal => rfl
    | ok t =>
      rw [ht] at he
      cases hd : t.delete c with
      | error fault => simp only [hd]; rfl
      | ok found =>
        simp only [hd] at he
        cases he
  | createIndex index name column =>
    rw [execute, createIndex] at he ⊢
    cases ht : db.table name with
    | error refusal => rfl
    | ok t =>
      rw [ht] at he
      cases he
  | select name columns join c => cases join <;> rfl
  | showTables => rfl
  | describe name => rfl

end Database

end Tabula
