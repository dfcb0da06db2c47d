import Tabula.Proofs.Database.Qualified
import Tabula.Proofs.Session.Given
import Tabula.Proofs.Session.Made
import Tabula.Proofs.Session.Matching

/-!
References that are qualified, in statements without a join, over whole runs.
-/

namespace Tabula

namespace History

variable {file : Option SnapshotFile} {files : Files} {h : History} {st : Stage}
  {name : String} {t : Table}

/-- **A qualified reference reads as NULL** in a statement without a join, whatever its table and
its column are: rows are kept under the names of the columns alone. A command does what its
statement does; a query is answered, and any other unless a snapshot cannot be written. -/
theorem qualified_null (ha : ∀ f ∈ file, f.Absent files) (hrun : h.run file files = .ok st)
    (ht : st.database.table? name = some t) (r : ColumnName)
    (hr : r.table.isSome = true) :
    st.database.ReadsNull name t r ∧
    ∀ text s, Statement.parse text = .ok s →
      (st.execute text).database = (st.database.execute s).database ∧
      (s.kind.isQuery = true → (st.reply text).outcome = (st.database.execute s).outcome) ∧
      ((st.reply text).outcome = (st.database.execute s).outcome ∨
        ∃ failure, (st.session.after s).save st.files = .error failure) ∧
      ∀ name assignments c, s = .update name assignments c →
        Keyed.Distinct (Keyed.keys assignments) := by
  have hmade := made_run ha hrun name (Database.mem_names.2 ⟨t, ht⟩)
  exact ⟨hmade.readsNull ht ((formed_run ha hrun).table ht) hr,
    fun _ _ hp => Stage.does_statement hp⟩

/-- A deletion of all rows but the one with the key 1 takes that row away as well. -/
theorem qualified_null_deleted :
    ∃ st, run none [] wholeKey = .ok st ∧ st.database.table? "t" = some wholeRow ∧
      st.database.ReadsNull "t" wholeRow ⟨some "t", "a"⟩ ∧
      Statement.parse "DELETE FROM t WHERE t.a != 1" =
        .ok (.delete "t" ⟨⟨some "t", "a"⟩, .notEqual, .int 1⟩) ∧
      (st.database.execute (.delete "t" ⟨⟨some "t", "a"⟩, .notEqual, .int 1⟩)).outcome =
        .ok (.done (.deleted 1)) := by
  obtain ⟨st, hrun, hsession⟩ := run_wholeKey
  have ht : st.database.table? "t" = some wholeRow := by
    rw [Stage.database, hsession]
    rfl
  obtain ⟨hnull, -⟩ := qualified_null (by simp) hrun ht ⟨some "t", "a"⟩ rfl
  have houtcome := (hnull.delete .notEqual (.int 1)).outcome
  rw [hnull.chosen] at houtcome
  have hparse : Statement.parse "DELETE FROM t WHERE t.a != 1" =
      .ok (.delete "t" ⟨⟨some "t", "a"⟩, .notEqual, .int 1⟩) := by decide +kernel
  exact ⟨st, hrun, ht, hnull, hparse, houtcome⟩

/-- **A column is not what its qualified name stands for**: a row is found by its key, but not by
the qualified name of the key, under which it shows NULL. -/
theorem qualified_misses :
    ∃ st, run none [] wholeKey = .ok st ∧ st.database.table? "t" = some wholeRow ∧
      (st.reply "SELECT * FROM t WHERE a = 1").outcome =
        .ok (.rows [[(.name "a", .int 1), (.name "b", .null)]]) ∧
      (st.reply "SELECT * FROM t WHERE t.a = 1").outcome = .ok (.rows []) ∧
      (st.reply "SELECT a FROM t").outcome = .ok (.rows [[(.name "a", .int 1)]]) ∧
      (st.reply "SELECT t.a FROM t").outcome = .ok (.rows [[(.name "t.a", .null)]]) := by
  obtain ⟨st, hrun, hsession⟩ := run_wholeKey
  have ht : st.database.table? "t" = some wholeRow := by
    rw [Stage.database, hsession]
    rfl
  have hquery : ∀ {text columns c}, Statement.parse text = .ok (.select "t" columns none c) →
      (st.reply text).outcome =
        (Database.execute ⟨[("t", wholeRow)], [], 1⟩ (.select "t" columns none c)).outcome := by
    intro text columns c hp
    rw [Stage.outcome_query hp rfl, Stage.database, hsession]
  have hplain : Statement.parse "SELECT * FROM t WHERE a = 1" =
        .ok (.select "t" none none (some ⟨⟨none, "a"⟩, .equal, .int 1⟩)) ∧
      Statement.parse "SELECT a FROM t" = .ok (.select "t" (some [⟨none, "a"⟩]) none none) := by
    decide +kernel
  have hqualified : Statement.parse "SELECT * FROM t WHERE t.a = 1" =
        .ok (.select "t" none none (some ⟨⟨some "t", "a"⟩, .equal, .int 1⟩)) ∧
      Statement.parse "SELECT t.a FROM t" =
        .ok (.select "t" (some [⟨some "t", "a"⟩]) none none) := by
    decide +kernel
  refine ⟨st, hrun, ht, ?_, ?_, ?_, ?_⟩
  · rw [hquery hplain.1]
    decide +kernel
  · rw [hquery hqualified.1]
    decide +kernel
  · rw [hquery hplain.2]
    decide +kernel
  · rw [hquery hqualified.2]
    decide +kernel

end History

end Tabula
