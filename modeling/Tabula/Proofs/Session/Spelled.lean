import Tabula.Proofs.Database.Spelled
import Tabula.Proofs.Session.Given
import Tabula.Proofs.Session.Restart

/-!
Numbers that are stored as text, over whole runs.
-/

namespace Tabula

namespace History

variable {file : Option SnapshotFile} {files : Files} {h : History} {st : Stage}
  {name column : String} {t : Table} {columns : List String} {values : List Value} {x : Number}

/-- **A number that is stored as text is found again.** In a table without constraints, a column
that is not one of numbers stores a finite number as a text that spells it, and a query for the
number answers with the new row behind the others, unless it fails on one of them. -/
theorem number_found (ha : ∀ f ∈ file, f.Absent files) (hrun : h.run file files = .ok st)
    (ht : st.database.table? name = some t) (hc : t.constraints.Absent)
    (hint : ¬ t.Declares column .integer) (hreal : ¬ t.Declares column .real) (hx : x.IsFinite)
    (hg : t.Gives columns values column (.ofNumber x)) {insertion : String}
    (hp : Statement.parse insertion = .ok (.insert name columns values)) :
    ∃ row, st.database.StoresSpelled name t column x row (st.execute insertion).database ∧
      ((st.reply insertion).outcome = .ok (.done .inserted) ∨
        ∃ failure, (st.session.after (.insert name columns values)).save st.files =
          .error failure) ∧
      ∀ query, Statement.parse query =
          .ok (.select name none none (some (.keyIs column (.ofNumber x)))) →
        ((st.execute insertion).reply query).outcome =
          ((st.execute insertion).database.execute
            (.select name none none (some (.keyIs column (.ofNumber x))))).outcome := by
  have hformed := formed_run ha hrun
  have hi : ∀ e ∈ st.database.indexes, e.2.column.IsText :=
    fun e he => (hformed.indexes e he).column
  obtain ⟨houtcome, row, hstores⟩ :=
    Database.storesSpelled hi ht (hformed.table ht) hc hint hreal hx hg
  refine ⟨row, Stage.database_execute hp ▸ hstores, ?_, fun query hq => ?_⟩
  · rw [← houtcome]
    exact Session.outcome_execute_cases hp
  · exact Stage.outcome_query hq rfl

/-- A table with nothing but a column of a type that is neither of numbers nor of text. -/
def spelledTable : Table := .ofColumns [⟨"c", "VARCHAR(9)", false, false⟩]

lemma not_declares_spelledTable {type : ColumnType} (h : type ≠ .text) :
    ¬ spelledTable.Declares "c" type := by
  rintro ⟨c, hc, htype⟩
  obtain rfl : ⟨.text "c", .text "VARCHAR(9)"⟩ = c := Option.some.inj hc
  exact h (Except.ok.inj (htype.symm.trans (by decide)))

/-- A small negative number is found by its literal. -/
theorem number_found_small :
    ∃ st row, run none [] [.command "CREATE TABLE t (c VARCHAR(9))"] = .ok st ∧
      st.database.table? "t" = some spelledTable ∧
      Statement.parse "INSERT INTO t (c) VALUES (-2.5e-7)" =
        .ok (.insert "t" ["c"] [.real (.ofDecimal true 25 (-8))]) ∧
      (Number.real (.ofDecimal true 25 (-8))).IsFinite ∧
      st.database.StoresSpelled "t" spelledTable "c" (.real (.ofDecimal true 25 (-8))) row
        (st.execute "INSERT INTO t (c) VALUES (-2.5e-7)").database ∧
      ((st.execute "INSERT INTO t (c) VALUES (-2.5e-7)").reply
        "SELECT * FROM t WHERE c = -25E-8").outcome = .ok (.rows [row]) := by
  have hcreate : Statement.parse "CREATE TABLE t (c VARCHAR(9))" =
      .ok (.createTable "t" [⟨"c", "VARCHAR(9)", false, false⟩]) := by decide +kernel
  have hinsert : Statement.parse "INSERT INTO t (c) VALUES (-2.5e-7)" =
      .ok (.insert "t" ["c"] [.real (.ofDecimal true 25 (-8))]) := by decide +kernel
  have hquery : Statement.parse "SELECT * FROM t WHERE c = -25E-8" =
      .ok (.select "t" none none
        (some (.keyIs "c" (.ofNumber (.real (.ofDecimal true 25 (-8))))))) := by decide +kernel
  have hfinite : (Number.real (.ofDecimal true 25 (-8))).IsFinite := by
    rw [Number.IsFinite]
    decide +kernel
  obtain ⟨st, hrun, hsession⟩ := run_inMemory run_inMemory_nil hcreate
  have ht : st.database.table? "t" = some spelledTable := by
    rw [Stage.database, hsession]
    rfl
  obtain ⟨row, hstores, -, hreply⟩ := number_found (by simp) hrun ht ⟨rfl, rfl⟩
    (not_declares_spelledTable (by decide)) (not_declares_spelledTable (by decide)) hfinite
    (Table.gives_singleton spelledTable "c" _) hinsert
  refine ⟨st, row, hrun, ht, hinsert, hfinite, hstores, ?_⟩
  have hdecides : ∀ c : Condition, c.Decides spelledTable.rows := fun _ => List.forall_mem_nil _
  rw [hreply _ hquery, hstores.found (hdecides _)]
  rfl

end History

end Tabula
