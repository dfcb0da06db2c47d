import Tabula.Proofs.Database.Found
import Tabula.Proofs.Session.Given
import Tabula.Proofs.Session.Matching

/-!
Rows that are found by their key, over whole runs.
-/

namespace Tabula

namespace History

variable {file : Option SnapshotFile} {files : Files} {h : History} {st : Stage}
  {name key : String} {t : Table}

/-- **Keys find one row at most.** Where the primary key of a table is a column of whole numbers,
and no update has assigned to it since the table was created, every value finds at most one row by
its key, or fails to find any, and the key of a row finds just that row. A command does what its
statement does; a query is answered, and any other unless a snapshot cannot be written. -/
theorem found_by_key (ha : ∀ f ∈ file, f.Absent files) (hrun : h.run file files = .ok st)
    (ht : st.database.table? name = some t) (hk : t.constraints.key = .ok (some (.name key)))
    (hint : t.Declares key .integer) :
    (∃ l, h.trace file files = .ok (st, l) ∧
      ((∀ s ∈ l.current.since name, ¬ s.Assigns name key) →
        st.database.FindsByKey name t key)) ∧
    (h.commands.length < 10 ^ digitLimit →
      (∀ s ∈ h.sinceCreated name, ¬ s.Assigns name key) → st.database.FindsByKey name t key) ∧
    ∀ text s, Statement.parse text = .ok s →
      (st.execute text).database = (st.database.execute s).database ∧
      (s.kind.isQuery = true → (st.reply text).outcome = (st.database.execute s).outcome) ∧
      ((st.reply text).outcome = (st.database.execute s).outcome ∨
        ∃ failure, (st.session.after s).save st.files = .error failure) ∧
      ∀ name assignments c, s = .update name assignments c →
        Keyed.Distinct (Keyed.keys assignments) := by
  have hcoherent := coherent_run ha hrun
  have hformed := formed_run ha hrun
  obtain ⟨l, hl⟩ := trace_of_run hrun
  refine ⟨⟨l, hl, (tracked_trace ha hl).follows.findsByKey hcoherent hformed ht hk hint⟩,
    fun hn => (follows_run ha hn hrun).findsByKey hcoherent hformed ht hk hint,
    fun _ _ hp => Stage.does_statement hp⟩

/-- Two rows whose keys have been drawn. -/
def wholeKeys : History := wholeKey ++ [.command "INSERT INTO t (b) VALUES (NULL)"]

def wholeRows : Table := { wholeRow with
  records := wholeRow.records ++ [⟨1, [(.name "a", .int 2), (.name "b", .null)]⟩]
  counter := 3 }

lemma run_wholeKeys :
    ∃ st, run none [] wholeKeys = .ok st ∧ st.session = ⟨none, ⟨[("t", wholeRows)], [], 2⟩⟩ := by
  have hinserted : (Database.execute ⟨[("t", wholeRow)], [], 1⟩
      (.insert "t" ["b"] [.null])).database = ⟨[("t", wholeRows)], [], 2⟩ := by
    rfl
  rw [← hinserted]
  exact run_inMemory run_wholeKey parse_wholeKey.2

lemma statements_wholeKeys :
    wholeKeys.statements = wholeKey.statements ++ [.insert "t" ["b"] [.null]] :=
  statements_parsed parse_wholeKey.2

/-- Of two rows, the key 2 finds one, also as text with blanks around it, and this row is taken
away. The key 3 finds none. -/
theorem found_by_key_wholeKeys :
    ∃ st, run none [] wholeKeys = .ok st ∧ st.database.table? "t" = some wholeRows ∧
      st.database.FindsByKey "t" wholeRows "a" ∧
      Statement.parse "DELETE FROM t WHERE a = ' 2 '" =
        .ok (.delete "t" (.keyIs "a" (.text " 2 "))) ∧
      (Condition.keyIs "a" (.text " 2 ")).chosen wholeRows.rows =
        [[(.name "a", .int 2), (.name "b", .null)]] ∧
      (st.database.execute (.delete "t" (.keyIs "a" (.text " 2 ")))).outcome =
        .ok (.done (.deleted 1)) ∧
      (Condition.keyIs "a" (.int 3)).chosen wholeRows.rows = [] := by
  obtain ⟨st, hrun, hsession⟩ := run_wholeKeys
  have ht : st.database.table? "t" = some wholeRows := by
    rw [Stage.database, hsession]
    rfl
  have hshort : wholeKeys.commands.length < 10 ^ digitLimit :=
    lt_pow_digitLimit (by decide)
  have hassign : ∀ s ∈ sinceCreated wholeKeys "t", ¬ s.Assigns "t" "a" := by
    rw [sinceCreated, statements_wholeKeys, statements_wholeKey]
    rintro s hs ⟨assignments, c, rfl, -⟩
    simp [Statement.creates] at hs
  obtain ⟨-, hfinds, -⟩ :=
    found_by_key (by simp) hrun ht rfl ⟨⟨.text "a", .text "INTEGER"⟩, rfl, rfl⟩
  have hkeys := hfinds hshort hassign
  have hmem : [(.name "a", .int 2), (.name "b", .null)] ∈ wholeRows.rows := by decide
  have hholds : (Condition.keyIs "a" (.text " 2 ")).holds
      [(.name "a", .int 2), (.name "b", .null)] = .ok true := by decide +kernel
  obtain ⟨hdecides, hchosen⟩ := hkeys.exact (.text " 2 ") _ hmem hholds
  have houtcome := ((hkeys.one (.text " 2 ")).delete hdecides).outcome
  rw [hchosen] at houtcome
  have hparse : Statement.parse "DELETE FROM t WHERE a = ' 2 '" =
      .ok (.delete "t" (.keyIs "a" (.text " 2 "))) := by decide +kernel
  have hnone : (Condition.keyIs "a" (.int 3)).chosen wholeRows.rows = [] := by decide +kernel
  exact ⟨st, hrun, ht, hkeys, hparse, hchosen, houtcome, hnone⟩

end History

end Tabula
