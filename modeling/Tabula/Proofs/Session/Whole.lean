import Tabula.Proofs.Database.Whole
import Tabula.Proofs.Session.Restart
import Tabula.Proofs.Statement.RoundTrip

/-!
Commands that insert whole numbers into a column of whole numbers.
-/

namespace Tabula

namespace Session

/-- **A column of whole numbers stores them exactly**, in a table without constraints: as numbers
those that do not overflow, and as text all that can be written. -/
theorem insert_whole {s : Session} {name column : String} {t : Table} {n : Int}
    (hi : ∀ e ∈ s.database.indexes, e.2.column.IsText) (ht : s.database.table? name = some t)
    (hc : t.constraints.Absent) (hd : t.Declares column .integer) (hn : Writable n) :
    s.database.TakesWhole name t column n ∧
      Numeral.read? (decimalInt n) = .ok (some (.int n)) ∧
      ∀ files text statement, Statement.parse text = .ok statement →
        (s.execute files text).session.database = (s.database.execute statement).database ∧
          ((s.execute files text).outcome = (s.database.execute statement).outcome ∨
            ∃ failure, (s.after statement).save files = .error failure) :=
  ⟨Database.takesWhole hi ht hc hd n, Numeral.read?_decimalInt hn,
    fun _ _ _ hp => ⟨database_execute hp, outcome_execute_cases hp⟩⟩

/-- A table with nothing but a column of whole numbers. -/
def wholeTable : Table := .ofColumns [⟨"c", "INTEGER", false, false⟩]

lemma absent_wholeTable : wholeTable.constraints.Absent := ⟨rfl, rfl⟩

lemma declares_wholeTable : wholeTable.Declares "c" .integer :=
  ⟨⟨.text "c", .text "INTEGER"⟩, rfl, by decide⟩

theorem insert_whole_minusSeven :
    Database.Stores ⟨[("t", wholeTable)], [], 0⟩ "t" wholeTable "c" (.int (-7))
        (Database.execute ⟨[("t", wholeTable)], [], 0⟩ (.insert "t" ["c"] [.int (-7)])) ∧
      Database.Stores ⟨[("t", wholeTable)], [], 0⟩ "t" wholeTable "c" (.int (-7))
        (Database.execute ⟨[("t", wholeTable)], [], 0⟩
          (.insert "t" ["c"] [.text (String.ofList (decimalInt (-7)))])) := by
  have hwritable : Writable (-7) := by decide +kernel
  have hlow : Int.natAbs (-7) < Binary64.overflow := by decide +kernel
  obtain ⟨htakes, hread, -⟩ := @insert_whole ⟨none, ⟨[("t", wholeTable)], [], 0⟩⟩ "t" "c"
    wholeTable (-7) (by simp) rfl absent_wholeTable declares_wholeTable hwritable
  constructor
  · exact htakes.number ["c"] [.int (-7)] (Table.gives_singleton wholeTable "c" _) hlow
  · refine htakes.text ["c"] [.text _] _ (Table.gives_singleton wholeTable "c" _) ?_
    rw [String.toList_ofList, hread]

end Session

namespace History

open Session (wholeTable absent_wholeTable declares_wholeTable)

lemma parse_wholeColumn : Statement.parse "CREATE TABLE t (c INTEGER)" =
    .ok (.createTable "t" [⟨"c", "INTEGER", false, false⟩]) := by
  decide +kernel

lemma exists_insertion {v : Value} (hv : v.IsLiteral) :
    ∃ text, Statement.parse text = .ok (.insert "t" ["c"] [v]) := by
  have hword {c : Char} (hc : Text.isWordStart c = true) : IsWord (String.ofList [c]) :=
    ⟨c, [], String.toList_ofList, hc, by simp⟩
  have hwell : (Statement.insert "t" ["c"] [v]).WellFormed :=
    ⟨hword rfl, by simp, rfl, List.forall_mem_singleton.2 (hword rfl),
      List.forall_mem_singleton.2 hv⟩
  obtain ⟨text, hprint⟩ := Statement.exists_printedAs hwell
  exact ⟨text, Statement.parse_of_printedAs hwell hprint⟩

/-- **A number may be refused that is stored where the same digits come as text.** -/
theorem insert_whole_refused :
    ∃ st number quoted, run none [] [.command "CREATE TABLE t (c INTEGER)"] = .ok st ∧
      st.database.table? "t" = some wholeTable ∧ wholeTable.constraints.Absent ∧
      wholeTable.Declares "c" .integer ∧ Writable (10 ^ 309) ∧
      Statement.parse number = .ok (.insert "t" ["c"] [.int (10 ^ 309)]) ∧
      (st.reply number).outcome = .error (.number .tooLargeForReal) ∧
      Statement.parse quoted =
        .ok (.insert "t" ["c"] [.text (String.ofList (decimalInt (10 ^ 309)))]) ∧
      (st.reply quoted).outcome = .ok (.done .inserted) ∧
      ∃ row, Row.cell row "c" = .int (10 ^ 309) ∧
        (st.execute quoted).database.table? "t" =
          some { wholeTable with records := [⟨0, row⟩] } := by
  have hwritable : Writable (10 ^ 309) := by decide +kernel
  have hhigh : Binary64.overflow ≤ Int.natAbs (10 ^ 309) := by decide +kernel
  generalize (10 : Int) ^ 309 = n at *
  obtain ⟨number, hnumber⟩ := exists_insertion (show (Value.int n).IsLiteral from hwritable)
  obtain ⟨quoted, hquoted⟩ :=
    exists_insertion (show (Value.text (String.ofList (decimalInt n))).IsLiteral from trivial)
  obtain ⟨st, hrun, hsession⟩ := run_inMemory run_inMemory_nil parse_wholeColumn
  have hdatabase : (Database.empty.execute (.createTable "t"
      [⟨"c", "INTEGER", false, false⟩])).database = ⟨[("t", wholeTable)], [], 0⟩ := rfl
  rw [hdatabase] at hsession
  have htakes : Database.TakesWhole ⟨[("t", wholeTable)], [], 0⟩ "t" wholeTable "c" n :=
    Database.takesWhole (by simp) rfl absent_wholeTable declares_wholeTable n
  have hrefused := htakes.overflow ["c"] [.int n] (Table.gives_singleton wholeTable "c" _) hhigh
  have hstored := htakes.text ["c"] [.text _] _ (Table.gives_singleton wholeTable "c" _)
    (by rw [String.toList_ofList, Numeral.read?_decimalInt hwritable])
  obtain ⟨row, hcell, htable⟩ := hstored.table
  refine ⟨st, number, quoted, hrun, ?_, absent_wholeTable, declares_wholeTable, hwritable,
    hnumber, ?_, hquoted, ?_, row, hcell, ?_⟩
  · rw [Stage.database, hsession]
    rfl
  · rw [Stage.reply, hsession, Session.execute_saved hnumber rfl rfl, hrefused.1]
  · rw [Stage.reply, hsession, Session.execute_saved hquoted rfl rfl, hstored.outcome]
  · rw [Stage.database_execute hquoted, Stage.database, hsession, htable]
    rfl

end History

end Tabula
