import Tabula.Proofs.Console.Shown
import Tabula.Proofs.Session.Counter
import Tabula.Proofs.Session.Lineage

/-!
Tables on a console, over whole runs.

Whatever has led to a database, the rows that it answers a query with have names for their cells,
and no name twice. So they are shown as a table, unless a counter has come so far that a number that
was drawn from it is too long to be written.
-/

namespace Tabula

open Console (Tabulates failureText headings texts)

variable {file : Option SnapshotFile} {files : Files} {h : History} {st : Stage} {text : String}
  {s : Statement} {answer : Answer}

namespace History

/-- The cells of answers can be shown as long as counters can be written. -/
lemma showable_run (ha : ∀ f ∈ file, f.Absent files) (hn : h.commands.length < 10 ^ digitLimit)
    (hrun : h.run file files = .ok st) (hout : (st.database.execute s).outcome = .ok answer) :
    ∀ row ∈ answer.table, ∀ c ∈ row, c.2.Showable := by
  have hstorable := (sound_run ha hn hrun).within.storable
  have hformed := (Database.storable_iff.1 hstorable).1
  intro row hrow c hc
  have hanswer := (hformed.answer trivial (fun _ => trivial) hout).table fun _ => trivial
  exact ((hanswer row hrow).cells c hc).showable

/-- **Queries are answered with tables that are aligned and complete.** The headings are the names
of the cells of all rows, and each row has its cells under them, in full. Only where a number has
too many digits its length is complained about instead, and this takes as many commands as there are
numbers with fewer digits. -/
theorem tables_shown (ha : ∀ f ∈ file, f.Absent files) (hrun : h.run file files = .ok st)
    (hp : Statement.parse text = .ok s) (hq : s.kind.isQuery = true)
    (hout : (st.reply text).outcome = .ok answer) (hne : answer.table ≠ [])
    (phase : Console.Phase) :
    let shown := (Console.run ⟨st.session, st.files, phase⟩ text).shown
    ((∀ row ∈ answer.table, ∀ c ∈ row, c.2.Showable) →
      Tabulates (headings answer.table) (texts answer.table) shown) ∧
    (∀ row ∈ answer.table, ∀ c ∈ row, ¬ c.2.Showable →
      shown = failureText (.number .tooLongToWrite)) ∧
    (h.commands.length < 10 ^ digitLimit →
      ∀ row ∈ answer.table, ∀ c ∈ row, c.2.Showable) := by
  have hexecute := (Stage.outcome_query hp hq).symm.trans hout
  have hformed := ((formed_run ha hrun).answer trivial (fun _ => trivial) hexecute).table
    fun _ => trivial
  dsimp only
  rw [Console.run_shown hout]
  refine ⟨fun hs => ?_, fun row hrow c hc hlong => ?_,
    fun hn => showable_run ha hn hrun hexecute⟩
  · have hshowable : ∀ row ∈ answer.table, Row.Formed Value.Showable row := fun row hrow =>
      ⟨(hformed row hrow).named, (hformed row hrow).distinct, hs row hrow⟩
    obtain ⟨shown, hshown, htable⟩ := Console.answerText_table hshowable hne
    rwa [hshown]
  · rw [Console.answerText_error hformed hrow hc hlong]

/-- Rows with other names, a NULL among their cells. -/
def sparse : History :=
  [.command "CREATE TABLE t (a)", .command "INSERT INTO t (a) VALUES ('x')",
    .command "INSERT INTO t (b) VALUES (NULL)"]

def sparseRows : List Row := [[(.name "a", .text "x")], [(.name "b", .null)]]

theorem tables_shown_sparse :
    ∃ st, run none [] sparse = .ok st ∧ ∀ phase,
      Tabulates ["a", "b"] [["x", "NULL"], ["NULL", "NULL"]]
        (Console.run ⟨st.session, st.files, phase⟩ "SELECT * FROM t").shown := by
  have hcreate : Statement.parse "CREATE TABLE t (a)" =
      .ok (.createTable "t" [⟨"a", "", false, false⟩]) := by decide +kernel
  have hfirst : Statement.parse "INSERT INTO t (a) VALUES ('x')" =
      .ok (.insert "t" ["a"] [.text "x"]) := by decide +kernel
  have hsecond : Statement.parse "INSERT INTO t (b) VALUES (NULL)" =
      .ok (.insert "t" ["b"] [.null]) := by decide +kernel
  have hselect : Statement.parse "SELECT * FROM t" = .ok (.select "t" none none none) := by
    decide +kernel
  obtain ⟨st, hrun, hsession⟩ :=
    run_inMemory (run_inMemory (run_inMemory run_inMemory_nil hcreate) hfirst) hsecond
  have hout : (st.reply "SELECT * FROM t").outcome = .ok (.rows sparseRows) := by
    rw [Stage.outcome_query hselect rfl, Stage.database, hsession]
    decide +kernel
  have hshowable : ∀ row ∈ sparseRows, ∀ c ∈ row, c.2.Showable := by
    simp [sparseRows, Value.Showable]
  refine ⟨st, hrun, fun phase => ?_⟩
  obtain ⟨htable, -, -⟩ := tables_shown (by simp) hrun hselect rfl hout (List.cons_ne_nil _ _) phase
  have hheadings : headings sparseRows = ["a", "b"] := by decide +kernel
  have htexts : texts sparseRows = [["x", "NULL"], ["NULL", "NULL"]] := by decide +kernel
  have hshown := htable hshowable
  rwa [Answer.table, hheadings, htexts] at hshown

/-! ### Numbers that are too long -/

/-- As many rows as this, with a number drawn for each of them. -/
def draws (n : Nat) : History :=
  .command "CREATE TABLE t (a PRIMARY KEY)" ::
    List.replicate n (.command "INSERT INTO t (b) VALUES ('x')")

def drawn (i : Nat) : Row := [(.name "a", .int (i + 1)), (.name "b", .text "x")]

def drawnTable (n : Nat) : Table where
  columns := [⟨.text "a", .text ""⟩]
  constraints := ⟨.text "a", []⟩
  records := (List.range n).map fun i => ⟨i, drawn i⟩
  counter := n + 1

lemma at_drawn (i : Nat) : Row.at (drawn i) (.name "a") = .int (i + 1) := rfl

/-- The next number is new. -/
lemma fault?_drawnTable (n : Nat) :
    (drawnTable n).fault? (some (.name "a")) (drawn n) = none := by
  have hnew : (drawnTable n).holds (.name "a") (.int (n + 1)) = false := by
    rw [Table.holds, drawnTable, List.any_map, List.any_eq_false]
    intro i hi
    have hlt := List.mem_range.1 hi
    rw [Function.comp_apply, at_drawn, Value.same, beq_iff_eq]
    omega
  have hkey : (drawnTable n).keyFault? (some (.name "a")) (drawn n) = none := by
    rw [Table.keyFault?, Option.bind_some, at_drawn, hnew]
    rfl
  rw [Table.fault?, hkey]
  rfl

lemma insert_drawnTable (n : Nat) :
    (drawnTable n).insert n ["b"] [.text "x"] =
      ⟨drawnTable (n + 1), [], .ok ⟨n, drawn n⟩⟩ := by
  have hfill : (drawnTable n).fill ((drawnTable n).startRow (some (.name "a")) ["b"]).1
      (["b"].zip [.text "x"]) = ([], .ok (drawn n)) := rfl
  have htable : { (drawnTable n).spend ["b"] with
      records := (drawnTable n).records ++ [⟨n, drawn n⟩] } = drawnTable (n + 1) := by
    simp only [drawnTable, List.range_succ, List.map_append]
    rfl
  have hkey : (drawnTable n).constraints.key = .ok (some (.name "a")) := rfl
  rw [Table.insert_eq hkey, hfill]
  dsimp only
  rw [fault?_drawnTable]
  dsimp only
  rw [htable]

lemma run_draws (n : Nat) :
    ∃ st, run none [] (draws n) = .ok st ∧ st.session = ⟨none, ⟨[("t", drawnTable n)], [], n⟩⟩ := by
  induction n with
  | zero => exact run_inMemory run_inMemory_nil Statement.parse_createKey
  | succ n ih =>
    have hdraws : draws (n + 1) = draws n ++ [.command "INSERT INTO t (b) VALUES ('x')"] := by
      rw [draws, List.replicate_succ']
      rfl
    have hinsert : (Database.execute ⟨[("t", drawnTable n)], [], n⟩
        (.insert "t" ["b"] [.text "x"])).database = ⟨[("t", drawnTable (n + 1))], [], n + 1⟩ := by
      rw [Database.execute, Database.insert_accepted (t := drawnTable n) (r := ⟨n, drawn n⟩) rfl
        (by simp) (by rw [insert_drawnTable]), insert_drawnTable]
      rfl
    rw [hdraws, ← hinsert]
    exact run_inMemory ih Statement.parse_insertX

lemma not_showable_int {n : Nat} (hn : 10 ^ digitLimit ≤ n) : ¬ (Value.int n).Showable := by
  intro h
  have hlt := (writable_iff_lt n).1 h
  omega

/-- The number of the last row has as many digits as the number of draws. -/
lemma shown_draws {n : Nat} (hn : 10 ^ digitLimit ≤ n) :
    ∃ st rows, run none [] (draws n) = .ok st ∧
      (st.reply "SELECT * FROM t").outcome = .ok (.rows rows) ∧ rows ≠ [] ∧
      ∀ phase, (Console.run ⟨st.session, st.files, phase⟩ "SELECT * FROM t").shown =
        failureText (.number .tooLongToWrite) := by
  obtain ⟨st, hrun, hsession⟩ := run_draws n
  have hselect : Statement.parse "SELECT * FROM t" = .ok (.select "t" none none none) := by
    decide +kernel
  have hout : (st.reply "SELECT * FROM t").outcome = .ok (.rows (drawnTable n).rows) := by
    rw [Stage.outcome_query hselect rfl, Stage.database, hsession]
    rfl
  have hpos : 0 < n := (Nat.pow_pos (by decide)).trans_le hn
  have hlast : drawn (n - 1) ∈ (drawnTable n).rows :=
    List.mem_map.2 ⟨⟨n - 1, drawn (n - 1)⟩,
      List.mem_map.2 ⟨n - 1, List.mem_range.2 (by omega), rfl⟩, rfl⟩
  have hlong : ¬ (Value.int ((n - 1 : Nat) + 1)).Showable := by
    have hsucc : ((n - 1 : Nat) + 1 : Int) = n := by omega
    rw [hsucc]
    exact not_showable_int hn
  have hformed : ∀ row ∈ (Answer.rows (drawnTable n).rows).table, Row.Formed Value.Plain row :=
    (formed_run (by simp) hrun).answer trivial (fun _ => trivial)
      ((Stage.outcome_query hselect rfl).symm.trans hout)
  refine ⟨st, _, hrun, hout, List.ne_nil_of_mem hlast, fun phase => ?_⟩
  rw [Console.run_shown hout,
    Console.answerText_error hformed hlast List.mem_cons_self hlong]

/-- **A number may be too long to be shown**: after as many draws as there are numbers with fewer
digits, a query is answered with rows, but what is shown is no table. -/
theorem tables_shown_tooLong :
    ∃ st rows, run none [] (draws (10 ^ digitLimit)) = .ok st ∧
      (st.reply "SELECT * FROM t").outcome = .ok (.rows rows) ∧ rows ≠ [] ∧
      ∀ phase, (Console.run ⟨st.session, st.files, phase⟩ "SELECT * FROM t").shown =
          failureText (.number .tooLongToWrite) ∧
        ¬ Tabulates (headings rows) (texts rows)
          (Console.run ⟨st.session, st.files, phase⟩ "SELECT * FROM t").shown := by
  obtain ⟨st, rows, hrun, hout, hne, hshown⟩ := shown_draws (n := 10 ^ digitLimit) (Nat.le_refl _)
  refine ⟨st, rows, hrun, hout, hne, fun phase => ⟨hshown phase, ?_⟩⟩
  rw [hshown phase]
  exact Console.not_tabulates_failure _ _

end History

end Tabula
