import Tabula.Proofs.Database.Given
import Tabula.Proofs.Session.Lineage
import Tabula.Proofs.Session.Lookup
import Tabula.Proofs.Statement.RoundTrip

/-!
Keys that are given and keys from the counter, over whole runs.

Which insertions are refused on account of the primary key follows from the statements behind the
database: a key from the counter and the same whole number, given by an insertion, exclude each
other if the key is a column of whole numbers. In any other column they are stored as values of
different kinds and stand side by side.
-/

namespace Tabula

namespace History

variable {file : Option SnapshotFile} {files : Files} {h : History} {st : Stage}

/-- **Keys of both origins meet in a column of whole numbers, and in no other.** The statements
behind a table are those of the lineage of the run; with fewer commands than a counter can count,
they are those of the run. -/
theorem keys_meet (ha : ∀ f ∈ file, f.Absent files) (hrun : h.run file files = .ok st) :
    (∃ l, h.trace file files = .ok (st, l) ∧ st.database.KeysMeet l.current) ∧
    (h.commands.length < 10 ^ digitLimit → st.database.KeysMeet h.statements) ∧
    ∀ text s, Statement.parse text = .ok s →
      (st.reply text).outcome = (st.database.execute s).outcome ∨
        ∃ failure, (st.session.after s).save st.files = .error failure := by
  obtain ⟨l, hl⟩ := trace_of_run hrun
  exact ⟨⟨l, hl, (tracked_trace ha hl).follows.keysMeet⟩,
    fun hn => (follows_run ha hn hrun).keysMeet,
    fun text s hp => Session.outcome_execute_cases hp⟩

/-! ### A key from the counter, in a column of whole numbers and in one without a type -/

/-- A table whose key is a column of whole numbers, and a row that leaves it out. -/
def wholeKey : History :=
  [.command "CREATE TABLE t (a INTEGER PRIMARY KEY, b INTEGER)",
    .command "INSERT INTO t (b) VALUES (NULL)"]

def wholeRow : Table where
  columns := [⟨.text "a", .text "INTEGER"⟩, ⟨.text "b", .text "INTEGER"⟩]
  constraints := ⟨.text "a", []⟩
  records := [⟨0, [(.name "a", .int 1), (.name "b", .null)]⟩]
  counter := 2

lemma parse_wholeKey :
    Statement.parse "CREATE TABLE t (a INTEGER PRIMARY KEY, b INTEGER)" =
        .ok (.createTable "t" [⟨"a", "INTEGER", true, false⟩, ⟨"b", "INTEGER", false, false⟩]) ∧
      Statement.parse "INSERT INTO t (b) VALUES (NULL)" = .ok (.insert "t" ["b"] [.null]) := by
  decide +kernel

lemma run_wholeKey :
    ∃ st, run none [] wholeKey = .ok st ∧
      st.session = ⟨none, ⟨[("t", wholeRow)], [], 1⟩⟩ := by
  obtain ⟨st, hrun, hsession⟩ :=
    run_inMemory (run_inMemory run_inMemory_nil parse_wholeKey.1) parse_wholeKey.2
  have hdatabase : ((Database.empty.execute (.createTable "t" [⟨"a", "INTEGER", true, false⟩,
      ⟨"b", "INTEGER", false, false⟩])).database.execute (.insert "t" ["b"] [.null])).database =
        ⟨[("t", wholeRow)], [], 1⟩ := by
    rfl
  exact ⟨st, hrun, by rw [hsession, hdatabase]⟩

lemma statements_wholeKey : wholeKey.statements =
    [.createTable "t" [⟨"a", "INTEGER", true, false⟩, ⟨"b", "INTEGER", false, false⟩],
      .insert "t" ["b"] [.null]] := by
  simp [statements, commands, wholeKey, parse_wholeKey.1, parse_wholeKey.2, Except.toOption]

lemma fill_wholeRow :
    (wholeRow.fill [] [("a", .int 1)]).2 = .ok [(.name "a", .int 1)] ∧
      (wholeRow.fill [] [("a", .int 1), ("b", .int (10 ^ 309))]).2 =
        .error (.number .tooLargeForReal) := by
  decide +kernel

theorem keys_meet_wholeKey :
    ∃ st, run none [] wholeKey = .ok st ∧ st.database.table? "t" = some wholeRow ∧
      (st.database.execute (.insert "t" ["a"] [.int 1])).outcome =
        .error (.primaryKey (.name "a") .duplicate) := by
  obtain ⟨st, hrun, hsession⟩ := run_wholeKey
  have ht : st.database.table? "t" = some wholeRow := by
    rw [Stage.database, hsession]
    rfl
  have hshort : wholeKey.commands.length < 10 ^ digitLimit :=
    lt_pow_digitLimit (by decide)
  have hlog : Log.table? wholeKey.statements "t" = some { wholeRow with
      records := [⟨1, [(.name "a", .int 1), (.name "b", .null)]⟩] } := by
    rw [statements_wholeKey]
    rfl
  have hassign : ∀ s ∈ Log.since wholeKey.statements "t", ¬ s.Assigns "t" "a" := by
    rw [statements_wholeKey]
    rintro s hs ⟨assignments, c, rfl, -⟩
    simp [Log.since, Statement.creates] at hs
  obtain ⟨-, hmeet, -⟩ := keys_meet (by simp) hrun
  obtain ⟨u, hu, -, hkeys⟩ := hmeet hshort "t" wholeRow "a" ht rfl hassign
  cases hlog.symm.trans hu
  have hdrew : Log.drew wholeKey.statements "t" "a"
      ⟨1, [(.name "a", .int 1), (.name "b", .null)]⟩ = true := by
    rw [statements_wholeKey]
    decide
  obtain ⟨n, hn, hrefused⟩ := hkeys.given_refused ⟨⟨.text "a", .text "INTEGER"⟩, rfl, rfl⟩ _
    (List.mem_singleton_self _) hdrew
  cases hn
  exact ⟨st, hrun, ht, (hrefused ["a"] [.int 1] rfl).taken _ fill_wholeRow.1⟩

/-- **A key from the counter can be given again** where the key is declared without a type. And
where it is a column of whole numbers, another value of the insertion may be what is refused. -/
theorem keys_apart :
    (∃ st, run none [] oneDraw = .ok st ∧ st.database.table? "t" = some drawnRow ∧
      drawnRow.constraints.key = .ok (some (.name "a")) ∧
      (∀ s ∈ oneDraw.sinceCreated "t", ¬ s.Assigns "t" "a") ∧
      (∃ u, Log.table? oneDraw.statements "t" = some u ∧ drawnRow.Alike u ∧
        ∃ r ∈ u.records, Log.drew oneDraw.statements "t" "a" r = true ∧
          Row.at r.row (.name "a") = .int 1) ∧
      Statement.parse "INSERT INTO t (a) VALUES (1)" = .ok (.insert "t" ["a"] [.int 1]) ∧
      (st.reply "INSERT INTO t (a) VALUES (1)").outcome = .ok (.done .inserted)) ∧
    ∃ st text, run none [] wholeKey = .ok st ∧
      Statement.parse text = .ok (.insert "t" ["a", "b"] [.int 1, .int (10 ^ 309)]) ∧
      (st.reply text).outcome = .error (.number .tooLargeForReal) := by
  constructor
  · obtain ⟨st, hrun, hsession⟩ := run_oneDraw
    have hinserted : (Database.execute ⟨[("t", drawnRow)], [], 1⟩
        (.insert "t" ["a"] [.int 1])).outcome = .ok (.done .inserted) := by
      decide +kernel
    refine ⟨st, hrun, ?_, rfl, ?_, ?_, parse_insertOne, ?_⟩
    · rw [Stage.database, hsession]
      rfl
    · rw [sinceCreated, statements_oneDraw]
      rintro s hs ⟨assignments, c, rfl, -⟩
      simp [Statement.creates] at hs
    · rw [statements_oneDraw]
      exact ⟨_, rfl, rfl, _, List.mem_singleton_self _, by decide, rfl⟩
    · rw [Stage.reply, hsession, Session.execute_saved parse_insertOne rfl rfl, hinserted]
  · obtain ⟨st, hrun, hsession⟩ := run_wholeKey
    have hword {c : Char} (hc : Text.isWordStart c = true) : IsWord (String.ofList [c]) :=
      ⟨c, [], String.toList_ofList, hc, by simp⟩
    have hwell : (Statement.insert "t" ["a", "b"] [.int 1, .int (10 ^ 309)]).WellFormed := by
      have hone : Writable 1 := by decide +kernel
      have hlarge : Writable (10 ^ 309) := by decide +kernel
      exact ⟨hword rfl, by simp, rfl,
        List.forall_mem_cons.2 ⟨hword rfl, List.forall_mem_singleton.2 (hword rfl)⟩,
        List.forall_mem_cons.2 ⟨hone, List.forall_mem_singleton.2 hlarge⟩⟩
    obtain ⟨text, hprint⟩ := Statement.exists_printedAs hwell
    have hp := Statement.parse_of_printedAs hwell hprint
    refine ⟨st, text, hrun, hp, ?_⟩
    have hrefused : (Database.execute ⟨[("t", wholeRow)], [], 1⟩
        (.insert "t" ["a", "b"] [.int 1, .int (10 ^ 309)])).outcome =
          .error (.number .tooLargeForReal) := by
      decide +kernel
    rw [Stage.reply, hsession, Session.execute_saved hp rfl rfl, hrefused]

end History

end Tabula
