import Tabula.Proofs.Database.Counter
import Tabula.Proofs.Session.Keys

/-!
Identifiers are not given twice.

A restart takes over the counters of tables, so over a whole run the counter of a table is known
from the statements since the table was created, and an insertion that leaves the primary key out
gets an identifier that no other one gets, before or after it.
-/

namespace Tabula

namespace Session

variable {s : Session} {files : Files} {text : String} {statement : Statement}

/-- Saving does not turn a failure into an answer. -/
lemma outcome_execute_error (hp : Statement.parse text = .ok statement) {failure : Failure}
    (he : (s.database.execute statement).outcome = .error failure) :
    ∃ fault, (s.execute files text).outcome = .error fault := by
  cases hq : statement.kind.isQuery with
  | true => exact ⟨failure, by rw [execute_query hp hq, he]⟩
  | false =>
    cases hs : (s.after statement).save files with
    | ok saved => exact ⟨failure, by rw [execute_saved hp hq hs, he]⟩
    | error fault => exact ⟨fault, by rw [execute_unsaved hp hq hs]⟩

/-- An insertion that leaves the key out takes the counter for its key, and moves it, whether or not
the row is refused. -/
lemma execute_draws {name key : String} {t : Table} (ht : s.database.table? name = some t)
    (hk : t.constraints.key = .ok (some (.name key))) {columns : List String}
    {values : List Value} (hp : Statement.parse text = .ok (.insert name columns values))
    (hc : key ∉ columns) (files : Files) :
    let reply := s.execute files text
    ∃ u, reply.session.database.table? name = some u ∧ u.counter = t.counter + 1 ∧
      ((∃ failure, reply.outcome = .error failure) ∧ u.rows = t.rows ∨
        ∃ row, u.rows = t.rows ++ [row] ∧ Row.at row (.name key) = .int t.counter) := by
  have hspend : (t.spend columns).counter = t.counter + 1 := by
    rw [Table.counter_spend hk, if_neg (by simpa using hc)]
  dsimp only
  rw [database_execute hp, Database.table?_execute, ht, Statement.onTable, if_pos rfl]
  refine ⟨(t.insert s.database.freshId columns values).table, rfl, ?_⟩
  rcases t.insert_cases s.database.freshId columns values with
    ⟨failure, hout, htable⟩ | ⟨found, row, hkey, hrow, -, -, htable⟩
  · rw [htable]
    have hexecute : (s.database.execute (.insert name columns values)).outcome =
        .error failure := by
      rw [Database.execute, Database.insert_refused ht hout]
    exact ⟨hspend, .inl ⟨outcome_execute_error hp hexecute,
      by rw [Table.rows, Table.spend_records, Table.rows]⟩⟩
  · obtain rfl : some (.name key) = found := Except.ok.inj (hk.symm.trans hkey)
    rw [htable]
    exact ⟨hspend, .inr ⟨row, Table.rows_concat _ _ _, Table.at_drawn hc hrow⟩⟩

end Session

namespace History

variable {file : Option SnapshotFile} {files : Files} {h : History} {st : Stage} {name : String}

/-- The tables of a session are what the statements of the run have made. -/
lemma follows_run (ha : ∀ f ∈ file, f.Absent files) (hn : h.commands.length < 10 ^ digitLimit)
    (hrun : h.run file files = .ok st) : st.database.Follows h.statements := by
  refine run_induction (P := fun h st => h.commands.length < 10 ^ digitLimit →
    st.database.Follows h.statements) ?_ ?_ ?_ hrun hn
  · intro s hs _
    rw [Stage.database, Stage.database_start ha hs]
    exact Database.follows_empty _
  · intro h st text _ ih hn
    rw [commands_command, List.length_append, List.length_singleton] at hn
    have hfollows := ih (by omega)
    change (st.session.execute st.files text).session.database.Follows _
    cases hp : Statement.parse text with
    | error failure =>
      rw [Session.execute_unparsed hp, statements_unparsed hp]
      exact hfollows
    | ok s =>
      rw [Session.database_execute hp, statements_parsed hp]
      exact hfollows.execute s
  · intro h st s hrun ih hs hn
    rw [commands_restart] at hn
    rw [statements_restart]
    rcases (sound_run ha hn hrun).database_restart hs with hempty | hcontent
    · rw [Stage.database, hempty]
      exact Database.follows_empty _
    · exact (ih hn).congr (Database.alike_of_content hcontent.symm)

/-- **Identifiers are not given twice.** The counter of a table with a primary key is one more than
the number of insertions since the table was created that leave the key out. Each of them gets the
counter as it was before it, and moves it by one even if it fails, so what an earlier one got is
less than what the next one will get. And as long as no update assigns to the key, the identifiers
of the rows that have got one increase from row to row. -/
theorem counter_run (ha : ∀ f ∈ file, f.Absent files)
    (hn : h.commands.length < 10 ^ digitLimit) (hrun : h.run file files = .ok st) {t : Table}
    (ht : st.database.table? name = some t) {key : String}
    (hk : t.constraints.key = .ok (some (.name key))) :
    t.counter = 1 + (h.sinceCreated name).countP (·.draws name key) ∧
    (∀ text columns values, Statement.parse text = .ok (.insert name columns values) →
      key ∉ columns →
      (t.startRow (some (.name key)) columns).1 = [(.name key, .int t.counter)] ∧
      ∃ u, (st.reply text).session.database.table? name = some u ∧ u.counter = t.counter + 1 ∧
        ((∃ failure, (st.reply text).outcome = .error failure) ∧ u.rows = t.rows ∨
          ∃ row, u.rows = t.rows ++ [row] ∧ Row.at row (.name key) = .int t.counter)) ∧
    (∀ before text after columns values st₁ t₁, h = before ++ .command text :: after →
      Statement.parse text = .ok (.insert name columns values) → key ∉ columns →
      (∀ s ∈ statements after, s.creates name = false) →
      run file files before = .ok st₁ → st₁.database.table? name = some t₁ →
      t₁.counter < t.counter) ∧
    ((∀ s ∈ h.sinceCreated name, ¬ s.Assigns name key) →
      ∃ u, Log.table? h.statements name = some u ∧ t.Alike u ∧
        (∀ r ∈ u.records, ∃ columns values,
          h.statements[r.id]? = some (.insert name columns values)) ∧
        ∃ ns : List Int, Log.drawnKeys h.statements name key u = ns.map .int ∧
          ns.Pairwise (· < ·)) := by
  obtain ⟨u, hu, halike⟩ := follows_run ha hn hrun name t ht
  have hku : u.constraints.key = .ok (some (.name key)) := halike.constraints ▸ hk
  refine ⟨?_, fun text columns values hp hc => ⟨?_, ?_⟩, ?_, fun hassign => ?_⟩
  · rw [halike.counter, Log.counter_eq hu hku]
    rfl
  · rw [Table.startRow_of_name, if_neg (by simpa using hc)]
  · exact Session.execute_draws ht hk hp hc st.files
  · rintro before text after columns values st₁ t₁ rfl hp hc hcreates hrun₁ ht₁
    have hshort : (commands before).length < 10 ^ digitLimit :=
      (length_commands_le (List.prefix_append _ _)).trans_lt hn
    obtain ⟨u₁, hu₁, halike₁⟩ := follows_run ha hshort hrun₁ name t₁ ht₁
    have hlog : statements (before ++ .command text :: after) =
        statements before ++ (.insert name columns values :: statements after) := by
      simp [statements, commands, hp, Except.toOption]
    rw [hlog] at hu
    have hdraws : Statement.draws (.insert name columns values) name key = true := by
      simp [Statement.draws, hc]
    rw [halike.counter, halike₁.counter]
    exact Log.counter_lt hu₁ hu (List.forall_mem_cons.2 ⟨rfl, hcreates⟩) hku
      ⟨_, List.mem_cons_self, hdraws⟩
  · obtain ⟨ns, hkeys, hincrease, -⟩ := Log.drawnKeys_increase hu hku hassign
    exact ⟨u, hu, halike, Log.getElem?_id hu, ns, hkeys, hincrease⟩

/-- Three numbers are drawn, the second for a row that is refused, and the row with the first one is
deleted. -/
def keyedDeleted : History := keyed ++ [.command "DELETE FROM t WHERE b = 'x'"]

def keptRow : Table where
  columns := keyedRows.columns
  constraints := keyedRows.constraints
  records := [⟨1, [(.name "a", .int 3), (.name "b", .text "y")]⟩]
  counter := 4

lemma parse_deleteX : Statement.parse "DELETE FROM t WHERE b = 'x'" =
    .ok (.delete "t" ⟨⟨none, "b"⟩, .equal, .text "x"⟩) := by
  cbv

lemma run_keyedDeleted :
    ∃ st, run none [] keyedDeleted = .ok st ∧ st.session = ⟨none, ⟨[("t", keptRow)], [], 2⟩⟩ := by
  have hdeleted : (Database.execute ⟨[("t", keyedRows)], [], 2⟩
      (.delete "t" ⟨⟨none, "b"⟩, .equal, .text "x"⟩)).database = ⟨[("t", keptRow)], [], 2⟩ := by
    rfl
  rw [← hdeleted]
  exact run_inMemory run_keyed parse_deleteX

/-- The number of the refused row is not given again, and neither is that of the deleted one. -/
theorem counter_run_keyedDeleted :
    ∃ st, run none [] keyedDeleted = .ok st ∧ st.database.table? "t" = some keptRow ∧
      keptRow.counter = 1 + (keyedDeleted.sinceCreated "t").countP (·.draws "t" "a") ∧
      keptRow.counter = 4 ∧
      ∃ u, (st.reply "INSERT INTO t (b) VALUES ('y')").session.database.table? "t" = some u ∧
        u.counter = 5 := by
  obtain ⟨st, hrun, hsession⟩ := run_keyedDeleted
  have ht : st.database.table? "t" = some keptRow := by
    rw [Stage.database, hsession]
    rfl
  have hshort : keyedDeleted.commands.length < 10 ^ digitLimit :=
    lt_pow_digitLimit (by decide)
  have hkey : keptRow.constraints.key = .ok (some (.name "a")) := rfl
  obtain ⟨hcounter, hdraws, -⟩ := counter_run (by simp) hshort hrun ht hkey
  obtain ⟨-, u, hu, hnext, -⟩ := hdraws _ ["b"] [.text "y"] parse_insertY (by decide)
  exact ⟨st, hrun, ht, hcounter, rfl, u, hu, hnext⟩

/-- A table with a primary key, and a row that leaves it out. -/
def oneDraw : History :=
  [.command "CREATE TABLE t (a PRIMARY KEY)", .command "INSERT INTO t (b) VALUES ('x')"]

def drawnRow : Table where
  columns := [⟨.text "a", .text ""⟩]
  constraints := ⟨.text "a", []⟩
  records := [⟨0, [(.name "a", .int 1), (.name "b", .text "x")]⟩]
  counter := 2

lemma run_oneDraw :
    ∃ st, run none [] oneDraw = .ok st ∧
      st.session = ⟨none, ⟨[("t", drawnRow)], [], 1⟩⟩ := by
  exact run_inMemory (run_inMemory run_inMemory_nil Statement.parse_createKey)
    Statement.parse_insertX

lemma statements_oneDraw : oneDraw.statements =
    [.createTable "t" [⟨"a", "", true, false⟩], .insert "t" ["b"] [.text "x"]] := by
  simp [statements, commands, oneDraw, Statement.parse_createKey, Statement.parse_insertX,
    Except.toOption]

end History

end Tabula
