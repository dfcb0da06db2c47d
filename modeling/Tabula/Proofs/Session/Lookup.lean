import Tabula.Proofs.Database.Indexed
import Tabula.Proofs.Session.Restart
import Tabula.Proofs.Statement.Derivation
import Tabula.Proofs.Token.Printed

/-!
Lookup in an index is a search through its table.

This holds from the command that creates the index, as long as no statement puts a new table in
place of its table, or changes or deletes rows of it. A restart keeps it too: where the index could
be created, the snapshot could be written, so the file has the content of the database.
-/

namespace Tabula

/-! ### Names -/

/-- The names in a statement that creates an index have the shape of words. -/
lemma Statement.isWord_of_createIndex {command index table column : String}
    (h : parse command = .ok (.createIndex index table column)) :
    IsWord table ∧ IsWord column := by
  obtain ⟨placed, used, rest, hscan, htokens, hs, -⟩ := exists_derives h (by simp [kind])
  have hword {word : String} (hw : .word word ∈ used) : IsWord word :=
    Token.isWord_of_scan hscan (htokens ▸ List.mem_append_left rest hw)
  cases hs with
  | createIndex => exact ⟨hword (by simp), hword (by simp)⟩

/-! ### What has succeeded -/

namespace Session

variable {s : Session} {files : Files} {text : String} {statement : Statement} {answer : Answer}

/-- A command that succeeds is a statement that does, and what it has left is saved. -/
lemma outcome_execute (hp : Statement.parse text = .ok statement)
    (h : (s.execute files text).outcome = .ok answer) :
    (s.database.execute statement).outcome = .ok answer ∧
      (statement.kind.isQuery = false → ∃ saved, (s.after statement).save files = .ok saved) := by
  cases hq : statement.kind.isQuery with
  | true =>
    rw [execute_query hp hq] at h
    exact ⟨h, nofun⟩
  | false =>
    cases hs : (s.after statement).save files with
    | ok saved =>
      rw [execute_saved hp hq hs] at h
      exact ⟨h, fun _ => ⟨saved, rfl⟩⟩
    | error failure =>
      rw [execute_unsaved hp hq hs] at h
      cases h

end Session

lemma SnapshotFile.draft_of_write {f : SnapshotFile} {files saved : Files} {db : Database}
    (h : f.write files db = .ok saved) : Files.fault? f.directory f.draftName = none := by
  unfold write at h
  split at h
  · cases h
  · assumption

lemma Database.createIndex_eq_ok {db : Database} {index name column : String} {answer : Answer}
    (h : (db.execute (.createIndex index name column)).outcome = .ok answer) :
    ∃ t, db.table? name = some t ∧ (db.execute (.createIndex index name column)).database =
      db.putIndex (Index.keyOf name column) (.build index name column t.records) := by
  rw [execute, createIndex] at h ⊢
  cases ht : db.table? name with
  | none =>
    rw [table_eq_error ht] at h
    cases h
  | some t =>
    rw [table_eq_ok.2 ht]
    exact ⟨t, rfl, rfl⟩

/-! ### Commands and restarts -/

namespace Stage

variable {file : Option SnapshotFile} {st : Stage} {n : Nat} {text index name column : String}

/-- An index that is created covers its table, and the draft of the file can be written. -/
lemma Sound.indexed_created (h : st.Sound file n)
    (hp : Statement.parse text = .ok (.createIndex index name column)) {answer : Answer}
    (ha : (st.reply text).outcome = .ok answer) :
    (st.execute text).database.Indexed name column ∧
      ∀ f ∈ file, Files.fault? f.directory f.draftName = none := by
  obtain ⟨houtcome, hsave⟩ := Session.outcome_execute hp ha
  constructor
  · obtain ⟨t, ht, hdatabase⟩ := Database.createIndex_eq_ok houtcome
    rw [database_execute hp, hdatabase]
    exact ⟨_, t, Database.covers_putIndex h.coherent ht index column⟩
  · intro f hf
    obtain ⟨saved, hsaved⟩ := hsave rfl
    rw [Session.save_after (h.same_file.trans hf)] at hsaved
    exact SnapshotFile.draft_of_write hsaved

lemma Sound.indexed_execute (h : st.Sound file n) (hi : st.database.Indexed name column)
    (hnot : ∀ s, Statement.parse text = .ok s → ¬ s.Disturbs name) (hn : '.' ∉ name.toList)
    (hc : '.' ∉ column.toList) : (st.execute text).database.Indexed name column := by
  cases hp : Statement.parse text with
  | error failure =>
    unfold Stage.execute Stage.reply
    rwa [Session.execute_unparsed hp]
  | ok s =>
    have hstep := Database.step_execute
      (fun e he => (h.within.storable.indexes e he).column) s
    rw [database_execute hp]
    exact hi.step h.coherent h.within.storable.tableNames hstep (hnot s hp) hn hc

lemma Sound.indexed_restart {f : SnapshotFile} (h : st.Sound (some f) n)
    (hi : st.database.Indexed name column)
    (hd : Files.fault? f.directory f.draftName = none) {s : Session}
    (hs : (Session.start (some f) st.files).2 = .ok s) : s.database.Indexed name column := by
  rcases h.saved f rfl with ⟨-, hempty⟩ | ⟨-, hholds⟩
  · -- a database with an index is not empty
    obtain ⟨i, t, hcovers⟩ := hi
    have hindex := hcovers.index
    rw [hempty hd] at hindex
    cases hindex
  · obtain ⟨-, hmade, hcontent⟩ :=
      SnapshotFile.start_holds (SnapshotFile.name_of_draft hd) hholds h.within.storable hs
    exact hi.of_database? hmade hcontent

end Stage

/-! ### Runs -/

namespace History

variable {file : Option SnapshotFile} {files : Files} {before after : History}
  {text index name column : String} {st₁ st : Stage} {answer : Answer}

/-- From its creation on, an index covers its table. -/
lemma indexed_run (ha : ∀ f ∈ file, f.Absent files)
    (hp : Statement.parse text = .ok (.createIndex index name column))
    (hbefore : before.run file files = .ok st₁) (hanswer : (st₁.reply text).outcome = .ok answer)
    (hnot : ∀ s ∈ after.statements, ¬ s.Disturbs name) (hrestart : file = none → .restart ∉ after)
    (hn : (commands (before ++ .command text :: after)).length < 10 ^ digitLimit)
    (hrun : run file files (before ++ .command text :: after) = .ok st) :
    st.database.Indexed name column := by
  obtain ⟨hname, hcolumn⟩ := Statement.isWord_of_createIndex hp
  rw [← List.singleton_append, ← List.append_assoc] at hn hrun
  have hsound {h : History} {mid : Stage} (hpart : h <+: before ++ [.command text] ++ after)
      (hmid : h.run file files = .ok mid) : mid.Sound file h.commands.length :=
    sound_run ha (lt_of_le_of_lt (length_commands_le hpart) hn) hmid
  have hearlier : before <+: before ++ [.command text] ++ after :=
    (List.prefix_append _ _).trans (List.prefix_append _ _)
  obtain ⟨hcreated, hdraft⟩ := (hsound hearlier hbefore).indexed_created hp hanswer
  -- only of the events of `after` is it known that they do not disturb the table
  refine run_induction_from (before ++ [.command text])
    (P := fun h st => h <+: after → st.database.Indexed name column) ?first ?command ?restart hrun
    List.prefix_rfl
  case first =>
    intro st hst _
    rw [run_command hbefore text] at hst
    cases hst
    exact hcreated
  case command =>
    intro h st text' hst ih hpart
    have hfirst := (List.prefix_append h _).trans hpart
    have hmid := hsound ((List.prefix_append_right_inj _).2 hfirst) hst
    refine hmid.indexed_execute (ih hfirst) (fun s hs => ?_) hname.point_notMem
      hcolumn.point_notMem
    exact hnot s (mem_statements.2 ⟨text', hpart.subset (by simp), hs⟩)
  case restart =>
    intro h st s hst ih hs hpart
    have hfirst := (List.prefix_append h _).trans hpart
    have hmid := hsound ((List.prefix_append_right_inj _).2 hfirst) hst
    cases file with
    | none => exact absurd (hpart.subset (by simp)) (hrestart rfl)
    | some f => exact hmid.indexed_restart (ih hfirst) (hdraft f rfl) hs

/-- A command has the answer that it has in memory. -/
lemma Mirrored.outcome {f : SnapshotFile} {m : Stage} {n : Nat} (h : Mirrored f files st m)
    (ha : f.Available files) (hst : st.Sound (some f) n) (hm : m.Sound none n)
    (hn : n + 1 < 10 ^ digitLimit) (text : String) :
    (st.reply text).outcome = (m.reply text).outcome := by
  have hanswers := (h.command ha hst hm hn text).answers
  rw [Stage.execute, Stage.execute, h.answers] at hanswers
  exact List.singleton_inj.1 (List.append_cancel_left hanswers)

/-- A table, an index of it, and then a row and a restart. -/
def oneIndex : History :=
  [.command "CREATE TABLE t (a)", .command "CREATE INDEX i ON t (a)",
    .command "INSERT INTO t (a) VALUES (1)", .restart]

lemma parse_createIndex :
    Statement.parse "CREATE INDEX i ON t (a)" = .ok (.createIndex "i" "t" "a") := by
  cbv

lemma parse_insertOne :
    Statement.parse "INSERT INTO t (a) VALUES (1)" = .ok (.insert "t" ["a"] [.int 1]) := by
  cbv

lemma outcome_oneIndex {st : Stage}
    (h : run (some ⟨"data", SnapshotFile.defaultKey⟩) [] [.command "CREATE TABLE t (a)"] = .ok st) :
    (st.reply "CREATE INDEX i ON t (a)").outcome = .ok (.done (.indexed "i" "t" "a")) := by
  have hshort : (commands [.command "CREATE TABLE t (a)"]).length + 1 < 10 ^ digitLimit :=
    lt_pow_digitLimit (by decide)
  have hone := Nat.lt_of_succ_lt hshort
  obtain ⟨st', m, hst, hm, hmirrored⟩ := run_mirrored available_data hone
  cases h.symm.trans hst
  obtain ⟨m', hm', hsession⟩ := run_inMemory run_inMemory_nil Statement.parse_createTable
  cases hm.symm.trans hm'
  have hsound := sound_run (by simpa using available_data.absent) hone hst
  have hmemory := sound_run (by simp) hone hm
  rw [hmirrored.outcome available_data hsound hmemory hshort, Stage.reply, hsession,
    Session.execute, parse_createIndex]
  rfl

/-- **Lookup in an index is a search through its table**, from the command on that creates the index
and as long as no statement disturbs the table. For every value but those that are no number the
index finds the rows whose cell is equal, in the order of the table; it has the different cells as
they first came, and it counts the rows. -/
theorem index_answers (ha : ∀ f ∈ file, f.Absent files)
    (hp : Statement.parse text = .ok (.createIndex index name column))
    (hbefore : before.run file files = .ok st₁) (hanswer : (st₁.reply text).outcome = .ok answer)
    (hnot : ∀ s ∈ after.statements, ¬ s.Disturbs name) (hrestart : file = none → .restart ∉ after)
    (hn : (commands (before ++ .command text :: after)).length < 10 ^ digitLimit)
    (hrun : run file files (before ++ .command text :: after) = .ok st) :
    ∃ i t, st.database.index? (Index.keyOf name column) = some i ∧
      st.database.table? name = some t ∧
      (∀ v : Value, ¬ v.IsNaN →
        (i.search v).map (·.row) = t.rows.filter fun row => v.equals (Row.cell row column)) ∧
      i.values = (t.rows.map (Row.cell · column)).eraseDupsBy Value.equals ∧
      i.size = t.rows.length := by
  obtain ⟨i, t, hcovers⟩ := indexed_run ha hp hbefore hanswer hnot hrestart hn hrun
  have hstorable := ((sound_run ha hn hrun).within.table hcovers.table).storable
  exact ⟨i, t, hcovers.index, hcovers.table, hcovers.answers hstorable⟩

theorem index_answers_data :
    ∃ st i t, run (some ⟨"data", SnapshotFile.defaultKey⟩) [] oneIndex = .ok st ∧
      st.database.index? (Index.keyOf "t" "a") = some i ∧ st.database.table? "t" = some t ∧
      (∀ v : Value, ¬ v.IsNaN →
        (i.search v).map (·.row) = t.rows.filter fun row => v.equals (Row.cell row "a")) ∧
      i.values = (t.rows.map (Row.cell · "a")).eraseDupsBy Value.equals ∧
      i.size = t.rows.length := by
  have hshort : oneIndex.commands.length < 10 ^ digitLimit :=
    lt_pow_digitLimit (by decide)
  have hone : (commands [.command "CREATE TABLE t (a)"]).length < 10 ^ digitLimit :=
    lt_pow_digitLimit (by decide)
  obtain ⟨st₁, -, hbefore, -⟩ := run_mirrored available_data hone
  obtain ⟨st, -, hrun, -⟩ := run_mirrored available_data hshort
  have hnot : ∀ s ∈ statements [.command "INSERT INTO t (a) VALUES (1)", .restart],
      ¬ s.Disturbs "t" := by
    intro s hs
    obtain ⟨text, hmem, hp⟩ := mem_statements.1 hs
    obtain rfl : text = "INSERT INTO t (a) VALUES (1)" := by simpa using hmem
    cases parse_insertOne.symm.trans hp
    exact id
  obtain ⟨i, t, hanswers⟩ := index_answers (by simpa using available_data.absent)
    parse_createIndex hbefore (outcome_oneIndex hbefore) hnot (by simp) hshort hrun
  exact ⟨st, i, t, hrun, hanswers⟩

end History

end Tabula
