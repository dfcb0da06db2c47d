import Mathlib
import Tabula.Proofs.Session.Sound

/-!
Restarts do not show.

A session that keeps its database in a file, and that may be thrown away and started again at any
time, answers every command as a session in memory does. After every command the file is that of
the snapshot of the database. The database that is read from it has other identities of records,
and no answer depends on those.
-/

namespace Tabula

namespace Database

/-- What a command does to a database. -/
def command (db : Database) (text : String) : Execution :=
  match Statement.parse text with
  | .error failure => db.unchanged (.error failure)
  | .ok statement => db.execute statement

/-- A command does not tell databases with the same tables apart. -/
lemma Alike.command {a b : Database} (h : a.Alike b) (ha : ∀ e ∈ a.indexes, e.2.column.IsText)
    (hb : ∀ e ∈ b.indexes, e.2.column.IsText) (text : String) :
    (a.command text).outcome = (b.command text).outcome ∧
      (a.command text).database.Alike (b.command text).database := by
  unfold Database.command
  cases Statement.parse text with
  | error failure => exact ⟨rfl, h⟩
  | ok statement => exact h.execute ha hb statement

end Database

lemma Statement.parse_createTable : Statement.parse "CREATE TABLE t (a)" =
    .ok (.createTable "t" [⟨"a", "", false, false⟩]) := by
  cbv

lemma Statement.parse_createKey : Statement.parse "CREATE TABLE t (a PRIMARY KEY)" =
    .ok (.createTable "t" [⟨"a", "", true, false⟩]) := by
  cbv

lemma Statement.parse_createKeyed : Statement.parse "CREATE TABLE t (a PRIMARY KEY, b UNIQUE)" =
    .ok (.createTable "t" [⟨"a", "", true, false⟩, ⟨"b", "", false, true⟩]) := by
  cbv

lemma Statement.parse_insertX : Statement.parse "INSERT INTO t (b) VALUES ('x')" =
    .ok (.insert "t" ["b"] [.text "x"]) := by
  cbv

/-! ### The file after a command -/

namespace Stage

/-- The stage after a command that nothing is in the way of. -/
def after (st : Stage) (text : String) (files : Files) : Stage :=
  ⟨⟨st.session.file, (st.database.command text).database⟩, files,
    st.answers ++ [(st.database.command text).outcome]⟩

/-- Either nothing has been written and the database is empty, or the file is that of the snapshot
of the database, and it is the only one that is written. -/
def Saved (f : SnapshotFile) (files : Files) (st : Stage) : Prop :=
  (st.files = files ∧ st.database = .empty) ∨
    ∃ bytes, st.files = files.write f.path bytes ∧ f.Holds st.files st.database

variable {f : SnapshotFile} {files : Files} {st : Stage} {n : Nat}

lemma execute_inMemory (hf : st.session.file = none) (text : String) :
    st.execute text = st.after text st.files := by
  unfold Stage.execute Stage.reply Stage.after Database.command
  cases hp : Statement.parse text with
  | error failure =>
    rw [Session.execute_unparsed hp]
    rfl
  | ok statement =>
    cases hq : statement.kind.isQuery with
    | true =>
      rw [Session.execute_query hp hq]
      simp only [Database.execute_query hq]
    | false =>
      have hs : (st.session.after statement).save st.files = .ok st.files := by
        rw [Session.save, Session.after, hf]
      rw [Session.execute_saved hp hq hs]
      rfl

/-- A command is answered, and the file follows the database. -/
lemma Saved.execute (h : st.Saved f files) (ha : f.Available files) (hst : st.Sound (some f) n)
    (hn : n + 1 < 10 ^ digitLimit) (text : String) :
    ∃ after, st.execute text = st.after text after ∧ (st.execute text).Saved f files := by
  unfold Stage.execute Stage.reply Stage.after Database.command
  cases hp : Statement.parse text with
  | error failure =>
    rw [Session.execute_unparsed hp]
    exact ⟨st.files, rfl, h⟩
  | ok statement =>
    cases hq : statement.kind.isQuery with
    | true =>
      rw [Session.execute_query hp hq]
      simp only [Database.execute_query hq]
      exact ⟨st.files, rfl, h⟩
    | false =>
      have hwithin := hst.within.execute (Statement.storable_parse hp) hn
      obtain ⟨bytes, hwrite, hholds⟩ := f.write_storable st.files ha.draft hwithin.storable
      have hs := (Session.save_after hst.same_file).trans hwrite
      rw [Session.execute_saved hp hq hs]
      refine ⟨_, rfl, .inr ⟨bytes, ?_, hholds⟩⟩
      -- a second snapshot takes the place of the first one
      rcases h with ⟨hfiles, -⟩ | ⟨old, hfiles, -⟩
      · simp only [hfiles]
      · simp only [hfiles, Files.write, Keyed.put_put]

/-- A restart reads the content of the database that was there. -/
lemma Saved.restart (h : st.Saved f files) (ha : f.Available files)
    (hst : st.database.Storable) :
    ∃ s, (Session.start (some f) st.files).2 = .ok s ∧ s.database.content = st.database.content ∧
      Saved f files { st with session := s } := by
  rcases h with ⟨hfiles, hempty⟩ | ⟨bytes, hfiles, hholds⟩
  · have hcontent : f.content? st.files = .ok none := by
      rw [SnapshotFile.content?, ha.name, hfiles, ha.fresh]
    refine ⟨⟨some f, .empty⟩, ?_, by rw [hempty], .inl ⟨hfiles, rfl⟩⟩
    rw [SnapshotFile.start_of_read (hfiles ▸ ha.directory)
      (SnapshotFile.read_of_content?_none hcontent)]
  · obtain ⟨db, hread, -, hcontent⟩ := SnapshotFile.read_of_holds ha.name hholds hst
    refine ⟨⟨some f, db⟩, ?_, hcontent, .inr ⟨bytes, hfiles, hholds.congr hcontent.symm⟩⟩
    rw [SnapshotFile.start_of_read (hfiles ▸ ha.directory_written bytes) hread]

end Stage

/-! ### Runs -/

namespace History

/-- The history in which nothing is thrown away. -/
def withoutRestarts (h : History) : History := h.commands.map .command

@[simp] lemma commands_withoutRestarts (h : History) :
    h.withoutRestarts.commands = h.commands := by
  unfold withoutRestarts
  generalize h.commands = texts
  induction texts with
  | nil => rfl
  | cons text texts ih => rw [List.map_cons, commands, List.filterMap_cons, ← commands, ih]

@[simp] lemma withoutRestarts_command (h : History) (text : String) :
    withoutRestarts (h ++ [.command text]) = h.withoutRestarts ++ [.command text] := by
  simp [withoutRestarts]

@[simp] lemma withoutRestarts_restart (h : History) :
    withoutRestarts (h ++ [.restart]) = h.withoutRestarts := by
  simp [withoutRestarts]

/-- A session in memory starts with nothing. -/
lemma run_inMemory_nil : ∃ st, run none [] [] = .ok st ∧ st.session = ⟨none, .empty⟩ :=
  ⟨_, rfl, rfl⟩

/-- A statement that is executed in memory, and its answer. -/
lemma answers_inMemory {h : History} {db : Database} {answers : List (Except Failure Answer)}
    {text : String} {s : Statement}
    (hrun : ∃ st, run none [] h = .ok st ∧ st.session = ⟨none, db⟩ ∧ st.answers = answers)
    (hp : Statement.parse text = .ok s) :
    ∃ st, run none [] (h ++ [.command text]) = .ok st ∧
      st.session = ⟨none, (db.execute s).database⟩ ∧
      st.answers = answers ++ [(db.execute s).outcome] := by
  obtain ⟨st, hst, hsession, hanswers⟩ := hrun
  refine ⟨_, run_command hst text, ?_⟩
  rw [Stage.execute_inMemory (by rw [hsession]), Stage.after, Stage.database, hsession,
    Database.command, hp, hanswers]
  exact ⟨rfl, rfl⟩

lemma run_inMemory {h : History} {db : Database} {text : String} {s : Statement}
    (hrun : ∃ st, run none [] h = .ok st ∧ st.session = ⟨none, db⟩)
    (hp : Statement.parse text = .ok s) :
    ∃ st, run none [] (h ++ [.command text]) = .ok st ∧
      st.session = ⟨none, (db.execute s).database⟩ := by
  obtain ⟨st, hst, hsession⟩ := hrun
  obtain ⟨st', hst', hsession', -⟩ := answers_inMemory ⟨st, hst, hsession, rfl⟩ hp
  exact ⟨st', hst', hsession'⟩

/-- A session on a file beside one in memory. -/
structure Mirrored (f : SnapshotFile) (files : Files) (st m : Stage) : Prop where
  saved : st.Saved f files
  alike : st.database.Alike m.database
  answers : st.answers = m.answers

section Mirrored

variable {f : SnapshotFile} {files : Files} {st m : Stage} {n : Nat}

lemma mirrored_start (ha : f.Available files) :
    ∃ st m, run (some f) files [] = .ok st ∧ run none [] [] = .ok m ∧ Mirrored f files st m := by
  have hempty : Stage.Saved f files ⟨⟨some f, .empty⟩, files, []⟩ := .inl ⟨rfl, rfl⟩
  have hstorable : Database.empty.Storable := (Database.within_empty (n := 0)).storable
  obtain ⟨s, hs, hcontent, hsaved⟩ := hempty.restart ha hstorable
  exact ⟨_, _, run_nil hs, rfl, hsaved, Database.alike_of_content hcontent, rfl⟩

lemma Mirrored.command (h : Mirrored f files st m) (ha : f.Available files)
    (hst : st.Sound (some f) n) (hm : m.Sound none n) (hn : n + 1 < 10 ^ digitLimit)
    (text : String) : Mirrored f files (st.execute text) (m.execute text) := by
  obtain ⟨after, hafter, hsaved⟩ := h.saved.execute ha hst hn text
  have hmafter := Stage.execute_inMemory hm.same_file text
  obtain ⟨houtcome, halike⟩ := h.alike.command
    (fun e he => (hst.within.storable.indexes e he).column)
    (fun e he => (hm.within.storable.indexes e he).column) text
  refine ⟨hsaved, ?_, ?_⟩
  · rw [hafter, hmafter]
    exact halike
  · rw [hafter, hmafter, Stage.after, Stage.after, h.answers, houtcome]

lemma Mirrored.restart (h : Mirrored f files st m) (ha : f.Available files)
    (hst : st.Sound (some f) n) :
    ∃ s, (Session.start (some f) st.files).2 = .ok s ∧
      Mirrored f files { st with session := s } m := by
  obtain ⟨s, hs, hcontent, hsaved⟩ := h.saved.restart ha hst.within.storable
  exact ⟨s, hs, hsaved, (Database.alike_of_content hcontent).trans h.alike, h.answers⟩

/-- A run with restarts goes through, beside a run in memory without them. -/
lemma run_mirrored (ha : f.Available files) {h : History}
    (hn : h.commands.length < 10 ^ digitLimit) :
    ∃ st m, h.run (some f) files = .ok st ∧ h.withoutRestarts.run none [] = .ok m ∧
      Mirrored f files st m := by
  induction h using List.reverseRecOn with
  | nil => exact mirrored_start ha
  | append_singleton h e ih =>
    have hshort : (commands h).length < 10 ^ digitLimit :=
      lt_of_le_of_lt (length_commands_le (List.prefix_append h [e])) hn
    obtain ⟨st, m, hst, hm, hmirrored⟩ := ih hshort
    have hsound := sound_run (by simpa using ha.absent) hshort hst
    cases e with
    | command text =>
      have hmemory := sound_run (by simp) (by simpa using hshort) hm
      rw [commands_withoutRestarts] at hmemory
      refine ⟨st.execute text, m.execute text, run_command hst text, ?_,
        hmirrored.command ha hsound hmemory (by simpa using hn) text⟩
      rw [withoutRestarts_command]
      exact run_command hm text
    | restart =>
      obtain ⟨s, hs, hrestarted⟩ := hmirrored.restart ha hsound
      exact ⟨{ st with session := s }, m, run_restart hst hs, by simpa using hm, hrestarted⟩

end Mirrored

/-- Where there is nothing yet, the usual key is fine. -/
lemma available_data : SnapshotFile.Available ⟨"data", SnapshotFile.defaultKey⟩ [] :=
  SnapshotFile.available_of_isPlain ⟨by decide, by decide, by decide, by decide⟩
    ⟨by decide, by decide, by decide, by decide⟩ (by decide)

/-- **Restarts do not show**: where the file is available, a run with restarts goes through, and
every command has the answer that it has in memory without them. -/
theorem answers_withoutRestarts {f : SnapshotFile} {files : Files} {h : History}
    (ha : f.Available files) (hn : h.commands.length < 10 ^ digitLimit) :
    ∃ st m, h.run (some f) files = .ok st ∧ h.withoutRestarts.run none [] = .ok m ∧
      st.answers = m.answers := by
  obtain ⟨st, m, hst, hm, hmirrored⟩ := run_mirrored ha hn
  exact ⟨st, m, hst, hm, hmirrored.answers⟩

theorem answers_withoutRestarts_data :
    ∃ st m,
      run (some ⟨"data", SnapshotFile.defaultKey⟩) []
        [.command "CREATE TABLE t (a)", .restart, .command "DESCRIBE t"] = .ok st ∧
      run none [] [.command "CREATE TABLE t (a)", .command "DESCRIBE t"] = .ok m ∧
      st.answers = m.answers :=
  answers_withoutRestarts available_data (lt_pow_digitLimit (by decide))

lemma run_zeroCharacter :
    run (some ⟨"data", "a\x00b"⟩) [] [] = .ok ⟨⟨some ⟨"data", "a\x00b"⟩, .empty⟩, [], []⟩ := rfl

/-- Under a key with a zero character no snapshot can be written, and a restart is not even
needed for a command to have another answer. -/
theorem answers_zeroCharacter :
    ∃ st m,
      run (some ⟨"data", "a\x00b"⟩) [] [.command "CREATE TABLE t (a)"] = .ok st ∧
      run none [] [.command "CREATE TABLE t (a)"] = .ok m ∧
      st.answers = [.error (.file .zeroCharacter)] ∧
      m.answers = [.ok (.done (.created "t"))] := by
  have hm : run none [] [] = .ok ⟨.inMemory, [], []⟩ := rfl
  refine ⟨_, _, run_command run_zeroCharacter _, run_command hm _, ?_, ?_⟩
  · rw [Stage.execute, Stage.reply, Session.execute_unsaved Statement.parse_createTable rfl rfl]
    rfl
  · rw [Stage.execute_inMemory rfl, Stage.after, Database.command, Statement.parse_createTable]
    rfl

end History

end Tabula
