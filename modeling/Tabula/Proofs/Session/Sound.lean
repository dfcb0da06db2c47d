import Tabula.Proofs.Session.History

/-!
What holds after every run.

The database of a session can be stored and is coherent, and the file either has nothing to be read
or is that of the snapshot of the database. This needs a run with fewer commands than a counter can
count before it has too many digits.
-/

namespace Tabula

namespace Database

/-- A query changes nothing. -/
lemma execute_query {s : Statement} (h : s.kind.isQuery = true) (db : Database) :
    (db.execute s).database = db := by
  cases s with
  | select name columns join c => cases join <;> rfl
  | showTables | describe => rfl
  | createTable | insert | update | delete | createIndex => cases h

end Database

namespace Session

variable {s : Session} {files : Files} {text : String} {statement : Statement}

/-- The session after a statement, saved or not. -/
def after (s : Session) (statement : Statement) : Session :=
  ⟨s.file, (s.database.execute statement).database⟩

lemma save_after {f : SnapshotFile} (hf : s.file = some f) :
    (s.after statement).save files =
      f.write files (s.database.execute statement).database := by
  rw [save, after, hf]

lemma execute_unparsed {failure : Failure} (hp : Statement.parse text = .error failure) :
    s.execute files text = ⟨s, files, [], .error failure⟩ := by
  rw [execute, hp]

lemma execute_query (hp : Statement.parse text = .ok statement)
    (hq : statement.kind.isQuery = true) :
    s.execute files text =
      ⟨s, files, (s.database.execute statement).notices,
        (s.database.execute statement).outcome⟩ := by
  rw [execute, hp]
  dsimp only
  rw [run]
  simp only [hq, if_true, Database.execute_query hq]

lemma execute_saved (hp : Statement.parse text = .ok statement)
    (hq : statement.kind.isQuery = false) {saved : Files}
    (hs : (s.after statement).save files = .ok saved) :
    s.execute files text =
      ⟨s.after statement, saved, (s.database.execute statement).notices,
        (s.database.execute statement).outcome⟩ := by
  rw [after] at hs
  rw [execute, hp]
  dsimp only
  rw [run]
  simp only [hq, Bool.false_eq_true, if_false, hs, after]

lemma execute_unsaved (hp : Statement.parse text = .ok statement)
    (hq : statement.kind.isQuery = false) {failure : Failure}
    (hs : (s.after statement).save files = .error failure) :
    s.execute files text =
      ⟨s.after statement, files, (s.database.execute statement).notices, .error failure⟩ := by
  rw [after] at hs
  rw [execute, hp]
  dsimp only
  rw [run]
  simp only [hq, Bool.false_eq_true, if_false, hs, after]

/-- A statement has the answer that the database gives, unless the snapshot cannot be written. -/
lemma outcome_execute_cases (hp : Statement.parse text = .ok statement) :
    (s.execute files text).outcome = (s.database.execute statement).outcome ∨
      ∃ failure, (s.after statement).save files = .error failure := by
  cases hq : statement.kind.isQuery with
  | true => exact .inl (by rw [execute_query hp hq])
  | false =>
    cases hs : (s.after statement).save files with
    | ok saved => exact .inl (by rw [execute_saved hp hq hs])
    | error failure => exact .inr ⟨failure, rfl⟩

/-- Whether or not it is saved, the database is that after the statement. -/
lemma database_execute (hp : Statement.parse text = .ok statement) :
    (s.execute files text).session.database = (s.database.execute statement).database := by
  cases hq : statement.kind.isQuery with
  | true => rw [execute_query hp hq, Database.execute_query hq]
  | false =>
    cases hs : (s.after statement).save files with
    | ok saved =>
      rw [execute_saved hp hq hs]
      rfl
    | error failure =>
      rw [execute_unsaved hp hq hs]
      rfl

end Session

namespace Stage

variable {st : Stage} {text : String} {s : Statement}

lemma database_execute (hp : Statement.parse text = .ok s) :
    (st.execute text).database = (st.database.execute s).database := Session.database_execute hp

/-- A query is answered as the database answers it. -/
lemma outcome_query (hp : Statement.parse text = .ok s) (hq : s.kind.isQuery = true) :
    (st.reply text).outcome = (st.database.execute s).outcome := by
  rw [reply, Session.execute_query hp hq]

end Stage

/-! ### Starting -/

namespace SnapshotFile

/-- There is nothing to be read. -/
def Absent (f : SnapshotFile) (files : Files) : Prop := ∀ bytes, f.content? files ≠ .ok (some bytes)

variable {f : SnapshotFile} {files : Files} {s : Session}

lemma Available.absent (h : f.Available files) : f.Absent files := by
  intro bytes hb
  rw [content?, h.name, h.fresh] at hb
  cases hb

/-- A file that something is in the way of is not read. -/
lemma absent_or_name (f : SnapshotFile) (files : Files) :
    f.Absent files ∨ Files.fault? f.directory f.name = none := by
  cases hn : Files.fault? f.directory f.name with
  | none => exact .inr rfl
  | some fault =>
    left
    intro bytes hb
    rw [content?, hn] at hb
    cases fault <;> cases hb

lemma start_eq_ok (h : (Session.start (some f) files).2 = .ok s) :
    ∃ db, f.read files = .ok db ∧ s = ⟨some f, db⟩ := by
  cases hd : files.directoryFault? f.directory with
  | some fault =>
    unfold Session.start openWithin at h
    simp only [hd] at h
    cases h
  | none =>
    unfold Session.start openWithin at h
    simp only [hd] at h
    obtain ⟨snapshot, hload, h⟩ := bind_eq_ok.1 h
    obtain ⟨db, hmade, hs⟩ := bind_eq_ok.1 h
    exact ⟨db, bind_eq_ok.2 ⟨snapshot, hload, hmade⟩, (Except.ok.inj hs).symm⟩

lemma start_absent (ha : f.Absent files) (h : (Session.start (some f) files).2 = .ok s) :
    s = ⟨some f, .empty⟩ := by
  obtain ⟨db, hdb, rfl⟩ := start_eq_ok h
  cases hc : f.content? files with
  | error fault =>
    rw [read, load, document?, hc] at hdb
    cases hdb
  | ok content =>
    cases content with
    | some bytes => exact absurd hc (ha bytes)
    | none =>
      rw [read_of_content?_none hc] at hdb
      cases hdb
      rfl

lemma start_holds {db : Database} (hn : Files.fault? f.directory f.name = none)
    (hh : f.Holds files db) (hs : db.Storable) (h : (Session.start (some f) files).2 = .ok s) :
    s.file = some f ∧ db.snapshot.database? = some s.database ∧
      s.database.content = db.content := by
  obtain ⟨db', hread, rfl⟩ := start_eq_ok h
  obtain ⟨found, hfound, hmade, hcontent⟩ := read_of_holds hn hh hs
  rw [hread] at hfound
  cases hfound
  exact ⟨rfl, hmade, hcontent⟩

/-- What the file has of a database. Either it has nothing to be read, and the database is empty
unless the draft cannot be written; or it is that of the snapshot. -/
def Keeps (f : SnapshotFile) (files : Files) (db : Database) : Prop :=
  (f.Absent files ∧ (Files.fault? f.directory f.draftName = none → db = .empty)) ∨
    (Files.fault? f.directory f.draftName = none ∧ f.Holds files db)

end SnapshotFile

/-! ### Runs -/

/-- A session whose database can be stored, beside the file that it is kept in. -/
structure Stage.Sound (file : Option SnapshotFile) (n : Nat) (st : Stage) : Prop where
  same_file : st.session.file = file
  within : st.database.Within n
  coherent : st.database.Coherent
  saved : ∀ f ∈ file, f.Keeps st.files st.database

namespace Stage

variable {file : Option SnapshotFile} {n : Nat} {st : Stage}

lemma Sound.mono (h : st.Sound file n) {m : Nat} (hm : n ≤ m) : st.Sound file m :=
  ⟨h.same_file, h.within.mono hm, h.coherent, h.saved⟩

/-- Where the file has nothing to be read, a session starts with an empty database. -/
lemma database_start {s : Session} {files : Files} (ha : ∀ f ∈ file, f.Absent files)
    (hs : (Session.start file files).2 = .ok s) : s.database = .empty := by
  cases file with
  | none =>
    cases hs
    rfl
  | some f => rw [SnapshotFile.start_absent (ha f rfl) hs]

lemma sound_start {s : Session} {files : Files} {answers : List (Except Failure Answer)}
    (ha : ∀ f ∈ file, f.Absent files) (hs : (Session.start file files).2 = .ok s) :
    Sound file n ⟨s, files, answers⟩ := by
  cases file with
  | none =>
    cases hs
    exact ⟨rfl, Database.within_empty, Database.coherent_empty, by simp⟩
  | some f =>
    obtain rfl := SnapshotFile.start_absent (ha f rfl) hs
    exact ⟨rfl, Database.within_empty, Database.coherent_empty,
      fun g hg => .inl ⟨ha g hg, fun _ => rfl⟩⟩

/-- A session that is started again has the content of the one before, or an empty database. -/
lemma Sound.database_restart (h : st.Sound file n) {s : Session}
    (hs : (Session.start file st.files).2 = .ok s) :
    s.database = .empty ∨ s.database.content = st.database.content := by
  cases file with
  | none => exact .inl (database_start (by simp) hs)
  | some f =>
    rcases f.absent_or_name st.files with ha | hn
    · exact .inl (database_start (by simpa using ha) hs)
    · rcases h.saved f rfl with ⟨ha, -⟩ | ⟨-, hh⟩
      · exact .inl (database_start (by simpa using ha) hs)
      · exact .inr (SnapshotFile.start_holds hn hh h.within.storable hs).2.2

lemma Sound.restart (h : st.Sound file n) {s : Session}
    (hs : (Session.start file st.files).2 = .ok s) :
    Sound file n { st with session := s } := by
  cases file with
  | none => exact sound_start (by simp) hs
  | some f =>
    rcases f.absent_or_name st.files with ha | hn
    · exact sound_start (by simpa using ha) hs
    · rcases h.saved f rfl with ⟨ha, -⟩ | ⟨hd, hh⟩
      · exact sound_start (by simpa using ha) hs
      · obtain ⟨hfile, hmade, hcontent⟩ :=
          SnapshotFile.start_holds hn hh h.within.storable hs
        refine ⟨hfile, h.within.congr hcontent.symm, Database.coherent_of_database? hmade, ?_⟩
        intro g hg
        obtain rfl : f = g := Option.some.inj hg
        exact .inr ⟨hd, hh.congr hcontent.symm⟩

/-- A command keeps a session sound, as long as counters can be written. -/
lemma Sound.execute (h : st.Sound file n) (hn : n + 1 < 10 ^ digitLimit) (text : String) :
    (st.execute text).Sound file (n + 1) := by
  cases hp : Statement.parse text with
  | error failure =>
    have hstep := h.mono (Nat.le_succ n)
    unfold Stage.execute Stage.reply
    rw [Session.execute_unparsed hp]
    exact ⟨hstep.same_file, hstep.within, hstep.coherent, hstep.saved⟩
  | ok statement =>
    have hwithin := h.within.execute (Statement.storable_parse hp) hn
    have hcoherent := h.coherent.step h.within.storable.tableNames (Database.step_execute
      (fun e he => (h.within.storable.indexes e he).column) statement)
    unfold Stage.execute Stage.reply
    cases hq : statement.kind.isQuery with
    | true =>
      rw [Session.execute_query hp hq]
      exact ⟨h.same_file, h.within.mono (Nat.le_succ n), h.coherent, h.saved⟩
    | false =>
      cases hs : (st.session.after statement).save st.files with
      | error failure =>
        rw [Session.execute_unsaved hp hq hs]
        refine ⟨h.same_file, hwithin, hcoherent, fun f hf => ?_⟩
        -- else the file would have been written
        have hd : Files.fault? f.directory f.draftName ≠ none := by
          intro hd
          obtain ⟨bytes, hwrite, -⟩ := f.write_storable st.files hd hwithin.storable
          rw [Session.save_after (h.same_file.trans hf), hwrite] at hs
          cases hs
        rcases h.saved f hf with ⟨ha, -⟩ | ⟨hnone, -⟩
        · exact .inl ⟨ha, fun hnone => absurd hnone hd⟩
        · exact absurd hnone hd
      | ok saved =>
        rw [Session.execute_saved hp hq hs]
        refine ⟨h.same_file, hwithin, hcoherent, fun f hf => .inr ?_⟩
        rw [Session.save_after (h.same_file.trans hf)] at hs
        cases hd : Files.fault? f.directory f.draftName with
        | some fault =>
          unfold SnapshotFile.write at hs
          rw [hd] at hs
          cases hs
        | none =>
          obtain ⟨bytes, hwrite, hholds⟩ :=
            f.write_storable st.files hd hwithin.storable
          rw [hwrite] at hs
          cases hs
          exact ⟨rfl, hholds⟩

end Stage

/-- **What holds after every run** that starts with nothing to be read. -/
theorem History.sound_run {file : Option SnapshotFile} {files : Files} {h : History} {st : Stage}
    (ha : ∀ f ∈ file, f.Absent files) (hn : h.commands.length < 10 ^ digitLimit)
    (hrun : h.run file files = .ok st) : st.Sound file h.commands.length := by
  refine History.run_induction (P := fun h st => h.commands.length < 10 ^ digitLimit →
    st.Sound file h.commands.length) ?_ ?_ ?_ hrun hn
  · exact fun s hs _ => Stage.sound_start ha hs
  · intro h st text _ ih hn
    rw [History.commands_command, List.length_append, List.length_singleton] at hn ⊢
    exact (ih (by omega)).execute hn text
  · intro h st s _ ih hs hn
    rw [History.commands_restart] at hn ⊢
    exact (ih hn).restart hs

end Tabula
