import Tabula.Proofs.Database.Failure
import Tabula.Proofs.Session.Restart

/-!
What a command changes.

Queries, and texts that are no commands, change neither the session nor the files. Of the other
commands that fail, an update aside, only an insertion changes anything: a counter. And after every
command that is not a query the file can be read, and has the content of the database.
-/

namespace Tabula

namespace Stage

variable {file : Option SnapshotFile} {files : Files} {st : Stage} {n : Nat}

/-- Where the draft can be written, what a command has left is saved. -/
lemma Sound.save (h : st.Sound file n)
    (hd : ∀ f ∈ file, Files.fault? f.directory f.draftName = none)
    (hn : n + 1 < 10 ^ digitLimit) {text : String} {statement : Statement}
    (hp : Statement.parse text = .ok statement) :
    ∃ saved, (st.session.after statement).save st.files = .ok saved ∧
      ∀ f ∈ file, f.Holds saved (st.database.execute statement).database := by
  cases hf : file with
  | none =>
    refine ⟨st.files, ?_, by simp⟩
    rw [Session.save, Session.after, h.same_file.trans hf]
  | some f =>
    have hwithin := h.within.execute (Statement.storable_parse hp) hn
    obtain ⟨bytes, hwrite, hholds⟩ :=
      f.write_storable st.files (hd f hf) hwithin.storable
    refine ⟨st.files.write f.path bytes, ?_, ?_⟩
    · rw [Session.save_after (h.same_file.trans hf), hwrite]
    · rintro g ⟨⟩
      exact hholds

/-- What is in the way of the draft of a snapshot. -/
def draftFault? (file : Option SnapshotFile) : Option FileFault :=
  file.bind fun f => Files.fault? f.directory f.draftName

/-- A command that may change data fails if the draft cannot be written. Otherwise a statement is
answered as the database answers it. -/
lemma Sound.outcome_reply (h : st.Sound file n) (hn : n + 1 < 10 ^ digitLimit) {text : String}
    {s : Statement} (hp : Statement.parse text = .ok s) :
    (st.reply text).outcome =
      match draftFault? file, s.kind.isQuery with
      | some fault, false => .error (.file fault)
      | _, _ => (st.database.execute s).outcome := by
  cases hq : s.kind.isQuery with
  | true =>
    rw [reply, Session.execute_query hp hq]
    cases draftFault? file <;> rfl
  | false =>
    cases hd : draftFault? file with
    | none =>
      have hdraft : ∀ f ∈ file, Files.fault? f.directory f.draftName = none := by
        rintro f rfl
        exact hd
      obtain ⟨saved, hsaved, -⟩ := h.save hdraft hn hp
      rw [reply, Session.execute_saved hp hq hsaved]
    | some fault =>
      obtain ⟨f, rfl, hf⟩ := Option.bind_eq_some_iff.1 hd
      have hs : (st.session.after s).save st.files = .error (.file fault) := by
        rw [Session.save_after h.same_file, SnapshotFile.write, hf]
      rw [reply, Session.execute_unsaved hp hq hs]

/-- The file has the content of the database, after a command that is not a query. -/
lemma Sound.read_saved (h : st.Sound file n) (hn : n + 1 < 10 ^ digitLimit) {text : String}
    {statement : Statement} (hp : Statement.parse text = .ok statement) {f : SnapshotFile}
    {saved : Files} (ha : f.Available files)
    (hh : f.Holds saved (st.database.execute statement).database) :
    ∃ db, f.read saved = .ok db ∧
      db.content = (st.database.execute statement).database.content := by
  have hwithin := h.within.execute (Statement.storable_parse hp) hn
  obtain ⟨db, hread, -, hcontent⟩ := SnapshotFile.read_of_holds ha.name hh hwithin.storable
  exact ⟨db, hread, hcontent⟩

end Stage

namespace History

/-- **What a command changes**, in memory or where the file is available: nothing if it cannot be
parsed, nothing if it is a query, what `afterFailure` says if it fails and is no update; and if it
is not a query, the file has the content of the database. -/
theorem execute_effect {file : Option SnapshotFile} {files : Files} {h : History} {st : Stage}
    (ha : ∀ f ∈ file, f.Available files) (hrun : h.run file files = .ok st) (text : String)
    (hn : (h.commands ++ [text]).length < 10 ^ digitLimit) :
    let reply := st.reply text
    (∀ failure, Statement.parse text = .error failure →
      reply.session = st.session ∧ reply.files = st.files) ∧
    (∀ s, Statement.parse text = .ok s → s.kind.isQuery = true →
      reply.session = st.session ∧ reply.files = st.files) ∧
    (∀ s failure, Statement.parse text = .ok s → s.kind ≠ .update →
      reply.outcome = .error failure →
      reply.session = ⟨st.session.file, st.database.afterFailure s⟩) ∧
    (∀ s, Statement.parse text = .ok s → s.kind.isQuery = false → ∀ f ∈ file,
      ∃ db, f.read reply.files = .ok db ∧ db.content = reply.session.database.content) := by
  rw [List.length_append, List.length_singleton] at hn
  have hst := sound_run (fun f hf => (ha f hf).absent) (by omega) hrun
  refine ⟨fun failure hp => ?_, fun s hp hq => ?_, fun s failure hp hs => ?_, fun s hp hq => ?_⟩
  · rw [Stage.reply, Session.execute_unparsed hp]
    exact ⟨rfl, rfl⟩
  · rw [Stage.reply, Session.execute_query hp hq]
    exact ⟨rfl, rfl⟩
  · have hfailed : (st.database.execute s).outcome = .error failure →
        (st.database.execute s).database = st.database.afterFailure s :=
      Database.execute_failed hst.within.storable hs
    cases hq : s.kind.isQuery with
    | true =>
      rw [Stage.reply, Session.execute_query hp hq]
      intro he
      rw [← hfailed he, Database.execute_query hq]
    | false =>
      obtain ⟨saved, hsaved, -⟩ := hst.save (fun f hf => (ha f hf).draft) hn hp
      rw [Stage.reply, Session.execute_saved hp hq hsaved]
      intro he
      rw [Session.after, hfailed he]
  · intro f hf
    obtain ⟨saved, hsaved, hholds⟩ := hst.save (fun f hf => (ha f hf).draft) hn hp
    rw [Stage.reply, Session.execute_saved hp hq hsaved]
    exact hst.read_saved hn hp (ha f hf) (hholds f hf)

/-- A table with a primary key and a unique column, and one row. -/
def keyedOnce : History :=
  [.command "CREATE TABLE t (a PRIMARY KEY, b UNIQUE)", .command "INSERT INTO t (b) VALUES ('x')"]

def keyedRow : Table where
  columns := [⟨.text "a", .text ""⟩, ⟨.text "b", .text ""⟩]
  constraints := ⟨.text "a", [.text "b"]⟩
  records := [⟨0, [(.name "a", .int 1), (.name "b", .text "x")]⟩]
  counter := 2

lemma run_keyedOnce :
    ∃ st, run (some ⟨"data", SnapshotFile.defaultKey⟩) [] keyedOnce = .ok st ∧
      st.database = ⟨[("t", keyedRow)], [], 1⟩ := by
  have hempty : run (some ⟨"data", SnapshotFile.defaultKey⟩) [] [] =
      .ok ⟨⟨some ⟨"data", SnapshotFile.defaultKey⟩, .empty⟩, [], []⟩ := rfl
  refine ⟨_, run_command (run_command hempty _) _, ?_⟩
  rw [Stage.database_execute Statement.parse_insertX,
    Stage.database_execute Statement.parse_createKeyed]
  rfl

/-- The row is repeated, which is refused. The number that was drawn for it is used up, in the
session and in the file, and reading changes nothing. -/
theorem execute_effect_refused :
    ∃ st, run (some ⟨"data", SnapshotFile.defaultKey⟩) [] keyedOnce = .ok st ∧
      (st.reply "INSERT INTO t (b) VALUES ('x')").outcome = .error (.unique (.name "b")) ∧
      (st.reply "INSERT INTO t (b) VALUES ('x')").session.database =
        ⟨[("t", { keyedRow with counter := 3 })], [], 1⟩ ∧
      (∃ db, SnapshotFile.read ⟨"data", SnapshotFile.defaultKey⟩
          (st.reply "INSERT INTO t (b) VALUES ('x')").files = .ok db ∧
        db.content = Database.content ⟨[("t", { keyedRow with counter := 3 })], [], 1⟩) ∧
      (st.reply "SELECT * FROM t").session = st.session ∧
      (st.reply "SELECT * FROM t").files = st.files := by
  have hall : ∀ f ∈ some ⟨"data", SnapshotFile.defaultKey⟩, SnapshotFile.Available f [] := by
    rintro f ⟨⟩
    exact available_data
  obtain ⟨st, hrun, hdb⟩ := run_keyedOnce
  have hshort : (keyedOnce.commands ++ ["INSERT INTO t (b) VALUES ('x')"]).length <
      10 ^ digitLimit := lt_pow_digitLimit (by decide)
  have hsound := sound_run (fun f hf => (hall f hf).absent) (lt_pow_digitLimit (by decide)) hrun
  have hout : (st.reply "INSERT INTO t (b) VALUES ('x')").outcome =
      .error (.unique (.name "b")) := by
    rw [hsound.outcome_reply hshort Statement.parse_insertX, hdb]
    decide +kernel
  have hselect : Statement.parse "SELECT * FROM t" = .ok (.select "t" none none none) := by cbv
  obtain ⟨-, -, hfailed, hread⟩ := execute_effect hall hrun "INSERT INTO t (b) VALUES ('x')" hshort
  obtain ⟨-, hquery, -, -⟩ := execute_effect hall hrun "SELECT * FROM t"
    (lt_pow_digitLimit (by decide))
  have hafter := congrArg Session.database
    (hfailed _ _ Statement.parse_insertX (by decide) hout)
  rw [hdb] at hafter
  obtain ⟨db, hdb, hcontent⟩ := hread _ Statement.parse_insertX rfl _ rfl
  rw [hafter] at hcontent
  exact ⟨st, hrun, hout, hafter, ⟨db, hdb, hcontent⟩, hquery _ hselect rfl⟩

/-- Under a key with a zero character, a table is created although the command fails. -/
theorem execute_effect_zeroCharacter :
    ∃ st s, run (some ⟨"data", "a\x00b"⟩) [] [] = .ok st ∧
      Statement.parse "CREATE TABLE t (a)" = .ok s ∧ s.kind ≠ .update ∧
      (st.reply "CREATE TABLE t (a)").outcome =
        .error (.file .zeroCharacter) ∧
      st.database.names = [] ∧
      (st.reply "CREATE TABLE t (a)").session.database.names = ["t"] := by
  refine ⟨_, _, run_zeroCharacter, Statement.parse_createTable, by decide, ?_, rfl, ?_⟩
  · rw [Stage.reply, Session.execute_unsaved Statement.parse_createTable rfl rfl]
  · rw [Stage.reply, Session.execute_unsaved Statement.parse_createTable rfl rfl]
    rfl

end History

end Tabula
