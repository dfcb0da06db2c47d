import Tabula.Proofs.Database.Refusals
import Tabula.Proofs.Session.Restart

/-!
Sessions whose commands have no long runs of digits.

Such a session only ever answers or refuses. Every cell of its database can be read, in whatever
way it has come there: literals are short, casts make readable cells of them, counters are whole
numbers, and a restart brings back what was there. So no conversion, no comparison and no snapshot
reaches a limit.
-/

namespace Tabula

open Binary64 (rangeDigits)
open Text (RunsWithin)
open Value (Readable)

/-- A command without long runs of digits is answered or refused, and leaves readable cells. -/
lemma Database.Formed.command {db : Database} (h : db.Formed Readable) {text : String}
    (hr : RunsWithin rangeDigits text.toList) :
    (db.command text).database.Formed Readable ∧
      ∀ failure, (db.command text).outcome = .error failure → failure.isRefusal = true := by
  unfold Database.command
  cases hp : Statement.parse text with
  | error failure =>
    refine ⟨h, ?_⟩
    rintro _ ⟨⟩
    exact Statement.isRefusal_parse (hr.mono rangeDigits_le_digitLimit) hp
  | ok s =>
    have hliterals := Statement.short_parse hr hp
    exact ⟨h.execute ColumnType.casts_short trivial (fun _ _ => trivial) hliterals.supplies,
      fun failure he => Database.isRefusal_execute h hliterals he⟩

namespace Stage

variable {file : Option SnapshotFile} {files : Files} {st : Stage} {n : Nat} {f : SnapshotFile}

/-- A session can be started from the file, no warning is given, and the database has the same
content. -/
def Reopens (st : Stage) (f : SnapshotFile) : Prop :=
  ∃ notices s, Session.start (some f) st.files = (notices, .ok s) ∧
    (∀ notice ∈ notices, notice.level = .info) ∧ s.database.content = st.database.content

lemma Saved.reopens (h : st.Saved f files) (ha : f.Available files)
    (hst : st.database.Storable) : st.Reopens f := by
  obtain ⟨s, hs, hcontent, -⟩ := h.restart ha hst
  refine ⟨(Session.start (some f) st.files).1, s, Prod.ext rfl hs, ?_, hcontent⟩
  have hload : ∀ notice ∈ (f.load Json.deepest st.files).1, notice.level = .info := by
    rcases h with ⟨hfiles, -⟩ | ⟨bytes, -, hholds⟩
    · have hnone : f.content? st.files = .ok none := by
        rw [SnapshotFile.content?, ha.name, hfiles, ha.fresh]
      simp [SnapshotFile.load_of_content?_none _ hnone]
    · simp [SnapshotFile.load_of_holds ha.name hholds hst, Notice.level]
  intro notice hnotice
  unfold Session.start SnapshotFile.openWithin at hnotice
  dsimp only at hnotice
  split at hnotice
  · cases hnotice
  · exact hload notice hnotice

/-- A session that has only answered and refused, and whose cells can be read, beside its file. -/
structure Orderly (file : Option SnapshotFile) (files : Files) (st : Stage) : Prop where
  formed : st.database.Formed Readable
  answers : ∀ failure, .error failure ∈ st.answers → failure.isRefusal = true
  saved : ∀ f ∈ file, st.Saved f files

/-- A command is answered, and the file follows the database, if there is one. -/
lemma Orderly.exists_after (h : st.Orderly file files) (ha : ∀ f ∈ file, f.Available files)
    (hst : st.Sound file n) (hn : n + 1 < 10 ^ digitLimit) (text : String) :
    ∃ after, st.execute text = st.after text after ∧
      ∀ f ∈ file, (st.execute text).Saved f files := by
  cases file with
  | none => exact ⟨st.files, execute_inMemory hst.same_file text, by simp⟩
  | some f =>
    obtain ⟨after, hafter, hsaved⟩ := (h.saved f rfl).execute (ha f rfl) hst hn text
    refine ⟨after, hafter, ?_⟩
    rintro g ⟨⟩
    exact hsaved

lemma Orderly.execute (h : st.Orderly file files) (ha : ∀ f ∈ file, f.Available files)
    (hst : st.Sound file n) (hn : n + 1 < 10 ^ digitLimit) {text : String}
    (hr : RunsWithin rangeDigits text.toList) : (st.execute text).Orderly file files := by
  obtain ⟨after, hafter, hsaved⟩ := h.exists_after ha hst hn text
  obtain ⟨hformed, hrefused⟩ := h.formed.command hr
  refine ⟨?_, ?_, hsaved⟩
  · rw [hafter]
    exact hformed
  · intro failure hm
    rw [hafter] at hm
    rcases List.mem_append.1 hm with hm | hm
    · exact h.answers failure hm
    · exact hrefused failure (List.mem_singleton.1 hm).symm

lemma Orderly.restart (h : st.Orderly file files) (ha : ∀ f ∈ file, f.Available files)
    (hst : st.database.Storable) :
    ∃ s, (Session.start file st.files).2 = .ok s ∧ Orderly file files { st with session := s } := by
  cases file with
  | none => exact ⟨.inMemory, rfl, Database.formed_empty, h.answers, by simp⟩
  | some f =>
    obtain ⟨s, hs, hcontent, hsaved⟩ := (h.saved f rfl).restart (ha f rfl) hst
    refine ⟨s, hs, h.formed.congr hcontent.symm, h.answers, ?_⟩
    rintro g ⟨⟩
    exact hsaved

end Stage

namespace History

variable {file : Option SnapshotFile} {files : Files} {h : History}

/-- A run goes through, and the session is orderly after it. -/
lemma orderly_run (ha : ∀ f ∈ file, f.Available files) (hn : h.commands.length < 10 ^ digitLimit)
    (hr : ∀ text ∈ h.commands, RunsWithin rangeDigits text.toList) :
    ∃ st, h.run file files = .ok st ∧ st.Orderly file files := by
  induction h using List.reverseRecOn with
  | nil =>
    -- the first start is a restart of a session that has nothing
    have hempty : Stage.Orderly file files ⟨⟨file, .empty⟩, files, []⟩ :=
      ⟨Database.formed_empty, by simp, fun f _ => .inl ⟨rfl, rfl⟩⟩
    obtain ⟨s, hs, horderly⟩ :=
      hempty.restart ha (Database.within_empty (n := 0)).storable
    exact ⟨_, run_nil hs, horderly⟩
  | append_singleton h e ih =>
    have hfirst : h <+: h ++ [e] := List.prefix_append h [e]
    have hshort : (commands h).length < 10 ^ digitLimit :=
      lt_of_le_of_lt (length_commands_le hfirst) hn
    obtain ⟨st, hst, horderly⟩ :=
      ih hshort fun text ht => hr text ((commands_sublist hfirst).subset ht)
    have hsound := sound_run (fun f hf => (ha f hf).absent) hshort hst
    cases e with
    | command text =>
      have htext := hr text (by simp)
      exact ⟨st.execute text, run_command hst text,
        horderly.execute ha hsound (by simpa using hn) htext⟩
    | restart =>
      obtain ⟨s, hs, hrestarted⟩ := horderly.restart ha hsound.within.storable
      exact ⟨{ st with session := s }, run_restart hst hs, hrestarted⟩

/-- **Only refusals.** In memory or where the file is available, commands without long runs of
digits are answered or refused, however often the session is started again; and at any time a
session can be started from the file, without a warning and with the same content. -/
theorem refusals_run (ha : ∀ f ∈ file, f.Available files)
    (hn : h.commands.length < 10 ^ digitLimit)
    (hr : ∀ text ∈ h.commands, RunsWithin rangeDigits text.toList) :
    ∀ before, before <+: h → ∃ st, run file files before = .ok st ∧
      (∀ failure, .error failure ∈ st.answers → failure.isRefusal = true) ∧
      ∀ f ∈ file, st.Reopens f := by
  intro before hb
  have hshort := lt_of_le_of_lt (length_commands_le hb) hn
  obtain ⟨st, hrun, horderly⟩ :=
    orderly_run ha hshort fun text ht => hr text ((commands_sublist hb).subset ht)
  have hsound := sound_run (fun f hf => (ha f hf).absent) hshort hrun
  exact ⟨st, hrun, horderly.answers, fun f hf =>
    (horderly.saved f hf).reopens (ha f hf) hsound.within.storable⟩

/-- A row is repeated in spite of a unique column, and the session is started again. -/
def repeated : History :=
  [.command "CREATE TABLE t (a PRIMARY KEY, b UNIQUE)", .command "INSERT INTO t (b) VALUES ('x')",
    .command "INSERT INTO t (b) VALUES ('x')", .restart]

/-- In memory the third command is refused. -/
lemma run_repeated :
    ∃ m, run none [] repeated.withoutRestarts = .ok m ∧ .error (.unique (.name "b")) ∈ m.answers := by
  have hempty : ∃ st, run none [] [] = .ok st ∧ st.session = ⟨none, .empty⟩ ∧ st.answers = [] :=
    ⟨_, rfl, rfl, rfl⟩
  have hcreated := answers_inMemory hempty Statement.parse_createKeyed
  have hinserted := answers_inMemory hcreated Statement.parse_insertX
  obtain ⟨m, hm, -, hanswers⟩ := answers_inMemory hinserted Statement.parse_insertX
  have hrefused : .error (.unique (.name "b")) ∈ m.answers := by
    rw [hanswers]
    decide +kernel
  exact ⟨m, hm, hrefused⟩

theorem refusals_run_repeated :
    ∃ st, run (some ⟨"data", SnapshotFile.defaultKey⟩) [] repeated = .ok st ∧
      .error (.unique (.name "b")) ∈ st.answers ∧
      (∀ failure, .error failure ∈ st.answers → failure.isRefusal = true) ∧
      st.Reopens ⟨"data", SnapshotFile.defaultKey⟩ := by
  have hall : ∀ f ∈ some ⟨"data", SnapshotFile.defaultKey⟩, SnapshotFile.Available f [] := by
    rintro f ⟨⟩
    exact available_data
  have hruns : ∀ text ∈ repeated.commands, RunsWithin rangeDigits text.toList := by
    intro text ht
    apply Text.runsWithin_of_length
    revert text
    decide
  obtain ⟨st, hrun, hanswers, hreopens⟩ :=
    refusals_run hall (lt_pow_digitLimit (by decide)) hruns _ List.prefix_rfl
  obtain ⟨m, hm, hrefused⟩ := run_repeated
  obtain ⟨st', m', hst', hm', hmirrored⟩ :=
    run_mirrored available_data (lt_pow_digitLimit (by decide)) (h := repeated)
  cases hrun.symm.trans hst'
  cases hm.symm.trans hm'
  exact ⟨st, hrun, hmirrored.answers ▸ hrefused, hanswers, hreopens _ rfl⟩

/-- Under a key with a zero character, the answer to a short command is no refusal. -/
theorem refusals_zeroCharacter :
    RunsWithin rangeDigits "CREATE TABLE t (a)".toList ∧
      ∃ st failure, run (some ⟨"data", "a\x00b"⟩) [] [.command "CREATE TABLE t (a)"] = .ok st ∧
        .error failure ∈ st.answers ∧ failure.isRefusal = false := by
  refine ⟨Text.runsWithin_of_length (by decide), _, .file .zeroCharacter,
    run_command run_zeroCharacter _, ?_, rfl⟩
  rw [Stage.execute, Stage.reply, Session.execute_unsaved Statement.parse_createTable rfl rfl]
  exact List.mem_singleton.2 rfl

end History

end Tabula
