import Tabula.Proofs.Database.Typed
import Tabula.Proofs.Database.Written
import Tabula.Proofs.Session.Counter

/-!
The statements behind a database.

After so many commands that a counter cannot be written, a command leaves the file as it is, and a
restart goes back to what the file has. So what a database comes from is kept beside the run: the
statements that have led to the database, and those that have led to the snapshot. After every run,
of whatever length, the tables are what the former make of nothing.
-/

namespace Tabula

/-- The statements that have led to the database of a session, and those that have led to the
snapshot in its file. Queries are left out. -/
structure Lineage where
  current : Log
  saved : Log

namespace Lineage

def empty : Lineage := ⟨[], []⟩

/-- What an event adds to the statements. A session without a file starts from nothing again. -/
def step (file : Option SnapshotFile) (st : Stage) (l : Lineage) : Event → Lineage
  | .command text =>
    match Statement.parse text with
    | .error _ => l
    | .ok s =>
      if s.kind.isQuery then l
      else
        match (st.session.after s).save st.files with
        | .ok _ => ⟨l.current ++ [s], l.current ++ [s]⟩
        | .error _ => ⟨l.current ++ [s], l.saved⟩
  | .restart => ⟨if file.isSome then l.saved else [], l.saved⟩

variable {file : Option SnapshotFile} {st : Stage} {text : String} {s : Statement}

lemma step_unparsed (l : Lineage) {failure : Failure} (hp : Statement.parse text = .error failure) :
    l.step file st (.command text) = l := by
  simp only [step, hp]

lemma step_query (l : Lineage) (hp : Statement.parse text = .ok s)
    (hq : s.kind.isQuery = true) : l.step file st (.command text) = l := by
  simp only [step, hp, hq, if_true]

lemma step_saved (l : Lineage) (hp : Statement.parse text = .ok s) (hq : s.kind.isQuery = false)
    {saved : Files} (hs : (st.session.after s).save st.files = .ok saved) :
    l.step file st (.command text) = ⟨l.current ++ [s], l.current ++ [s]⟩ := by
  simp only [step, hp, hq, Bool.false_eq_true, if_false, hs]

lemma step_unsaved (l : Lineage) (hp : Statement.parse text = .ok s) (hq : s.kind.isQuery = false)
    {failure : Failure} (hs : (st.session.after s).save st.files = .error failure) :
    l.step file st (.command text) = ⟨l.current ++ [s], l.saved⟩ := by
  simp only [step, hp, hq, Bool.false_eq_true, if_false, hs]

end Lineage

namespace History

variable {file : Option SnapshotFile} {files : Files} {h : History} {st : Stage} {l : Lineage}

/-- A run, and the statements behind its database. -/
def trace (file : Option SnapshotFile) (files : Files) (h : History) :
    Except SnapshotFile.OpenFault (Stage × Lineage) := do
  let s ← (Session.start file files).2
  h.foldlM (fun x e => do return (← x.1.step file e, x.2.step file x.1 e))
    (⟨s, files, []⟩, .empty)

lemma trace_concat (h : History) (e : Event) :
    trace file files (h ++ [e]) = (do
      let x ← trace file files h
      return (← x.1.step file e, x.2.step file x.1 e)) := by
  unfold trace
  cases (Session.start file files).2 with
  | error fault => rfl
  | ok s =>
    change (h ++ [e]).foldlM _ _ = (List.foldlM _ _ h >>= _)
    rw [List.foldlM_append]
    refine bind_congr fun x => ?_
    rw [List.foldlM_cons]
    cases x.1.step file e <;> rfl

/-- Every run has its statements. -/
lemma trace_of_run (hrun : h.run file files = .ok st) : ∃ l, h.trace file files = .ok (st, l) := by
  refine run_induction (P := fun h st => ∃ l, h.trace file files = .ok (st, l)) ?_ ?_ ?_ hrun
  · intro s hs
    refine ⟨.empty, ?_⟩
    rw [trace, hs]
    rfl
  · rintro h st text - ⟨l, hl⟩
    refine ⟨l.step file st (.command text), ?_⟩
    rw [trace_concat, hl]
    rfl
  · rintro h st s - ⟨l, hl⟩ hs
    refine ⟨l.step file st .restart, ?_⟩
    rw [trace_concat, hl]
    change (do return (← Stage.step file st .restart, _)) = _
    rw [Stage.step, hs]
    rfl

end History

/-! ### What holds after every run -/

/-- A session whose database, and that in its file, come from the statements behind them. -/
structure Stage.Tracked (file : Option SnapshotFile) (st : Stage) (l : Lineage) : Prop where
  same_file : st.session.file = file
  formed : st.database.Formed Value.Plain
  follows : st.database.Follows l.current
  saved : ∀ f ∈ file, f.Absent st.files ∨
    ∃ db, f.Holds st.files db ∧ db.Storable ∧ db.Formed Value.Plain ∧ db.Follows l.saved

namespace Stage

variable {file : Option SnapshotFile} {files : Files} {st : Stage} {l : Lineage}
  {answers : List (Except Failure Answer)}

/-- Where there is nothing to be read, a session starts with an empty database. -/
lemma tracked_start {s : Session} (ha : ∀ f ∈ file, f.Absent files)
    (hs : (Session.start file files).2 = .ok s) (l : Lineage) :
    Tracked file ⟨s, files, answers⟩ l := by
  have hdb : s.database = .empty := database_start ha hs
  have hfile : s.file = file := by
    cases file with
    | none =>
      cases hs
      rfl
    | some f => rw [SnapshotFile.start_absent (ha f rfl) hs]
  exact ⟨hfile, by rw [Stage.database, hdb]; exact Database.formed_empty,
    by rw [Stage.database, hdb]; exact Database.follows_empty _, fun f hf => .inl (ha f hf)⟩

lemma Tracked.restart (h : st.Tracked file l) {s : Session}
    (hs : (Session.start file st.files).2 = .ok s) :
    Tracked file { st with session := s } (l.step file st .restart) := by
  cases file with
  | none => exact tracked_start (by simp) hs _
  | some f =>
    rcases f.absent_or_name st.files with ha | hn
    · exact tracked_start (by simpa using ha) hs _
    · rcases h.saved f rfl with ha | ⟨db, hh, hstorable, hformed, hfollows⟩
      · exact tracked_start (by simpa using ha) hs _
      · obtain ⟨hfile, -, hcontent⟩ := SnapshotFile.start_holds hn hh hstorable hs
        refine ⟨hfile, hformed.congr hcontent.symm,
          hfollows.congr (Database.alike_of_content hcontent.symm), ?_⟩
        rintro g ⟨⟩
        exact .inr ⟨db, hh, hstorable, hformed, hfollows⟩

lemma Tracked.execute (h : st.Tracked file l) (text : String) :
    (st.execute text).Tracked file (l.step file st (.command text)) := by
  unfold Stage.execute Stage.reply
  cases hp : Statement.parse text with
  | error failure =>
    rw [Session.execute_unparsed hp, l.step_unparsed hp]
    exact ⟨h.same_file, h.formed, h.follows, h.saved⟩
  | ok s =>
    have hformed : (st.database.execute s).database.Formed Value.Plain :=
      h.formed.execute ColumnType.casts_plain trivial (fun _ _ => trivial)
        (Statement.supplies_plain hp)
    have hfollows : (st.database.execute s).database.Follows (l.current ++ [s]) :=
      h.follows.execute s
    cases hq : s.kind.isQuery with
    | true =>
      rw [Session.execute_query hp hq, l.step_query hp hq]
      exact ⟨h.same_file, h.formed, h.follows, h.saved⟩
    | false =>
      cases hs : (st.session.after s).save st.files with
      | error failure =>
        rw [Session.execute_unsaved hp hq hs, l.step_unsaved hp hq hs]
        exact ⟨h.same_file, hformed, hfollows, h.saved⟩
      | ok saved =>
        rw [Session.execute_saved hp hq hs, l.step_saved hp hq hs]
        refine ⟨h.same_file, hformed, hfollows, fun f hf => .inr ?_⟩
        rw [Session.save_after (h.same_file.trans hf)] at hs
        obtain ⟨hh, hstorable⟩ := SnapshotFile.holds_of_write hs hformed
        exact ⟨_, hh, hstorable, hformed, hfollows⟩

end Stage

/-- **After every run the tables are what the statements behind them make.** -/
theorem History.tracked_trace {file : Option SnapshotFile} {files : Files} {h : History}
    {st : Stage} {l : Lineage} (ha : ∀ f ∈ file, f.Absent files)
    (ht : h.trace file files = .ok (st, l)) : st.Tracked file l := by
  induction h using List.reverseRecOn generalizing st l with
  | nil =>
    obtain ⟨s, hs, hst⟩ := bind_eq_ok.1 ht
    cases hst
    exact Stage.tracked_start ha hs _
  | append_singleton h e ih =>
    rw [trace_concat] at ht
    obtain ⟨⟨mid, k⟩, hmid, ht⟩ := bind_eq_ok.1 ht
    obtain ⟨after, hafter, hst⟩ := bind_eq_ok.1 ht
    cases hst
    cases e with
    | command text =>
      cases hafter
      exact (ih hmid).execute text
    | restart =>
      obtain ⟨s, hs, hst⟩ := bind_eq_ok.1 hafter
      cases hst
      exact (ih hmid).restart hs

/-- After every run, however long, the database is of the right form and its cells are plain. -/
lemma History.formed_run {file : Option SnapshotFile} {files : Files} {h : History} {st : Stage}
    (ha : ∀ f ∈ file, f.Absent files) (hrun : h.run file files = .ok st) :
    st.database.Formed Value.Plain := by
  obtain ⟨l, hl⟩ := trace_of_run hrun
  exact (tracked_trace ha hl).formed

/-- After every run, however long, tables and indexes share their records. -/
lemma History.coherent_run {file : Option SnapshotFile} {files : Files} {h : History} {st : Stage}
    (ha : ∀ f ∈ file, f.Absent files) (hrun : h.run file files = .ok st) :
    st.database.Coherent := by
  refine run_induction (P := fun _ st => st.database.Coherent) ?_ ?_ ?_ hrun
  · intro s hs
    rw [Stage.database, Stage.database_start ha hs]
    exact Database.coherent_empty
  · intro h st text hrun ih
    have hformed := formed_run ha hrun
    cases hp : Statement.parse text with
    | error failure =>
      rw [Stage.execute, Stage.reply, Session.execute_unparsed hp]
      exact ih
    | ok s =>
      change (st.session.execute st.files text).session.database.Coherent
      rw [Session.database_execute hp]
      exact ih.step hformed.tableNames
        (Database.step_execute (fun e he => (hformed.indexes e he).column) s)
  · intro h st s hrun _ hs
    obtain ⟨l, hl⟩ := trace_of_run hrun
    have htracked := tracked_trace ha hl
    cases file with
    | none =>
      cases hs
      exact Database.coherent_empty
    | some f =>
      have hempty (habsent : f.Absent st.files) : s.database.Coherent := by
        rw [Stage.database_start (by simpa using habsent) hs]
        exact Database.coherent_empty
      rcases f.absent_or_name st.files with habsent | hname
      · exact hempty habsent
      · rcases htracked.saved f rfl with habsent | ⟨db, hholds, hstorable, -, -⟩
        · exact hempty habsent
        · exact Database.coherent_of_database?
            (SnapshotFile.start_holds hname hholds hstorable hs).2.1

end Tabula
