import Tabula.Proofs.Database.Filed
import Tabula.Proofs.Session.Lineage
import Tabula.Proofs.Session.Lookup
import Tabula.Proofs.Session.Update

/-!
An index never loses a row of its table.

As long as a session is not started again, its database is what the statements of the run make of
the empty one, whether or not they fail and whether or not the snapshot can be written. So every
index has the records filed that its table had when the index was created for the last time, and
those that have been added since.
-/

namespace Tabula

lemma Value.Plain.not_isNaN {v : Value} (h : v.Plain) : ¬ v.IsNaN := by
  unfold IsNaN
  split
  · exact fun _ => h
  · exact id

namespace History

variable {file : Option SnapshotFile} {files : Files} {h : History} {st : Stage}

lemma run_append (h k : History) :
    run file files (h ++ k) = run file files h >>= fun st => k.foldlM (Stage.step file) st := by
  induction k using List.reverseRecOn with
  | nil =>
    rw [List.append_nil]
    cases run file files h <;> rfl
  | append_singleton k e ih =>
    rw [← List.append_assoc, run_concat, ih]
    cases run file files h with
    | error fault => rfl
    | ok st =>
      change k.foldlM _ st >>= _ = (k ++ [e]).foldlM _ st
      rw [List.foldlM_append]
      refine bind_congr fun mid => ?_
      rw [List.foldlM_cons]
      cases mid.step file e <;> rfl

/-- A run has got through every first part of its history. -/
lemma exists_run_of_append {k : History} (hrun : run file files (h ++ k) = .ok st) :
    ∃ mid, h.run file files = .ok mid := by
  rw [run_append] at hrun
  obtain ⟨mid, hmid, -⟩ := bind_eq_ok.1 hrun
  exact ⟨mid, hmid⟩

/-- A statement of a history comes from one of its commands. -/
lemma statements_eq_append {before since : Log} {s : Statement}
    (hs : h.statements = before ++ s :: since) :
    ∃ first text last, h = first ++ .command text :: last ∧ statements first = before ∧
      Statement.parse text = .ok s ∧ statements last = since := by
  rw [statements, commands, List.filterMap_filterMap, List.filterMap_eq_append_iff] at hs
  obtain ⟨first, rest, rfl, hfirst, hrest⟩ := hs
  obtain ⟨blank, e, last, rfl, hblank, he, hlast⟩ := List.filterMap_eq_cons_iff.1 hrest
  cases e with
  | restart => cases he
  | command text =>
    have hp : Statement.parse text = .ok s := by
      change (Statement.parse text).toOption = some s at he
      cases hparse : Statement.parse text with
      | error failure =>
        rw [hparse] at he
        cases he
      | ok q =>
        rw [hparse] at he
        cases he
        rfl
    refine ⟨first ++ blank, text, last, by simp, ?_, hp, ?_⟩
    · rw [statements, commands, List.filterMap_filterMap, List.filterMap_append, hfirst,
        List.filterMap_eq_nil_iff.2 hblank, List.append_nil]
    · rw [statements, commands, List.filterMap_filterMap, hlast]

lemma statements_append (h k : History) :
    statements (h ++ k) = statements h ++ statements k := by
  simp [statements, commands]

/-- Without restarts, the database is what the statements make of the empty one. -/
lemma database_run (ha : ∀ f ∈ file, f.Absent files) (hr : .restart ∉ h)
    (hrun : h.run file files = .ok st) : st.database = Database.empty.replay h.statements := by
  refine run_induction (P := fun h st => .restart ∉ h →
    st.database = Database.empty.replay h.statements) ?_ ?_ ?_ hrun hr
  · intro s hs _
    exact Stage.database_start ha hs
  · intro h st text _ ih hr
    have hdb := ih fun hm => hr (List.mem_append_left _ hm)
    unfold Stage.execute Stage.reply
    cases hp : Statement.parse text with
    | error failure =>
      rw [Session.execute_unparsed hp, statements_unparsed hp]
      exact hdb
    | ok s =>
      rw [Stage.database, Session.database_execute hp, statements_parsed hp,
        Database.replay_concat, ← hdb]
  · intro h st s _ _ _ hr
    exact absurd (List.mem_append_right _ (List.mem_singleton_self _)) hr

/-- The names in a statement of a history that creates an index have no points in them. -/
lemma point_notMem_of_createIndex {index name column : String}
    (hs : .createIndex index name column ∈ h.statements) :
    '.' ∉ name.toList ∧ '.' ∉ column.toList := by
  obtain ⟨text, -, hp⟩ := mem_statements.1 hs
  obtain ⟨hname, hcolumn⟩ := Statement.isWord_of_createIndex hp
  exact ⟨hname.point_notMem, hcolumn.point_notMem⟩

/-- **An index never loses a row of its table**, in memory or with a file, as long as the session is
not started again. It has been created for the last time by some command of the run. Since then it
has every record that the table had or has been given: the records of the table are in it once, as
they are now, every record is under the value that its cell had when it was filed, and the index
counts what there was and what has been added, whatever has been changed or taken away. Insertions
count as they are answered, unless the snapshot could not be written after them. -/
theorem entries_run (ha : ∀ f ∈ file, f.Absent files) (hr : .restart ∉ h)
    (hrun : h.run file files = .ok st) {key : String} {i : Index}
    (hi : st.database.index? key = some i) :
    ∃ before text after index name column created t₁ t,
      h = before ++ .command text :: after ∧
      Statement.parse text = .ok (.createIndex index name column) ∧
      (∀ another, .createIndex another name column ∉ statements after) ∧
      key = Index.keyOf name column ∧ i.table = .text name ∧ i.column = .text column ∧
      run file files (before ++ [.command text]) = .ok created ∧
      created.database.table? name = some t₁ ∧ st.database.table? name = some t ∧
      (∀ r ∈ t.records, i.records.filter (·.id == r.id) = [r]) ∧
      (let filed := t₁.records ++ created.database.added name (statements after);
        (filed.map (·.id)).Nodup ∧ ∀ e ∈ i.entries, ∀ r ∈ e.2, ∃ q ∈ filed, q.id = r.id ∧
          e.1.equals (Row.cell q.row column) = true) ∧
      i.size = t₁.records.length + created.database.successes name (statements after) ∧
      ∀ first command last mid s, after = first ++ .command command :: last →
        run file files (before ++ .command text :: first) = .ok mid →
        Statement.parse command = .ok s →
        mid.database = created.database.replay (statements first) ∧
        ((mid.reply command).outcome = (mid.database.execute s).outcome ∨
          ∃ failure, (mid.session.after s).save mid.files = .error failure) := by
  have hdb := database_run ha hr hrun
  rw [hdb] at hi ⊢
  obtain ⟨before, index, name, column, since, t₁, t, hlog, hkey, hsince, ht₁, hfiled⟩ :=
    Database.filed_replay (fun _ _ _ => point_notMem_of_createIndex) hi
  obtain ⟨first, text, last, rfl, rfl, hp, rfl⟩ := statements_eq_append hlog
  have hrest : .restart ∉ first ∧ .restart ∉ last := by simpa using hr
  have hcreated : ∃ created, run file files (first ++ [.command text]) = .ok created := by
    rw [← List.singleton_append, ← List.append_assoc] at hrun
    exact exists_run_of_append hrun
  obtain ⟨created, hcreated⟩ := hcreated
  have hcdb : created.database =
      Database.empty.replay (statements first ++ [.createIndex index name column]) := by
    rw [← statements_parsed hp]
    exact database_run ha (by simpa using hrest.1) hcreated
  rw [← hcdb] at ht₁ hfiled
  obtain ⟨hshown, hcells, hsize⟩ := hfiled.shows (Database.coherent_replay _)
  refine ⟨first, text, last, index, name, column, created, t₁, t, rfl, hp, hsince, hkey,
    hfiled.named.1, hfiled.named.2, hcreated, ht₁, hfiled.table, hshown,
    ⟨hfiled.nodup, fun e he r hr => ?_⟩, ?_, ?_⟩
  · obtain ⟨l, hl⟩ := trace_of_run hrun
    have hplain := (hdb ▸ (tracked_trace ha hl).formed).indexes _ (Database.mem_of_index? hi)
    obtain ⟨q, hq, hid, hsame⟩ := hcells e he r hr
    exact ⟨q, hq, hid, (Value.sameKey_eq_equals (hplain.keys e he).not_isNaN _).symm.trans hsame⟩
  · rw [hsize, List.length_append, Database.length_added (hcdb ▸ Database.formed_replay _)]
  · rintro before command after mid s rfl hmid hcommand
    have hbefore : .restart ∉ before := fun hm => hrest.2 (List.mem_append_left _ hm)
    refine ⟨?_, Session.outcome_execute_cases hcommand⟩
    rw [database_run ha (by simpa using ⟨hrest.1, hbefore⟩) hmid, hcdb, ← Database.replay_append,
      ← statements_parsed hp, ← statements_append, List.append_assoc, List.singleton_append]

/-- A table, an index of it, and a row that is changed after it was filed. -/
def changedRow : History :=
  [.command "CREATE TABLE t (a)", .command "CREATE INDEX i ON t (a)",
    .command "INSERT INTO t (a) VALUES (1)", .command "UPDATE t SET a = 2 WHERE a = 1"]

/-- The row is found under the value that it had. -/
theorem entries_run_changedRow :
    ∃ st i t, run none [] changedRow = .ok st ∧
      st.database.index? (Index.keyOf "t" "a") = some i ∧ st.database.table? "t" = some t ∧
      t.records = [⟨0, [(.name "a", .int 2)]⟩] ∧ i.values = [.text "1"] ∧
      ∀ r ∈ t.records, i.records.filter (·.id == r.id) = [r] := by
  have hcreated := run_inMemory run_inMemory_nil Statement.parse_createTable
  obtain ⟨st, hrun, hsession⟩ := run_inMemory (run_inMemory (run_inMemory hcreated
    parse_createIndex) parse_insertOne) Statement.parse_update
  have hindex : st.database.index? (Index.keyOf "t" "a") = some
      ⟨.text "i", .text "t", .text "a", [(.text "1", [⟨0, [(.name "a", .int 2)]⟩])]⟩ := by
    rw [Stage.database, hsession]
    decide +kernel
  have htable : st.database.table? "t" = some
      ⟨[⟨.text "a", .text ""⟩], ⟨.null, []⟩, [⟨0, [(.name "a", .int 2)]⟩], 1⟩ := by
    rw [Stage.database, hsession]
    decide +kernel
  obtain ⟨_, _, _, _, name, column, _, _, t, -, -, -, hkey, hi, hc, -, -, ht, hshown, -⟩ :=
    entries_run (by simp) (by decide) hrun hindex
  cases hi
  cases htable.symm.trans ht
  exact ⟨st, _, _, hrun, hindex, ht, rfl, rfl, hshown⟩

end History

end Tabula
