import Tabula.Proofs.Database.Matching
import Tabula.Proofs.Session.Lineage
import Tabula.Proofs.Session.Update

/-!
Queries, updates and deletions of the same rows, over whole runs.
-/

namespace Tabula

/-- A command does what its statement does. A query is answered, and any other unless a snapshot
cannot be written. An update assigns to no column twice. -/
lemma Stage.does_statement {st : Stage} {text : String} {s : Statement}
    (hp : Statement.parse text = .ok s) :
    (st.execute text).database = (st.database.execute s).database ∧
      (s.kind.isQuery = true → (st.reply text).outcome = (st.database.execute s).outcome) ∧
      ((st.reply text).outcome = (st.database.execute s).outcome ∨
        ∃ failure, (st.session.after s).save st.files = .error failure) ∧
      ∀ name assignments c, s = .update name assignments c →
        Keyed.Distinct (Keyed.keys assignments) := by
  refine ⟨database_execute hp, outcome_query hp, Session.outcome_execute_cases hp, ?_⟩
  rintro name assignments c rfl
  exact Statement.distinct_of_update hp

/-- The chosen rows have been answered, and are in the answer as they were. The records that they
are from have the assigned cells by now, in the table and in every index that shares them. -/
structure Stage.AnswerApart (later : Stage) (name : String) (t : Table)
    (assignments : List (String × Value)) (c : Condition) : Prop where
  answer : .ok (.rows (c.chosen t.rows)) ∈ later.answers
  table : ∃ u, later.database.table? name = some u ∧ ∀ r ∈ t.records, c.holds r.row = .ok true →
    { r with row := Keyed.merge r.row (Row.cellsOf assignments) } ∈ u.records
  indexes : ∀ r ∈ t.records, c.holds r.row = .ok true →
    ∀ i ∈ later.database.indexes, ∀ q ∈ i.2.records, q.id = r.id →
      q.row = Keyed.merge r.row (Row.cellsOf assignments)

namespace History

variable {file : Option SnapshotFile} {files : Files} {h : History} {st : Stage}
  {name : String} {t : Table} {c : Condition}

/-- What has been answered is not shared with the table, unlike what an index has. -/
lemma answerApart_run (ha : ∀ f ∈ file, f.Absent files) (hrun : h.run file files = .ok st)
    (ht : st.database.table? name = some t) (hc : c.Decides t.rows) {query text : String}
    {assignments : List (String × Value)}
    (hq : Statement.parse query = .ok (.select name none none (some c)))
    (hp : Statement.parse text = .ok (.update name assignments c)) :
    ((st.execute query).execute text).AnswerApart name t assignments c := by
  have hkept : (st.database.execute (.select name none none (some c))).database = st.database :=
    Database.execute_query (s := .select name none none (some c)) rfl _
  have hdatabase : ((st.execute query).execute text).database =
      (st.database.execute (.update name assignments c)).database := by
    rw [Stage.database_execute hp, Stage.database_execute hq, hkept]
  have hupdates := Database.execute_update ht ((formed_run ha hrun).table ht) hc
    (Statement.distinct_of_update hp)
  have hcoherent := coherent_run ha (run_command (run_command hrun query) text)
  have htable := hupdates.table
  rw [← hdatabase] at htable
  have hchanged : ∀ r ∈ t.records, c.holds r.row = .ok true →
      { r with row := Keyed.merge r.row (Row.cellsOf assignments) } ∈ t.records.map fun r =>
        if c.holds r.row = .ok true then
          { r with row := Keyed.merge r.row (Row.cellsOf assignments) }
        else r :=
    fun r hr hmatched => List.mem_map.2 ⟨r, hr, if_pos hmatched⟩
  refine ⟨?_, ⟨_, htable, hchanged⟩, fun r hr hmatched i hi q hqi hid => ?_⟩
  · have hanswer : (st.reply query).outcome = .ok (.rows (c.chosen t.rows)) :=
      (Stage.outcome_query hq rfl).trans (Database.execute_select ht hc)
    refine List.mem_append_left _ (List.mem_append_right _ ?_)
    rw [hanswer]
    exact List.mem_singleton_self _
  · rw [hcoherent.agree _ (Database.mem_of_table? htable) _ (hchanged r hr hmatched) i hi q hqi hid]

/-- What has been answered stays. -/
lemma answers_prefix {more : History} {later : Stage} (hrun : h.run file files = .ok st)
    (hmore : run file files (h ++ more) = .ok later) : st.answers <+: later.answers := by
  refine run_induction_from h (P := fun _ later => st.answers <+: later.answers) ?first ?command
    ?restart hmore
  case first =>
    intro st' hst'
    cases hrun.symm.trans hst'
    exact List.prefix_rfl
  case command =>
    intro _ mid text _ ih
    exact ih.trans (List.prefix_append _ _)
  case restart =>
    intro _ mid s _ ih _
    exact ih

/-- **A query, an update and a deletion are about the same rows.** Where the condition can be
decided, the query answers with the chosen rows; the update merges its cells into just these and
counts them, and executed again, even if it fails then, it changes no row; the deletion takes away
just these, and the query after it finds none. What was answered before stays as it was, also where
the records that it was read from are changed. -/
theorem same_rows (ha : ∀ f ∈ file, f.Absent files) (hrun : h.run file files = .ok st)
    (ht : st.database.table? name = some t) (hc : c.Decides t.rows) :
    (∀ text, Statement.parse text = .ok (.select name none none (some c)) →
      (st.reply text).session = st.session ∧
        (st.reply text).outcome = .ok (.rows (c.chosen t.rows))) ∧
    (∀ text assignments, Statement.parse text = .ok (.update name assignments c) →
      st.database.Updates name t assignments c
          (st.database.execute (.update name assignments c)) ∧
        ∀ other, ((st.execute text).execute text).database.rows? other =
          (st.execute text).database.rows? other) ∧
    (∀ text, Statement.parse text = .ok (.delete name c) →
      st.database.Deletes name t c (st.database.execute (.delete name c)) ∧
        ∀ query, Statement.parse query = .ok (.select name none none (some c)) →
          ((st.execute text).reply query).outcome = .ok (.rows [])) ∧
    (∀ text s, Statement.parse text = .ok s →
      (st.execute text).database = (st.database.execute s).database ∧
        ((st.reply text).outcome = (st.database.execute s).outcome ∨
          ∃ failure, (st.session.after s).save st.files = .error failure)) ∧
    (∀ query text assignments,
      Statement.parse query = .ok (.select name none none (some c)) →
        Statement.parse text = .ok (.update name assignments c) →
          ((st.execute query).execute text).AnswerApart name t assignments c) ∧
    ∀ more later, run file files (h ++ more) = .ok later → st.answers <+: later.answers := by
  have hformed := (formed_run ha hrun).table ht
  refine ⟨fun text hp => ⟨?_, ?_⟩, fun text assignments hp => ?_, fun text hp => ?_,
    fun text s hp => ⟨Stage.database_execute hp, Session.outcome_execute_cases hp⟩,
    fun query text assignments hq hp => answerApart_run ha hrun ht hc hq hp,
    fun more later hmore => answers_prefix hrun hmore⟩
  · rw [Stage.reply, Session.execute_query hp rfl]
  · exact (Stage.outcome_query hp rfl).trans (Database.execute_select ht hc)
  · have hassigned := Statement.distinct_of_update hp
    refine ⟨Database.execute_update ht hformed hc hassigned, fun other => ?_⟩
    rw [Stage.database_execute hp, Stage.database_execute hp]
    exact Database.rows?_update_update ht hc hassigned other
  · have hdeletes := Database.execute_delete ht hc
    refine ⟨hdeletes, fun query hq => ?_⟩
    rw [Stage.outcome_query hq rfl, Stage.database_execute hp]
    exact hdeletes.select_eq_nil hc

/-- Of the texts 1 and 2 the first is chosen, and not any more after the update. -/
theorem same_rows_twoTexts :
    ∃ st, run none [] (twoTexts ['2']) = .ok st ∧
      (st.database.execute (.update "t" [("a", .int 2)] isOne)).outcome =
        .ok (.done (.updated 1)) ∧
      ∀ other, ((st.execute "UPDATE t SET a = 2 WHERE a = 1").execute
          "UPDATE t SET a = 2 WHERE a = 1").database.rows? other =
        (st.execute "UPDATE t SET a = 2 WHERE a = 1").database.rows? other := by
  obtain ⟨st, hrun, hsession⟩ := @run_twoTexts ['2'] (by decide)
  have ht : st.database.table? "t" = some (twoRows (.text "1") ['2']) := by
    rw [Stage.database, hsession]
    rfl
  have htwo : isOne.holds [(.name "a", .text (String.ofList ['2']))] = .ok false := by
    decide +kernel
  have hdecides : isOne.Decides (twoRows (.text "1") ['2']).rows :=
    List.forall_mem_cons.2 ⟨⟨true, isOne_text_one⟩, List.forall_mem_singleton.2 ⟨false, htwo⟩⟩
  have hchosen : isOne.chosen (twoRows (.text "1") ['2']).rows = [[(.name "a", .text "1")]] := by
    decide +kernel
  obtain ⟨-, hupdate, -⟩ := same_rows (by simp) hrun ht hdecides
  obtain ⟨hupdates, hagain⟩ := hupdate _ _ Statement.parse_update
  have houtcome := hupdates.outcome
  rw [hchosen] at houtcome
  exact ⟨st, hrun, houtcome, hagain⟩

end History

end Tabula
