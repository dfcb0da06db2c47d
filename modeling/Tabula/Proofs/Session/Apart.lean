import Tabula.Proofs.Database.Apart
import Tabula.Proofs.Session.Effect
import Tabula.Proofs.Session.Joined
import Tabula.Proofs.Session.Lineage

/-!
Statements on different tables commute, over whole runs.
-/

namespace Tabula

namespace History

variable {file : Option SnapshotFile} {files : Files} {h : History} {st : Stage}
  {name other first second : String} {s q : Statement}

/-- **Statements on different tables commute.** Whichever of the two comes first, each ends as it
would without the other, and the databases after both are the same up to the identities of the
records, so they have the same content. So do the commands end, unless a snapshot cannot be written;
with fewer commands than a counter can count, they are answered alike even then. -/
theorem statements_commute (ha : ∀ f ∈ file, f.Absent files) (hrun : h.run file files = .ok st)
    (hne : name ≠ other) (hs : s.Concerns name) (hq : q.Concerns other)
    (hfirst : Statement.parse first = .ok s) (hsecond : Statement.parse second = .ok q) :
    ((st.execute second).database.execute s).outcome = (st.database.execute s).outcome ∧
    ((st.execute first).database.execute q).outcome = (st.database.execute q).outcome ∧
    (∃ σ : Equiv.Perm ℕ, ((st.execute second).execute first).database =
      ((st.execute first).execute second).database.rename σ) ∧
    ((st.execute second).execute first).database.content =
      ((st.execute first).execute second).database.content ∧
    (∀ (mid : Stage) text r, Statement.parse text = .ok r →
      (mid.reply text).outcome = (mid.database.execute r).outcome ∨
        ∃ failure, (mid.session.after r).save mid.files = .error failure) ∧
    (h.commands.length + 2 < 10 ^ digitLimit →
      ((st.execute second).reply first).outcome = (st.reply first).outcome ∧
      ((st.execute first).reply second).outcome = (st.reply second).outcome) := by
  have hformed := formed_run ha hrun
  obtain ⟨-, hs', -, hq', σ, hσ⟩ := (coherent_run ha hrun).execute_comm hformed.tableNames
    (fun e he => (hformed.indexes e he).column) hne hs hq
  have hboth : ((st.execute second).execute first).database =
      ((st.execute first).execute second).database.rename σ := by
    rw [Stage.database_execute hfirst, Stage.database_execute hsecond,
      Stage.database_execute hsecond, Stage.database_execute hfirst, hσ]
  rw [Stage.database_execute hfirst, Stage.database_execute hsecond]
  refine ⟨hs', hq', ⟨σ, hboth⟩, by rw [hboth, Database.content_rename],
    fun mid text r hp => Session.outcome_execute_cases hp, fun hn => ?_⟩
  have hst := sound_run ha (by omega) hrun
  have hfirst' := hst.execute (by omega) first
  have hsecond' := hst.execute (by omega) second
  rw [hsecond'.outcome_reply hn hfirst, hst.outcome_reply (by omega) hfirst,
    hfirst'.outcome_reply hn hsecond, hst.outcome_reply (by omega) hsecond,
    Stage.database_execute hfirst, Stage.database_execute hsecond, hs', hq']
  exact ⟨rfl, rfl⟩

/-- Two insertions that both add a record. -/
theorem statements_commute_oneJoin :
    ∃ st, run none [] oneJoin = .ok st ∧
      ((st.execute "INSERT INTO r (b) VALUES (2)").database.execute
        (.insert "l" ["a"] [.text "x"])).outcome = .ok (.done .inserted) ∧
      ∃ σ : Equiv.Perm ℕ,
        ((st.execute "INSERT INTO r (b) VALUES (2)").execute
          "INSERT INTO l (a) VALUES (x)").database =
        ((st.execute "INSERT INTO l (a) VALUES (x)").execute
          "INSERT INTO r (b) VALUES (2)").database.rename σ := by
  obtain ⟨st, hrun, hsession⟩ := run_oneJoin
  have hl : Statement.parse "INSERT INTO l (a) VALUES (x)" =
      .ok (.insert "l" ["a"] [.text "x"]) := by decide +kernel
  have hr : Statement.parse "INSERT INTO r (b) VALUES (2)" =
      .ok (.insert "r" ["b"] [.int 2]) := by decide +kernel
  have hinserted : (Database.execute ⟨[("l", numbers), ("r", spellings)], [], 2⟩
      (.insert "l" ["a"] [.text "x"])).outcome = .ok (.done .inserted) := by
    decide +kernel
  obtain ⟨houtcome, -, hσ, -⟩ :=
    statements_commute (s := .insert "l" ["a"] [.text "x"]) (q := .insert "r" ["b"] [.int 2])
      (by simp) hrun (by decide : "l" ≠ "r") rfl rfl hl hr
  refine ⟨st, hrun, houtcome.trans ?_, hσ⟩
  rw [Stage.database, hsession]
  exact hinserted

end History

end Tabula
