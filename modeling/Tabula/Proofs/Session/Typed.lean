import Tabula.Proofs.Session.Lineage

/-!
Cells keep the types of their columns.

Over a whole run, restarts included, no cell of a table is a truth value or one that is no number.
And the cells of a table that no update has touched since it was created are NULL or of the types of
their columns, keys from the counter aside.
-/

namespace Tabula

namespace History

variable {file : Option SnapshotFile} {files : Files} {h : History} {st : Stage}

/-- **Cells keep the types of their columns.** The statements behind a table are those of the
lineage of the run; with fewer commands than a counter can count, they are those of the run. -/
theorem cells_run (ha : ∀ f ∈ file, f.Absent files) (hrun : h.run file files = .ok st) :
    (∀ e ∈ st.database.tables, ∀ r ∈ e.2.records, ∀ c ∈ r.row,
      (∀ b, c.2 ≠ .bool b) ∧ ∀ payload, c.2 ≠ .real (.nan payload)) ∧
    (∃ l, h.trace file files = .ok (st, l) ∧ ∀ name t, st.database.table? name = some t →
      (∀ s ∈ l.current.since name, s.updates name = false) → l.current.Types name t) ∧
    (h.commands.length < 10 ^ digitLimit → ∀ name t, st.database.table? name = some t →
      (∀ s ∈ h.sinceCreated name, s.updates name = false) → Log.Types h.statements name t) := by
  obtain ⟨l, hl⟩ := trace_of_run hrun
  have htracked := tracked_trace ha hl
  refine ⟨fun e he r hr c hc => ?_, ⟨l, hl, fun name t ht hu => ?_⟩, fun hn name t ht hu => ?_⟩
  · exact Value.plain_iff.1 (((htracked.formed.tables e he).rows r hr).cells c hc)
  · exact htracked.follows.types ht hu
  · exact (follows_run ha hn hrun).types ht hu

theorem cells_run_oneDraw :
    ∃ st, run none [] oneDraw = .ok st ∧ st.database.table? "t" = some drawnRow ∧
      Log.Types oneDraw.statements "t" drawnRow := by
  obtain ⟨st, hrun, hsession⟩ := run_oneDraw
  have ht : st.database.table? "t" = some drawnRow := by
    rw [Stage.database, hsession]
    rfl
  have hshort : oneDraw.commands.length < 10 ^ digitLimit :=
    lt_pow_digitLimit (by decide)
  have hsince : ∀ s ∈ oneDraw.sinceCreated "t", s.updates "t" = false := by
    rw [sinceCreated, statements_oneDraw]
    decide
  obtain ⟨-, -, htypes⟩ := cells_run (by simp) hrun
  exact ⟨st, hrun, ht, htypes hshort "t" drawnRow ht hsince⟩

end History

end Tabula
