import Tabula.Proofs.Database.Joined
import Tabula.Proofs.Session.Lookup
import Tabula.Proofs.Session.Made

/-!
Joins, over whole runs.

Whatever has led to a database, the names of its tables have no points in them and its rows have no
cell twice. So a join of two tables answers with exactly the rows of its pairs.
-/

namespace Tabula

namespace History

variable {file : Option SnapshotFile} {files : Files} {h : History} {st : Stage}
  {left right a b : String} {t u : Table}

lemma point_notMem_run (ha : ∀ f ∈ file, f.Absent files) (hrun : h.run file files = .ok st)
    {name : String} (ht : st.database.table? name = some t) : '.' ∉ name.toList := by
  have hmade := made_run ha hrun name (Database.mem_names.2 ⟨t, ht⟩)
  exact hmade.isWord.point_notMem

/-- **A join loses, invents and mixes nothing.** Where the cells of its operands can be compared, it
answers with the rows of its pairs, in whatever order the operands are; both rows of a pair can be
read off its row; and from the other table the answer is the same, but for the order. -/
theorem joined_rows (ha : ∀ f ∈ file, f.Absent files) (hrun : h.run file files = .ok st)
    (hne : left ≠ right) (ht : st.database.table? left = some t)
    (hu : st.database.table? right = some u) (hc : Comparable a b t.rows u.rows) :
    let rows := (matching a b t.rows u.rows).map (Row.joined left right)
    (∀ text s, Statement.parse text = .ok s → s.Joins left right a b →
      (st.reply text).outcome = .ok (.rows rows)) ∧
    (∀ p ∈ matching a b t.rows u.rows, Row.JoinOf left right p (Row.joined left right p)) ∧
    ∀ text s, Statement.parse text = .ok s → s.Joins right left b a →
      ∃ others, (st.reply text).outcome = .ok (.rows others) ∧ SameRows others rows := by
  have hl := point_notMem_run ha hrun ht
  have hr := point_notMem_run ha hrun hu
  have hformed := formed_run ha hrun
  have hft := hformed.table ht
  have hfu := hformed.table hu
  refine ⟨fun text s hp hs => ?_, fun p hp => ?_, fun text s hp hs => ?_⟩
  · rw [Stage.outcome_query hp hs.isQuery]
    exact Database.execute_joins hs hl hr hne ht hu hft hfu hc
  · exact Database.joinOf_of_mem hl hr hne hft hfu hp
  · refine ⟨(matching b a u.rows t.rows).map (Row.joined right left), ?_, sameRows_swap ..⟩
    rw [Stage.outcome_query hp hs.isQuery]
    exact Database.execute_joins hs hr hl hne.symm hu ht hfu hft hc.swap

/-- A number in one table, and text that spells it in the other. -/
def oneJoin : History :=
  [.command "CREATE TABLE l (a INTEGER)", .command "CREATE TABLE r (b)",
    .command "INSERT INTO l (a) VALUES (1)", .command "INSERT INTO r (b) VALUES ('1')"]

def numbers : Table where
  columns := [⟨.text "a", .text "INTEGER"⟩]
  constraints := ⟨.null, []⟩
  records := [⟨0, [(.name "a", .int 1)]⟩]
  counter := 1

def spellings : Table where
  columns := [⟨.text "b", .text ""⟩]
  constraints := ⟨.null, []⟩
  records := [⟨1, [(.name "b", .text "1")]⟩]
  counter := 1

lemma run_oneJoin : ∃ st, run none [] oneJoin = .ok st ∧
    st.session = ⟨none, ⟨[("l", numbers), ("r", spellings)], [], 2⟩⟩ := by
  have hleft : Statement.parse "CREATE TABLE l (a INTEGER)" =
      .ok (.createTable "l" [⟨"a", "INTEGER", false, false⟩]) := by decide +kernel
  have hright : Statement.parse "CREATE TABLE r (b)" =
      .ok (.createTable "r" [⟨"b", "", false, false⟩]) := by decide +kernel
  have hnumber : Statement.parse "INSERT INTO l (a) VALUES (1)" =
      .ok (.insert "l" ["a"] [.int 1]) := by decide +kernel
  have hspelling : Statement.parse "INSERT INTO r (b) VALUES ('1')" =
      .ok (.insert "r" ["b"] [.text "1"]) := by decide +kernel
  obtain ⟨st, hrun, hsession⟩ := run_inMemory (run_inMemory (run_inMemory
    (run_inMemory run_inMemory_nil hleft) hright) hnumber) hspelling
  refine ⟨st, hrun, hsession.trans (congrArg (Session.mk none) ?_)⟩
  decide +kernel

theorem joined_rows_oneJoin :
    ∃ st, run none [] oneJoin = .ok st ∧
      (st.reply "SELECT * FROM l JOIN r ON r.b = l.a").outcome =
        .ok (.rows [[(.name "l.a", .int 1), (.name "r.b", .text "1")]]) := by
  obtain ⟨st, hrun, hsession⟩ := run_oneJoin
  have hdatabase : st.database = ⟨[("l", numbers), ("r", spellings)], [], 2⟩ :=
    congrArg Session.database hsession
  have hl : st.database.table? "l" = some numbers := by
    rw [hdatabase]
    rfl
  have hr : st.database.table? "r" = some spellings := by
    rw [hdatabase]
    rfl
  have hequal : (Value.int 1).looselyEqual (.text "1") = .ok true := by decide +kernel
  have hcomparable : Comparable "a" "b" numbers.rows spellings.rows := by
    intro l hl r hr
    obtain rfl := List.mem_singleton.1 hl
    obtain rfl := List.mem_singleton.1 hr
    exact ⟨true, hequal⟩
  have hp : Statement.parse "SELECT * FROM l JOIN r ON r.b = l.a" =
      .ok (.select "l" none (some ⟨"r", ⟨some "r", "b"⟩, ⟨some "l", "a"⟩⟩) none) := by
    decide +kernel
  obtain ⟨hrows, -, -⟩ := joined_rows (by simp) hrun (by decide) hl hr hcomparable
  refine ⟨st, hrun, (hrows _ _ hp .exchanged).trans ?_⟩
  have hmatching : matching "a" "b" numbers.rows spellings.rows =
      [([(.name "a", .int 1)], [(.name "b", .text "1")])] := by
    decide +kernel
  rw [hmatching]
  decide

end History

end Tabula
