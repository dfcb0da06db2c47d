import Tabula.Proofs.Database.Log
import Tabula.Proofs.Session.Restart
import Tabula.Proofs.Table.Keys

/-!
Keys stay unique.

As long as no update assigns to the primary key or to a unique column of a table, its rows meet its
constraints, whatever else happens to them; and an insertion is refused just where the row would
break them.
-/

namespace Tabula

namespace Statement

/-- Whether a statement is an update that assigns to the primary key or to a unique column. -/
def AssignsKey (s : Statement) (name : String) (c : Constraints) : Prop :=
  ∃ assignments condition, s = .update name assignments condition ∧
    ∃ a ∈ assignments, c.Guards a.1

end Statement

namespace Database

variable {db after : Database} {s : Statement} {name : String} {t u : Table}

lemma table?_put (h : (db.putTable name u).table? n = some t) :
    (name = n ∧ t = u) ∨ db.table? n = some t := by
  rw [table?_putTable] at h
  split at h
  · rename_i hn
    cases h
    exact .inl ⟨hn, rfl⟩
  · exact .inr h

/-- A statement that does not create a table leaves it as constrained as it was; what is met stays
so. -/
lemma Step.met (hs : Step db s after) (hdb : db.Storable) (hc : s.creates name = false)
    (ht : after.table? name = some t) (hk : ¬ s.AssignsKey name t.constraints) :
    ∃ u, db.table? name = some u ∧ t.constraints = u.constraints ∧
      (u.constraints.Met u.rows → t.constraints.Met t.rows) := by
  cases hs with
  | same => exact ⟨t, ht, rfl, id⟩
  | create n defs =>
    rcases table?_put ht with ⟨hn, -⟩ | ht
    · simp [Statement.creates, hn] at hc
    · exact ⟨t, ht, rfl, id⟩
  | @refuse n u columns values hu =>
    rcases table?_put ht with ⟨rfl, rfl⟩ | ht
    · refine ⟨u, hu, u.spend_constraints, fun h => ?_⟩
      rwa [Table.rows, u.spend_records, u.spend_constraints]
    · exact ⟨t, ht, rfl, id⟩
  | @append n u key columns values row hu hkey hrow hfault =>
    rcases table?_put ht with ⟨rfl, rfl⟩ | ht
    · have hunique := (hdb.tables _ (mem_of_table? hu)).unique
      refine ⟨u, hu, u.spend_constraints, fun h => ?_⟩
      rw [Table.rows_concat]
      change (u.spend columns).constraints.Met _
      rw [u.spend_constraints]
      exact Table.met_of_fault? hkey hunique h hfault
    · exact ⟨t, ht, rfl, id⟩
  | @update n u assignments c hu =>
    rcases table?_put ht with ⟨rfl, rfl⟩ | ht
    · refine ⟨u, hu, rfl, fun h => ?_⟩
      refine Table.met_update c (hdb.tables _ (mem_of_table? hu)) h fun a ha hg => hk ?_
      exact ⟨assignments, c, rfl, a, ha, hg⟩
    · exact ⟨t, ht, rfl, id⟩
  | @delete n u c gone kept hu hpart =>
    rcases table?_put ht with ⟨rfl, rfl⟩ | ht
    · refine ⟨u, hu, rfl, fun h => ?_⟩
      obtain ⟨-, hkept⟩ := Condition.sublist_partition hpart
      exact h.sublist (hkept.map _)
    · exact ⟨t, ht, rfl, id⟩
  | index => exact ⟨t, ht, rfl, id⟩

/-- A new table has no rows. -/
lemma met_created {defs : List ColumnDeclaration}
    (ht : (db.putTable name (.ofColumns defs)).table? name = some t) :
    t.constraints.Met t.rows := by
  rw [table?_putTable, if_pos rfl] at ht
  cases ht
  exact .nil

/-- Databases with the same content have the same constraints met. -/
lemma met_congr {a b : Database} (hab : a.content = b.content) (ht : a.table? name = some t) :
    ∃ u, b.table? name = some u ∧ t.constraints = u.constraints ∧ t.rows = u.rows := by
  rcases (alike_of_content hab).table? name with ⟨hnone, -⟩ | ⟨v, u, hv, hu, halike⟩
  · rw [hnone] at ht
    cases ht
  · rw [hv] at ht
    cases ht
    exact ⟨u, hu, halike.constraints, halike.rows⟩

/-- Where the rows meet the constraints, an insertion is refused just if the new row would not. -/
lemma insert_exact (hdb : db.Storable) (ht : db.table? name = some t)
    (h : t.constraints.Met t.rows) {columns : List String} {values : List Value}
    {key : Option Label} {row : Row} (hk : t.constraints.key = .ok key)
    (hrow : (t.fill (t.startRow key columns).1 (columns.zip values)).2 = .ok row) :
    ((∃ l fault, (db.insert name columns values).outcome = .error (.primaryKey l fault)) ↔
      ¬ t.constraints.KeyMet (t.rows ++ [row])) ∧
    ((∃ l fault, (db.insert name columns values).outcome = .error (.primaryKey l fault)) ∨
        (∃ l, (db.insert name columns values).outcome = .error (.unique l)) ↔
      ¬ t.constraints.Met (t.rows ++ [row])) := by
  have houtcome : ∀ failure, (db.insert name columns values).outcome = .error failure ↔
      t.fault? key row = some failure := by
    intro failure
    have hinsert := Table.insert_outcome hk db.freshId hrow
    cases hf : t.fault? key row with
    | some refusal =>
      rw [hf] at hinsert
      rw [insert_refused ht hinsert]
      simp
    | none =>
      rw [hf] at hinsert
      rw [insert_accepted ht (fun e he => (hdb.indexes e he).column) hinsert]
      simp
  simp only [houtcome]
  exact Table.fault?_exact hk (hdb.tables _ (mem_of_table? ht)).unique h

end Database

/-! ### Runs -/

namespace History

/-- The statements since a table of the name was last created, the latest first. -/
def sinceCreated (h : History) (name : String) : List Statement :=
  h.statements.reverse.takeWhile fun s => !s.creates name

variable {h : History} {name text : String} {s : Statement}

lemma sinceCreated_restart : sinceCreated (h ++ [.restart]) name = h.sinceCreated name := by
  rw [sinceCreated, statements_restart, sinceCreated]

lemma sinceCreated_unparsed {failure : Failure} (hp : Statement.parse text = .error failure) :
    sinceCreated (h ++ [.command text]) name = h.sinceCreated name := by
  rw [sinceCreated, statements_unparsed hp, sinceCreated]

lemma sinceCreated_parsed (hp : Statement.parse text = .ok s) (hc : s.creates name = false) :
    sinceCreated (h ++ [.command text]) name = s :: h.sinceCreated name := by
  rw [sinceCreated, statements_parsed hp]
  exact Log.since_concat hc

/-- The rows of a table meet its constraints, if no update since has assigned to its key. -/
def Constrained (h : History) (st : Stage) : Prop :=
  ∀ name t, st.database.table? name = some t →
    (∀ s ∈ h.sinceCreated name, ¬ s.AssignsKey name t.constraints) → t.constraints.Met t.rows

variable {file : Option SnapshotFile} {st : Stage} {n : Nat}

lemma Constrained.command (hc : h.Constrained st) (hst : st.Sound file n) (text : String) :
    Constrained (h ++ [.command text]) (st.execute text) := by
  intro name t ht hk
  cases hp : Statement.parse text with
  | error failure =>
    rw [Stage.execute, Stage.reply, Session.execute_unparsed hp] at ht
    rw [sinceCreated_unparsed hp] at hk
    exact hc name t ht hk
  | ok s =>
    change (st.session.execute st.files text).session.database.table? name = some t at ht
    rw [Session.database_execute hp] at ht
    cases hcreates : s.creates name with
    | true =>
      cases s with
      | createTable table defs =>
        obtain rfl : table = name := by simpa [Statement.creates] using hcreates
        exact Database.met_created ht
      | _ => cases hcreates
    | false =>
      rw [sinceCreated_parsed hp hcreates] at hk
      obtain ⟨hs, hsince⟩ := List.forall_mem_cons.1 hk
      have hstep := Database.step_execute
        (fun e he => (hst.within.storable.indexes e he).column) s
      obtain ⟨u, hu, hconstraints, hmet⟩ := hstep.met hst.within.storable hcreates ht hs
      rw [hconstraints] at hsince
      exact hmet (hc name u hu hsince)

lemma Constrained.restart (hc : h.Constrained st) (hst : st.Sound file n) {s : Session}
    (hs : (Session.start file st.files).2 = .ok s) :
    Constrained (h ++ [.restart]) { st with session := s } := by
  intro name t ht hk
  rcases hst.database_restart hs with hempty | hcontent
  · rw [Stage.database, hempty] at ht
    cases ht
  · obtain ⟨u, hu, hconstraints, hrows⟩ := Database.met_congr hcontent ht
    rw [sinceCreated_restart] at hk
    rw [hconstraints] at hk ⊢
    rw [hrows]
    exact hc name u hu hk

lemma constrained_run {files : Files} (ha : ∀ f ∈ file, f.Absent files)
    (hn : h.commands.length < 10 ^ digitLimit) (hrun : h.run file files = .ok st) :
    h.Constrained st := by
  refine run_induction (P := fun h st => h.commands.length < 10 ^ digitLimit →
    h.Constrained st) ?_ ?_ ?_ hrun hn
  · intro s hs _ name t ht
    rw [Stage.database, Stage.database_start ha hs] at ht
    cases ht
  · intro h st text hrun ih hn
    rw [commands_command, List.length_append, List.length_singleton] at hn
    exact (ih (by omega)).command (sound_run ha (by omega) hrun) text
  · intro h st s hrun ih hs hn
    rw [commands_restart] at hn
    exact (ih hn).restart (sound_run ha hn hrun) hs

/-- **Keys stay unique.** If no update since a table was created has assigned to its primary key or
to a unique column, every row has a key, and no two rows have the same key or the same value in a
unique column. And an insertion that comes to the check is refused exactly if the new row would
break this, on account of the primary key exactly if the row would break that. -/
theorem constraints_met {files : Files} (ha : ∀ f ∈ file, f.Absent files)
    (hn : h.commands.length < 10 ^ digitLimit) (hrun : h.run file files = .ok st) {t : Table}
    (ht : st.database.table? name = some t)
    (hk : ∀ s ∈ h.sinceCreated name, ¬ s.AssignsKey name t.constraints) :
    t.constraints.Met t.rows ∧
    ∀ columns values key row, t.constraints.key = .ok key →
      (t.fill (t.startRow key columns).1 (columns.zip values)).2 = .ok row →
      let outcome := (st.database.execute (.insert name columns values)).outcome
      ((∃ l fault, outcome = .error (.primaryKey l fault)) ↔
        ¬ t.constraints.KeyMet (t.rows ++ [row])) ∧
      ((∃ l fault, outcome = .error (.primaryKey l fault)) ∨
          (∃ l, outcome = .error (.unique l)) ↔
        ¬ t.constraints.Met (t.rows ++ [row])) := by
  have hmet := constrained_run ha hn hrun name t ht hk
  have hstorable := (sound_run ha hn hrun).within.storable
  exact ⟨hmet, fun columns values key row hkey hrow =>
    Database.insert_exact hstorable ht hmet hkey hrow⟩

/-- A table with a primary key and a unique column, and three rows for it. The second one is
refused, as it repeats the first. -/
def keyed : History :=
  [.command "CREATE TABLE t (a PRIMARY KEY, b UNIQUE)", .command "INSERT INTO t (b) VALUES ('x')",
    .command "INSERT INTO t (b) VALUES ('x')", .command "INSERT INTO t (b) VALUES ('y')"]

def keyedRows : Table where
  columns := [⟨.text "a", .text ""⟩, ⟨.text "b", .text ""⟩]
  constraints := ⟨.text "a", [.text "b"]⟩
  records := [⟨0, [(.name "a", .int 1), (.name "b", .text "x")]⟩,
    ⟨1, [(.name "a", .int 3), (.name "b", .text "y")]⟩]
  counter := 4

lemma parse_insertY :
    Statement.parse "INSERT INTO t (b) VALUES ('y')" = .ok (.insert "t" ["b"] [.text "y"]) := by
  cbv

lemma run_keyed :
    ∃ st, run none [] keyed = .ok st ∧ st.session = ⟨none, ⟨[("t", keyedRows)], [], 2⟩⟩ := by
  have hcreated := run_inMemory run_inMemory_nil Statement.parse_createKeyed
  have hrefused := run_inMemory (run_inMemory hcreated Statement.parse_insertX)
    Statement.parse_insertX
  exact run_inMemory hrefused parse_insertY

lemma statements_keyed : keyed.statements =
    [.createTable "t" [⟨"a", "", true, false⟩, ⟨"b", "", false, true⟩],
      .insert "t" ["b"] [.text "x"], .insert "t" ["b"] [.text "x"],
      .insert "t" ["b"] [.text "y"]] := by
  simp [statements, commands, keyed, Statement.parse_createKeyed, Statement.parse_insertX,
    parse_insertY, Except.toOption]

lemma not_assignsKey_keyed {c : Constraints} (hs : s ∈ keyed.sinceCreated name) :
    ¬ s.AssignsKey name c := by
  have hstatements : s ∈ keyed.statements :=
    List.mem_reverse.1 ((List.takeWhile_prefix _).subset hs)
  rw [statements_keyed] at hstatements
  rintro ⟨assignments, condition, rfl, -⟩
  simp at hstatements

def repeatedRow : Row := [(.name "a", .text "z"), (.name "b", .text "y")]

def newRow : Row := [(.name "a", .text "z"), (.name "b", .text "z")]

/-- A row that repeats a value in the unique column is refused, and another one is not. -/
theorem constraints_met_keyed :
    ∃ st, run none [] keyed = .ok st ∧ st.database.table? "t" = some keyedRows ∧
      keyedRows.constraints.Met keyedRows.rows ∧
      (st.database.execute (.insert "t" ["a", "b"] [.text "z", .text "y"])).outcome =
        .error (.unique (.name "b")) ∧
      ¬ keyedRows.constraints.Met (keyedRows.rows ++ [repeatedRow]) ∧
      (st.database.execute (.insert "t" ["a", "b"] [.text "z", .text "z"])).outcome =
        .ok (.done .inserted) ∧
      keyedRows.constraints.Met (keyedRows.rows ++ [newRow]) := by
  obtain ⟨st, hrun, hsession⟩ := run_keyed
  have hdb : st.database = ⟨[("t", keyedRows)], [], 2⟩ := by rw [Stage.database, hsession]
  have ht : st.database.table? "t" = some keyedRows := by
    rw [hdb]
    rfl
  have hshort : keyed.commands.length < 10 ^ digitLimit := lt_pow_digitLimit (by decide)
  obtain ⟨hmet, hinsert⟩ := constraints_met (by simp) hshort hrun ht
    (fun s hs => not_assignsKey_keyed hs)
  have hrefused : (st.database.execute (.insert "t" ["a", "b"] [.text "z", .text "y"])).outcome =
      .error (.unique (.name "b")) := by
    rw [hdb]
    decide +kernel
  have haccepted : (st.database.execute (.insert "t" ["a", "b"] [.text "z", .text "z"])).outcome =
      .ok (.done .inserted) := by
    rw [hdb]
    decide +kernel
  obtain ⟨-, hrepeated⟩ := hinsert ["a", "b"] [.text "z", .text "y"] _ repeatedRow rfl rfl
  obtain ⟨-, hnew⟩ := hinsert ["a", "b"] [.text "z", .text "z"] _ newRow rfl rfl
  refine ⟨st, hrun, ht, hmet, hrefused, hrepeated.1 (.inr ⟨_, hrefused⟩), haccepted, ?_⟩
  by_contra hbroken
  rcases hnew.2 hbroken with ⟨l, fault, h⟩ | ⟨l, h⟩
  · rw [haccepted] at h
    cases h
  · rw [haccepted] at h
    cases h

end History

end Tabula
