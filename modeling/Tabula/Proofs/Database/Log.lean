import Mathlib.Data.List.Induction
import Tabula.Proofs.Database.Alike

/-!
What statements make of a table.

A statement does to a table what it would do if there were no other tables and no indexes. So a
table is known from the statements that have been executed, its log, and a record in it from the
place of the insertion that it comes from: `Log.table?` says what they make of nothing, and `Follows`
that the tables of a database are what a log makes. What holds of a new table, and is kept by
everything that a statement can do to one, holds of the tables of a log.
-/

namespace Tabula

namespace Statement

def creates (s : Statement) (name : String) : Bool :=
  match s with
  | .createTable table _ => table == name
  | _ => false

/-- What a statement makes of the table of a name, if there is one. A record that is added has the
given identity. -/
def onTable (s : Statement) (name : String) (id : Nat) (t : Option Table) : Option Table :=
  match s with
  | .createTable n defs => if n = name then some (.ofColumns defs) else t
  | .insert n columns values =>
    if n = name then t.map fun t => (t.insert id columns values).table else t
  | .update n assignments c => if n = name then t.map fun t => (t.update assignments c).1 else t
  | .delete n c =>
    if n = name then t.map fun t => ((t.delete c).toOption.map (·.1)).getD t else t
  | _ => t

end Statement

namespace Database

variable {db : Database}

/-- **A statement does to a table what it would do without the others.** -/
theorem table?_execute (db : Database) (s : Statement) (name : String) :
    (db.execute s).database.table? name = s.onTable name db.freshId (db.table? name) := by
  -- a table of the name `n` is replaced by what `f` makes of it
  have hput : ∀ {n : String} {t : Table} (f : Table → Table), db.table? n = some t →
      (db.putTable n (f t)).table? name =
        if n = name then (db.table? name).map f else db.table? name := by
    intro n t f ht
    rw [table?_putTable]
    split
    · rename_i hn
      rw [← hn, ht]
      rfl
    · rfl
  have hnone : ∀ {n : String} (f : Table → Table), db.table? n = none →
      db.table? name = if n = name then (db.table? name).map f else db.table? name := by
    intro n f ht
    split
    · rename_i hn
      rw [← hn, ht]
      rfl
    · rfl
  cases s with
  | createTable n defs => exact table?_putTable db n name _
  | insert n columns values =>
    rw [execute, insert, Statement.onTable]
    cases ht : db.table? n with
    | none =>
      rw [table_eq_error ht]
      exact hnone _ ht
    | some t =>
      rw [table_eq_ok.2 ht]
      dsimp only
      rw [← hput (fun t => (t.insert db.freshId columns values).table) ht]
      split <;> rfl
  | select n columns join c => cases join <;> rfl
  | update n assignments c =>
    rw [execute, update, Statement.onTable]
    cases ht : db.table? n with
    | none =>
      rw [table_eq_error ht]
      exact hnone _ ht
    | some t =>
      rw [table_eq_ok.2 ht]
      exact hput (fun t => (t.update assignments c).1) ht
  | delete n c =>
    rw [execute, delete, Statement.onTable]
    cases ht : db.table? n with
    | none =>
      rw [table_eq_error ht]
      exact hnone _ ht
    | some t =>
      rw [table_eq_ok.2 ht, ← hput (fun t => ((t.delete c).toOption.map (·.1)).getD t) ht]
      cases hd : t.delete c with
      | error fault =>
        simp only [hd, unchanged, Except.toOption, Option.map_none, Option.getD_none,
          putTable_of_table? ht]
      | ok found =>
        simp only [hd]
        rfl
  | createIndex index n column =>
    rw [execute, createIndex]
    cases ht : db.table? n with
    | none =>
      rw [table_eq_error ht]
      rfl
    | some t =>
      rw [table_eq_ok.2 ht]
      rfl
  | showTables => rfl
  | describe n => rfl

end Database

/-! ### One table -/

namespace Table

/-- What a statement that does not create a table can do to the table of a name. -/
inductive Step (name : String) (id : Nat) (t : Table) : Statement → Table → Prop
  | other (s : Statement) (hs : ∀ columns values, s ≠ .insert name columns values) :
    Step name id t s t
  /-- the row is refused; the counter may have moved -/
  | refuse (columns : List String) (values : List Value) :
    Step name id t (.insert name columns values) (t.spend columns)
  | append {key : Option Label} {columns : List String} {values : List Value} {row : Row}
    (hkey : t.constraints.key = .ok key)
    (hrow : (t.fill (t.startRow key columns).1 (columns.zip values)).2 = .ok row)
    (hfault : t.fault? key row = none) :
    Step name id t (.insert name columns values)
      { t.spend columns with records := t.records ++ [⟨id, row⟩] }
  | update (assignments : List (String × Value)) (c : Condition) :
    Step name id t (.update name assignments c) (t.update assignments c).1
  | delete (c : Condition) {kept : List Record} (hk : kept.Sublist t.records) :
    Step name id t (.delete name c) { t with records := kept }

lemma Step.columns {name : String} {id : Nat} {t u : Table} {s : Statement}
    (h : Step name id t s u) : u.columns = t.columns := by
  cases h <;> simp [Table.update]

lemma Step.constraints {name : String} {id : Nat} {t u : Table} {s : Statement}
    (h : Step name id t s u) : u.constraints = t.constraints := by
  cases h <;> simp [Table.update]

/-- Where there is a table after a statement, it has just been created, or it is what a step makes
of the one before. -/
lemma step_onTable {s : Statement} {name : String} {id : Nat} {before : Option Table} {u : Table}
    (h : s.onTable name id before = some u) :
    (∃ defs, s = .createTable name defs ∧ u = ofColumns defs) ∨
      ∃ t, before = some t ∧ s.creates name = false ∧ Step name id t s u := by
  have hcases : ∀ {f : Table → Table} {n : String},
      (if n = name then before.map f else before) = some u →
        ∃ t, before = some t ∧ (n = name ∧ f t = u ∨ n ≠ name ∧ t = u) := by
    intro f n hu
    split at hu
    · rename_i hn
      obtain ⟨t, ht, hf⟩ := Option.map_eq_some_iff.1 hu
      exact ⟨t, ht, .inl ⟨hn, hf⟩⟩
    · rename_i hn
      exact ⟨u, hu, .inr ⟨hn, rfl⟩⟩
  cases s with
  | createTable n defs =>
    rw [Statement.onTable] at h
    split at h
    · rename_i hn
      cases h
      exact .inl ⟨defs, by rw [hn], rfl⟩
    · rename_i hn
      exact .inr ⟨u, h, by simpa [Statement.creates] using hn, .other _ (by simp)⟩
  | insert n columns values =>
    obtain ⟨t, ht, ⟨rfl, rfl⟩ | ⟨hn, rfl⟩⟩ := hcases h
    · refine .inr ⟨t, ht, rfl, ?_⟩
      rcases t.insert_cases id columns values with
        ⟨failure, -, htable⟩ | ⟨key, row, hkey, hrow, hfault, -, htable⟩
      · rw [htable]
        exact .refuse columns values
      · rw [htable]
        exact .append hkey hrow hfault
    · exact .inr ⟨t, ht, rfl, .other _ (by simp [hn])⟩
  | update n assignments c =>
    obtain ⟨t, ht, ⟨rfl, rfl⟩ | ⟨-, rfl⟩⟩ := hcases h
    · exact .inr ⟨t, ht, rfl, .update assignments c⟩
    · exact .inr ⟨t, ht, rfl, .other _ (by simp)⟩
  | delete n c =>
    obtain ⟨t, ht, ⟨rfl, rfl⟩ | ⟨-, rfl⟩⟩ := hcases h
    · refine .inr ⟨t, ht, rfl, ?_⟩
      cases hd : t.delete c with
      | error fault => exact .other _ (by simp)
      | ok found =>
        obtain ⟨⟨gone, kept⟩, hpart, hfound⟩ := bind_eq_ok.1 hd
        cases hfound
        exact .delete c (Condition.sublist_partition hpart).2
    · exact .inr ⟨t, ht, rfl, .other _ (by simp)⟩
  | select | createIndex | showTables | describe =>
    exact .inr ⟨u, h, rfl, .other _ (by simp)⟩

/-- A statement does not tell tables apart that differ in the identities of records only. -/
lemma Alike.onTable {t u v : Table} (h : t.Alike u) (s : Statement) (name : String) (i j : Nat)
    (hv : s.onTable name i (some t) = some v) :
    ∃ w, s.onTable name j (some u) = some w ∧ v.Alike w := by
  have hmap : ∀ {f g : Table → Table} {n : String}, (f t).Alike (g u) →
      (if n = name then (some t).map f else some t) = some v →
        ∃ w, (if n = name then (some u).map g else some u) = some w ∧ v.Alike w := by
    intro f g n hfg hv
    split_ifs at hv ⊢
    · cases hv
      exact ⟨_, rfl, hfg⟩
    · cases hv
      exact ⟨u, rfl, h⟩
  cases s with
  | createTable n defs =>
    rw [Statement.onTable] at hv ⊢
    split_ifs at hv ⊢
    · cases hv
      exact ⟨_, rfl, rfl⟩
    · cases hv
      exact ⟨u, rfl, h⟩
  | insert n columns values => exact hmap (h.insert i j columns values).2 hv
  | update n assignments c => exact hmap (h.update assignments c).1 hv
  | delete n c =>
    refine hmap ?_ hv
    rcases h.delete c with ⟨fault, ht, hu⟩ | ⟨t', u', count, ht, hu, halike⟩
    · rw [ht, hu]
      exact h
    · rw [ht, hu]
      exact halike
  | select | createIndex | showTables | describe =>
    cases hv
    exact ⟨u, rfl, h⟩

end Table

/-! ### Logs -/

/-- Statements, in the order in which they were executed. -/
abbrev Log := List Statement

namespace Log

/-- The table of a name that the statements make of nothing. -/
def table? (log : Log) (name : String) : Option Table :=
  log.zipIdx.foldl (fun t s => s.1.onTable name s.2 t) none

/-- The statements since a table of the name was last created, the latest first. -/
def since (log : Log) (name : String) : List Statement :=
  log.reverse.takeWhile fun s => !s.creates name

variable {log : Log} {name : String} {s : Statement} {t : Table}

lemma table?_concat (log : Log) (s : Statement) (name : String) :
    table? (log ++ [s]) name = s.onTable name log.length (log.table? name) := by
  rw [table?, List.zipIdx_append, List.foldl_append]
  simp [table?]

lemma since_concat (h : s.creates name = false) :
    since (log ++ [s]) name = s :: log.since name := by
  simp [since, h]

lemma since_created (h : s.creates name = true) : since (log ++ [s]) name = [] := by
  simp [since, h]

/-- **Induction on the log of a table**: what holds of a new table, and is kept by every step, holds
of the table. -/
theorem table_induction {P : Log → Table → Prop}
    (create : ∀ log defs, P (log ++ [.createTable name defs]) (.ofColumns defs))
    (step : ∀ log s t u, log.table? name = some t → P log t → s.creates name = false →
      Table.Step name log.length t s u → P (log ++ [s]) u)
    (h : log.table? name = some t) : P log t := by
  induction log using List.reverseRecOn generalizing t with
  | nil => cases h
  | append_singleton log s ih =>
    rw [table?_concat] at h
    rcases Table.step_onTable h with ⟨defs, rfl, rfl⟩ | ⟨u, hu, hs, hstep⟩
    · exact create log defs
    · exact step log s u t hu (ih hu) hs hstep

end Log

namespace Database

/-- The tables of a database are those of a log, up to the identities of records. The log may have
tables that the database does not have. -/
def Follows (db : Database) (log : Log) : Prop :=
  ∀ name t, db.table? name = some t → ∃ u, log.table? name = some u ∧ t.Alike u

variable {db : Database} {log : Log}

lemma follows_empty (log : Log) : empty.Follows log := by
  intro name t ht
  cases ht

/-- Where a table is what a log makes, it stays so as a statement is added to the log. -/
lemma alike_execute {name : String}
    (h : ∀ t, db.table? name = some t → ∃ u, log.table? name = some u ∧ t.Alike u) (s : Statement) :
    ∀ t, (db.execute s).database.table? name = some t →
      ∃ u, Log.table? (log ++ [s]) name = some u ∧ t.Alike u := by
  intro t ht
  rw [table?_execute] at ht
  rw [Log.table?_concat]
  cases hold : db.table? name with
  | none =>
    rw [hold] at ht
    rcases Table.step_onTable ht with ⟨defs, rfl, rfl⟩ | ⟨u, hu, -⟩
    · rw [Statement.onTable, if_pos rfl]
      exact ⟨_, rfl, rfl⟩
    · cases hu
  | some u =>
    rw [hold] at ht
    obtain ⟨v, hv, halike⟩ := h u hold
    rw [hv]
    exact halike.onTable s name _ _ ht

/-- A statement is added to the log that is followed. -/
lemma Follows.execute (h : db.Follows log) (s : Statement) :
    (db.execute s).database.Follows (log ++ [s]) :=
  fun name => alike_execute (h name) s

lemma Follows.congr {a b : Database} (h : a.Follows log) (hab : a.Alike b) : b.Follows log := by
  intro name t ht
  rcases hab.table? name with ⟨-, hnone⟩ | ⟨u, v, hu, hv, halike⟩
  · rw [hnone] at ht
    cases ht
  · rw [hv] at ht
    cases ht
    obtain ⟨w, hw, huw⟩ := h name u hu
    exact ⟨w, hw, halike.symm.trans huw⟩

end Database

end Tabula
