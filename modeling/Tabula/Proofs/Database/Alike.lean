import Tabula.Proofs.Database.Steps

/-!
Databases with the same tables are told apart by no statement.

Answers depend on the columns, constraints, rows and counters of the tables, neither on the
identities of their records nor on the indexes.
-/

namespace Tabula

namespace Table

/-- The same columns, constraints, rows and counter. -/
def Alike (t u : Table) : Prop := t.content = u.content

variable {t u : Table}

lemma alike_iff : t.Alike u ↔ t.columns = u.columns ∧ t.constraints = u.constraints ∧
    t.rows = u.rows ∧ t.counter = u.counter := by
  have hrecords : t.records.map Record.content = u.records.map Record.content ↔
      t.rows = u.rows := by
    constructor
    · intro h
      simpa [rows, Function.comp_def] using congrArg (List.map Record.row) h
    · intro h
      have hrow := congrArg (List.map fun row => (⟨0, row⟩ : Record)) h
      rwa [rows, rows, List.map_map, List.map_map] at hrow
  simp only [Alike, content, mk.injEq, hrecords]

lemma Alike.columns (h : t.Alike u) : t.columns = u.columns := (alike_iff.1 h).1

lemma Alike.constraints (h : t.Alike u) : t.constraints = u.constraints := (alike_iff.1 h).2.1

lemma Alike.rows (h : t.Alike u) : t.rows = u.rows := (alike_iff.1 h).2.2.1

lemma Alike.counter (h : t.Alike u) : t.counter = u.counter := (alike_iff.1 h).2.2.2

lemma Alike.startRow (h : t.Alike u) (key : Option Label) (columns : List String) :
    (t.startRow key columns).1 = (u.startRow key columns).1 := by
  unfold Table.startRow
  rw [h.counter]
  split <;> try split
  all_goals rfl

lemma Alike.spend (h : t.Alike u) (columns : List String) :
    (t.spend columns).Alike (u.spend columns) := by
  refine alike_iff.2 ⟨by simp [h.columns], by simp [h.constraints], ?_, ?_⟩
  · simpa [Table.rows] using h.rows
  · unfold Table.spend Table.startRow
    rw [h.constraints, h.counter]
    split <;> try split
    all_goals try split
    all_goals simp [h.counter]

/-- An insertion ends alike. -/
lemma Alike.insert (h : t.Alike u) (i j : Nat) (columns : List String) (values : List Value) :
    (t.insert i columns values).outcome.map (·.row) =
        (u.insert j columns values).outcome.map (·.row) ∧
      (t.insert i columns values).table.Alike (u.insert j columns values).table := by
  cases hk : t.constraints.key with
  | error fault =>
    have hu : u.constraints.key = .error fault := h.constraints ▸ hk
    rw [Table.insert, Table.insert, hk, hu]
    exact ⟨rfl, h⟩
  | ok key =>
    have hu : u.constraints.key = .ok key := h.constraints ▸ hk
    have hspend := h.spend columns
    rw [insert_eq hk, insert_eq hu, h.startRow, fill_congr h.columns]
    split
    · exact ⟨rfl, hspend⟩
    · rename_i row _
      rw [fault?_congr h.constraints h.rows]
      split
      · exact ⟨rfl, hspend⟩
      · refine ⟨rfl, alike_iff.2 ⟨hspend.columns, hspend.constraints, ?_, hspend.counter⟩⟩
        simpa [Table.rows] using h.rows

lemma Alike.select (h : t.Alike u) (c : Option Condition) : t.select c = u.select c := by
  cases c with
  | none => simp only [Table.select, h.rows]
  | some c => simp only [Table.select, h.rows]

/-- Updating depends on the rows only. -/
lemma updateRecords_congr (assignments : List (String × Value)) (c : Condition)
    {rs qs : List Record} (h : rs.map (·.row) = qs.map (·.row)) :
    (updateRecords assignments c rs).1.map (·.row) =
        (updateRecords assignments c qs).1.map (·.row) ∧
      (updateRecords assignments c rs).2 = (updateRecords assignments c qs).2 := by
  induction rs generalizing qs with
  | nil =>
    obtain rfl : qs = [] := List.map_eq_nil_iff.1 h.symm
    exact ⟨rfl, rfl⟩
  | cons r rs ih =>
    cases qs with
    | nil => cases h
    | cons q qs =>
      obtain ⟨hr, hrs⟩ := List.cons.inj h
      obtain ⟨hrows, hcount⟩ := ih hrs
      dsimp only at hr
      rw [updateRecords, updateRecords, hr]
      split
      · exact ⟨by simp [hr, hrs], rfl⟩
      · dsimp only
        split <;> simp [hr, hrows, hcount]

lemma Alike.update (h : t.Alike u) (assignments : List (String × Value)) (c : Condition) :
    (t.update assignments c).1.Alike (u.update assignments c).1 ∧
      (t.update assignments c).2 = (u.update assignments c).2 := by
  obtain ⟨hrows, hcount⟩ := updateRecords_congr assignments c h.rows
  exact ⟨alike_iff.2 ⟨h.columns, h.constraints, hrows, h.counter⟩, hcount⟩

/-- The records of a partition have the rows of the partition of the rows. -/
lemma partition_rows (c : Condition) (rs : List Record) :
    (c.partition (·.row) rs).map (fun p => (p.1.map (·.row), p.2.map (·.row))) =
      c.partition id (rs.map (·.row)) := by
  induction rs with
  | nil => rfl
  | cons r rs ih =>
    rw [List.map_cons, Condition.partition, Condition.partition, ← ih, id_eq]
    cases c.holds r.row with
    | error fault => rfl
    | ok matched =>
      cases c.partition (·.row) rs with
      | error fault => rfl
      | ok p => cases matched <;> rfl

/-- A deletion ends alike. -/
lemma Alike.delete (h : t.Alike u) (c : Condition) :
    (∃ fault, t.delete c = .error fault ∧ u.delete c = .error fault) ∨
      ∃ v w n, t.delete c = .ok (v, n) ∧ u.delete c = .ok (w, n) ∧ v.Alike w := by
  have ht := partition_rows c t.records
  have hu := partition_rows c u.records
  have hrows : t.records.map (·.row) = u.records.map (·.row) := h.rows
  rw [hrows, ← hu] at ht
  unfold Table.delete
  cases hp : c.partition (·.row) t.records with
  | error fault =>
    rw [hp] at ht
    cases hq : c.partition (·.row) u.records with
    | error other =>
      rw [hq] at ht
      cases ht
      exact .inl ⟨fault, rfl, rfl⟩
    | ok q =>
      rw [hq] at ht
      cases ht
  | ok p =>
    rw [hp] at ht
    cases hq : c.partition (·.row) u.records with
    | error fault =>
      rw [hq] at ht
      cases ht
    | ok q =>
      rw [hq] at ht
      obtain ⟨hgone, hkept⟩ := Prod.mk.inj (Except.ok.inj ht)
      refine .inr ⟨{ t with records := p.2 }, { u with records := q.2 }, p.1.length, rfl, ?_, ?_⟩
      · have hlength : p.1.length = q.1.length := by
          simpa using congrArg List.length hgone
        rw [hlength]
        rfl
      · exact alike_iff.2 ⟨h.columns, h.constraints, hkept, h.counter⟩

lemma Alike.describe (h : t.Alike u) : t.describe = u.describe := by
  simp only [Table.describe, h.columns, h.constraints]

end Table

namespace Database

/-- The same tables, up to the identities of records. -/
def Alike (a b : Database) : Prop :=
  Keyed.mapValues Table.content a.tables = Keyed.mapValues Table.content b.tables

lemma alike_of_content {a b : Database} (h : a.content = b.content) : a.Alike b :=
  congrArg Database.tables h

variable {a b : Database}

lemma Alike.trans {c : Database} (h : a.Alike b) (k : b.Alike c) : a.Alike c := Eq.trans h k

lemma Alike.names (h : a.Alike b) : a.names = b.names := by
  have hkeys := congrArg Keyed.keys h
  rwa [Keyed.keys_mapValues, Keyed.keys_mapValues] at hkeys

/-- A table is in both, or in none. -/
lemma Alike.table? (h : a.Alike b) (name : String) :
    (a.table? name = none ∧ b.table? name = none) ∨
      ∃ t u, a.table? name = some t ∧ b.table? name = some u ∧ t.Alike u := by
  have hfind := congrArg (Keyed.find? · name) h
  simp only [Keyed.find?_mapValues] at hfind
  cases ht : a.table? name with
  | none =>
    rw [Database.table?] at ht
    rw [ht] at hfind
    exact .inl ⟨rfl, Option.map_eq_none_iff.1 hfind.symm⟩
  | some t =>
    rw [Database.table?] at ht
    rw [ht] at hfind
    obtain ⟨u, hu, hut⟩ := Option.map_eq_some_iff.1 hfind.symm
    exact .inr ⟨t, u, rfl, hu, hut.symm⟩

lemma Alike.putTable (h : a.Alike b) {t u : Table} (htu : t.Alike u) (name : String) :
    (a.putTable name t).Alike (b.putTable name u) := by
  unfold Alike Database.putTable
  rw [← Keyed.put_mapValues, ← Keyed.put_mapValues, htu, h]

variable {name : String}

lemma Alike.insert (h : a.Alike b) (ha : ∀ e ∈ a.indexes, e.2.column.IsText)
    (hb : ∀ e ∈ b.indexes, e.2.column.IsText) (columns : List String) (values : List Value) :
    (a.insert name columns values).outcome = (b.insert name columns values).outcome ∧
      (a.insert name columns values).database.Alike (b.insert name columns values).database := by
  rcases h.table? name with ⟨ht, hu⟩ | ⟨t, u, ht, hu, htu⟩
  · rw [Database.insert, Database.insert, table_eq_error ht, table_eq_error hu]
    exact ⟨rfl, h⟩
  · obtain ⟨hout, htable⟩ := htu.insert a.freshId b.freshId columns values
    cases hot : (t.insert a.freshId columns values).outcome with
    | error failure =>
      cases hou : (u.insert b.freshId columns values).outcome with
      | error other =>
        rw [hot, hou] at hout
        cases hout
        rw [insert_refused ht hot, insert_refused hu hou]
        exact ⟨rfl, h.putTable htable name⟩
      | ok r =>
        rw [hot, hou] at hout
        cases hout
    | ok r =>
      cases hou : (u.insert b.freshId columns values).outcome with
      | error failure =>
        rw [hot, hou] at hout
        cases hout
      | ok q =>
        rw [insert_accepted ht ha hot, insert_accepted hu hb hou]
        exact ⟨rfl, h.putTable htable name⟩

lemma Alike.select (h : a.Alike b) (columns : Option (List ColumnName)) (c : Option Condition) :
    a.select name columns c = b.select name columns c := by
  unfold Database.select
  rcases h.table? name with ⟨ht, hu⟩ | ⟨t, u, ht, hu, htu⟩
  · rw [table_eq_error ht, table_eq_error hu]
  · rw [table_eq_ok.2 ht, table_eq_ok.2 hu]
    simp only [bind, Except.bind, htu.select]

lemma Alike.selectJoined (h : a.Alike b) (columns : Option (List ColumnName)) (j : Join)
    (c : Option Condition) :
    a.selectJoined name columns j c = b.selectJoined name columns j c := by
  unfold Database.selectJoined
  rcases h.table? name with ⟨ht, hu⟩ | ⟨t, u, ht, hu, htu⟩
  · rw [table_eq_error ht, table_eq_error hu]
  · rw [table_eq_ok.2 ht, table_eq_ok.2 hu]
    rcases h.table? j.table with ⟨hv, hw⟩ | ⟨v, w, hv, hw, hvw⟩
    · rw [table_eq_error hv, table_eq_error hw]
    · rw [table_eq_ok.2 hv, table_eq_ok.2 hw]
      simp only [htu.rows, hvw.rows]

/-- **A statement does not tell databases with the same tables apart**: it has the same outcome,
and leaves the same tables. -/
theorem Alike.execute (h : a.Alike b) (ha : ∀ e ∈ a.indexes, e.2.column.IsText)
    (hb : ∀ e ∈ b.indexes, e.2.column.IsText) (s : Statement) :
    (a.execute s).outcome = (b.execute s).outcome ∧
      (a.execute s).database.Alike (b.execute s).database := by
  cases s with
  | createTable name defs => exact ⟨rfl, h.putTable rfl name⟩
  | insert name columns values => exact h.insert ha hb columns values
  | select name columns join c =>
    cases join with
    | none => exact ⟨h.select columns c, h⟩
    | some j =>
      rw [Database.execute, Database.execute, h.selectJoined]
      exact ⟨rfl, h⟩
  | update name assignments c =>
    rw [Database.execute, Database.execute, Database.update, Database.update]
    rcases h.table? name with ⟨ht, hu⟩ | ⟨t, u, ht, hu, htu⟩
    · rw [table_eq_error ht, table_eq_error hu]
      exact ⟨rfl, h⟩
    · obtain ⟨htable, hcount⟩ := htu.update assignments c
      rw [table_eq_ok.2 ht, table_eq_ok.2 hu]
      exact ⟨by simp only [hcount], h.putTable htable name⟩
  | delete name c =>
    rw [Database.execute, Database.execute, Database.delete, Database.delete]
    rcases h.table? name with ⟨ht, hu⟩ | ⟨t, u, ht, hu, htu⟩
    · rw [table_eq_error ht, table_eq_error hu]
      exact ⟨rfl, h⟩
    · rw [table_eq_ok.2 ht, table_eq_ok.2 hu]
      dsimp only
      rcases htu.delete c with ⟨fault, hv, hw⟩ | ⟨v, w, n, hv, hw, hvw⟩
      · rw [hv, hw]
        exact ⟨rfl, h⟩
      · rw [hv, hw]
        exact ⟨rfl, h.putTable hvw name⟩
  | createIndex index name column =>
    rw [Database.execute, Database.execute, Database.createIndex, Database.createIndex]
    rcases h.table? name with ⟨ht, hu⟩ | ⟨t, u, ht, hu, htu⟩
    · rw [table_eq_error ht, table_eq_error hu]
      exact ⟨rfl, h⟩
    · rw [table_eq_ok.2 ht, table_eq_ok.2 hu]
      exact ⟨rfl, h⟩
  | showTables =>
    rw [Database.execute, Database.execute, h.names]
    exact ⟨rfl, h⟩
  | describe name =>
    rw [Database.execute, Database.execute]
    rcases h.table? name with ⟨ht, hu⟩ | ⟨t, u, ht, hu, htu⟩
    · rw [table_eq_error ht, table_eq_error hu]
      exact ⟨rfl, h⟩
    · rw [table_eq_ok.2 ht, table_eq_ok.2 hu]
      refine ⟨?_, h⟩
      change Except.ok (Answer.description t.describe) = .ok (.description u.describe)
      rw [htu.describe]

end Database

end Tabula
