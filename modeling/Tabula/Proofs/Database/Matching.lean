import Tabula.Proofs.Database.Formed
import Tabula.Proofs.Database.Update
import Tabula.Proofs.Statement.Derivation

/-!
The rows that a condition selects, and what an update and a deletion do to them.

Where a condition can be decided for all rows of a table, a query answers with those that satisfy
it, an update assigns to just these and counts them, and a deletion takes them away. An update looks
at every row before it changes the row, and at no row twice, so one row never comes in the way of
another.
-/

namespace Tabula

/-! ### Conditions -/

namespace Condition

/-- Whether a row satisfies the condition can be told for all of them. -/
def Decides (c : Condition) (rows : List Row) : Prop :=
  ∀ row ∈ rows, ∃ matched, c.holds row = .ok matched

/-- The rows that satisfy the condition, in their order. -/
def chosen (c : Condition) (rows : List Row) : List Row :=
  rows.filter fun row => c.holds row = .ok true

variable {c : Condition} {rows : List Row} {rs : List Record}

lemma decides_rows : c.Decides (rs.map (·.row)) ↔
    ∀ r ∈ rs, ∃ matched, c.holds r.row = .ok matched := by
  simp [Decides]

lemma length_chosen (c : Condition) (rs : List Record) :
    (c.chosen (rs.map (·.row))).length =
      (rs.filter fun r => c.holds r.row = .ok true).length := by
  rw [chosen, List.filter_map, List.length_map]
  rfl

end Condition

/-! ### Rows after assignments -/

namespace Row

variable {row : Row} {assignments : List (String × Value)}

/-- Assignments as cells. -/
def cellsOf (assignments : List (String × Value)) : Row :=
  assignments.map fun a => (.name a.1, a.2)

lemma distinct_cellsOf (h : Keyed.Distinct (Keyed.keys assignments)) :
    Keyed.Distinct (Keyed.keys (cellsOf assignments)) := by
  unfold Keyed.Distinct Keyed.keys cellsOf at *
  rw [List.pairwise_map] at h
  rw [List.map_map, List.pairwise_map]
  exact h.imp fun hab => (Label.same_name _ _).trans hab

/-- **Assigning is merging**: assigned cells are replaced in their places, new ones come last. -/
theorem assign_eq_merge (hr : Keyed.Distinct (Keyed.keys row))
    (ha : Keyed.Distinct (Keyed.keys assignments)) :
    Row.assign row assignments = Keyed.merge row (cellsOf assignments) :=
  Keyed.putAll_eq_merge hr (distinct_cellsOf ha)

/-- A row that has been assigned to has the assigned values already. -/
lemma assign_assign (row : Row) (ha : Keyed.Distinct (Keyed.keys assignments)) :
    Row.assign (Row.assign row assignments) assignments = Row.assign row assignments :=
  Keyed.putAll_putAll row (distinct_cellsOf ha)

end Row

/-! ### Tables -/

namespace Table

variable {t : Table} {c : Condition} {assignments : List (String × Value)} {rs : List Record}

lemma select_eq (h : c.Decides t.rows) : t.select (some c) = .ok (c.chosen t.rows) := by
  have hpartition : c.partition id t.rows = .ok (c.chosen t.rows, _) := Condition.partition_eq h
  rw [select, hpartition]
  rfl

lemma reached_eq (h : ∀ r ∈ rs, ∃ matched, c.holds r.row = .ok matched) : reached c rs = rs := by
  rw [reached, List.takeWhile_eq_self_iff]
  intro r hr
  obtain ⟨matched, hmatched⟩ := h r hr
  rw [hmatched]
  rfl

/-- Where all rows are reached, those that match are counted. -/
lemma count_updateRecords (assignments : List (String × Value))
    (h : ∀ r ∈ rs, ∃ matched, c.holds r.row = .ok matched) :
    (updateRecords assignments c rs).2 =
      .ok (rs.filter fun r => c.holds r.row = .ok true).length := by
  induction rs with
  | nil => rfl
  | cons r rs ih =>
    obtain ⟨⟨matched, hmatched⟩, hrs⟩ := List.forall_mem_cons.1 h
    rw [updateRecords, hmatched]
    dsimp only
    cases matched with
    | true =>
      rw [if_pos rfl, ih hrs, List.filter_cons_of_pos (by simp [hmatched])]
      rfl
    | false => simpa [hmatched] using ih hrs

lemma update_eq (assignments : List (String × Value)) (h : c.Decides t.rows) :
    t.update assignments c =
      ({ t with records := t.records.map (assigned assignments c) },
        .ok (c.chosen t.rows).length) := by
  have hall := Condition.decides_rows.1 h
  have hrecords : (updateRecords assignments c t.records).1 =
      t.records.map (assigned assignments c) := by
    rw [updateRecords_eq, reached_eq hall, List.drop_length, List.append_nil]
  rw [update, rows, Condition.length_chosen, ← count_updateRecords assignments hall, ← hrecords]

lemma delete_eq (h : c.Decides t.rows) :
    t.delete c =
      .ok ({ t with records := t.records.filter fun r => ¬ c.holds r.row = .ok true },
        (c.chosen t.rows).length) := by
  rw [delete, Condition.partition_eq (Condition.decides_rows.1 h), rows, Condition.length_chosen]
  rfl

/-- A second update finds nothing to change, whatever rows match by then and however far it
comes. -/
lemma idle_assigned (ha : Keyed.Distinct (Keyed.keys assignments)) (c : Condition)
    (rs : List Record) : Idle assignments c (rs.map (assigned assignments c)) := by
  intro r hr hmatched
  obtain ⟨q, -, rfl⟩ := List.mem_map.1 ((List.takeWhile_prefix _).subset hr)
  unfold assigned at hmatched ⊢
  split at hmatched
  · rename_i hq
    rw [if_pos hq]
    exact Row.assign_assign q.row ha
  · rename_i hq
    exact absurd hmatched hq

end Table

/-- An update assigns to a column once. -/
lemma Statement.distinct_of_update {command name : String} {assignments : List (String × Value)}
    {c : Condition} (h : parse command = .ok (.update name assignments c)) :
    Keyed.Distinct (Keyed.keys assignments) := by
  obtain ⟨placed, used, rest, -, -, hs, -⟩ := exists_derives h (by simp [kind])
  cases hs
  exact Keyed.distinct_keys_ofList _

/-! ### Statements -/

namespace Database

variable {P : Value → Prop} {db : Database} {name : String} {t : Table} {c : Condition}
  {assignments : List (String × Value)}

/-- An update has counted the chosen rows of a table, has merged the assigned cells into them, and
has changed nothing else in any table. -/
structure Updates (db : Database) (name : String) (t : Table)
    (assignments : List (String × Value)) (c : Condition) (e : Execution) : Prop where
  outcome : e.outcome = .ok (.done (.updated (c.chosen t.rows).length))
  table : e.database.table? name = some { t with
    records := t.records.map fun r =>
      if c.holds r.row = .ok true then
        { r with row := Keyed.merge r.row (Row.cellsOf assignments) }
      else r }
  others : ∀ other, other ≠ name → e.database.table? other = db.table? other

/-- A deletion has counted the chosen rows of a table, has left the others in their order, and has
changed no other table. -/
structure Deletes (db : Database) (name : String) (t : Table) (c : Condition) (e : Execution) :
    Prop where
  outcome : e.outcome = .ok (.done (.deleted (c.chosen t.rows).length))
  table : e.database.table? name = some { t with
    records := t.records.filter fun r => ¬ c.holds r.row = .ok true }
  others : ∀ other, other ≠ name → e.database.table? other = db.table? other

/-- A query answers with the columns that it asks for, of the chosen rows. -/
lemma execute_select_columns (ht : db.table? name = some t) (hc : c.Decides t.rows)
    (columns : Option (List ColumnName)) :
    db.execute (.select name columns none (some c)) =
      db.unchanged (.ok (.rows (project columns (c.chosen t.rows)))) := by
  rw [execute, select, table_eq_ok.2 ht]
  change db.unchanged ((t.select (some c)).mapError Failure.number >>= _) = _
  rw [Table.select_eq hc]
  rfl

/-- **A query answers with the chosen rows.** -/
theorem execute_select (ht : db.table? name = some t) (hc : c.Decides t.rows) :
    (db.execute (.select name none none (some c))).outcome = .ok (.rows (c.chosen t.rows)) := by
  rw [execute_select_columns ht hc]
  rfl

/-- The tables after an update. -/
lemma table?_update (ht : db.table? name = some t) (other : String) :
    (db.update name assignments c).database.table? other =
      if name = other then some (t.update assignments c).1 else db.table? other := by
  rw [update_of_table? ht]
  exact table?_putTable db name other _

/-- **An update assigns to the chosen rows.** -/
theorem execute_update (ht : db.table? name = some t) (hf : t.Formed P) (hc : c.Decides t.rows)
    (ha : Keyed.Distinct (Keyed.keys assignments)) :
    db.Updates name t assignments c (db.execute (.update name assignments c)) := by
  have hassigned : ∀ r ∈ t.records, Table.assigned assignments c r =
      if c.holds r.row = .ok true then
        { r with row := Keyed.merge r.row (Row.cellsOf assignments) }
      else r := by
    intro r hr
    rw [Table.assigned, Row.assign_eq_merge (hf.rows r hr).distinct ha]
  have hafter := @table?_update db name t c assignments ht
  rw [Table.update_eq assignments hc, List.map_congr_left hassigned] at hafter
  refine ⟨?_, (hafter name).trans (if_pos rfl),
    fun other hother => (hafter other).trans (if_neg hother.symm)⟩
  rw [execute, update, table_eq_ok.2 ht]
  dsimp only
  rw [Table.update_eq assignments hc]

/-- **A deletion takes the chosen rows away.** -/
theorem execute_delete (ht : db.table? name = some t) (hc : c.Decides t.rows) :
    db.Deletes name t c (db.execute (.delete name c)) := by
  rw [execute, delete, table_eq_ok.2 ht]
  dsimp only
  rw [Table.delete_eq hc]
  exact ⟨rfl, (table?_putTable db name name _).trans (if_pos rfl),
    fun other hother => (table?_putTable db name other _).trans (if_neg hother.symm)⟩

/-- **An update that has been executed changes nothing when it is executed again**, even if it
fails. -/
theorem rows?_update_update (ht : db.table? name = some t) (hc : c.Decides t.rows)
    (ha : Keyed.Distinct (Keyed.keys assignments)) (other : String) :
    ((db.update name assignments c).database.update name assignments c).database.rows? other =
      (db.update name assignments c).database.rows? other := by
  have hafter := @table?_update db name t c assignments ht
  have hname := (hafter name).trans (if_pos rfl)
  by_cases hother : name = other
  · subst hother
    rw [rows?_update_eq_iff]
    intro u hu
    obtain rfl := Option.some.inj (hname.symm.trans hu)
    rw [Table.update_eq assignments hc]
    exact Table.idle_assigned ha c t.records
  · rw [rows?, rows?, table?_update hname, if_neg hother]

/-- After a deletion no row satisfies the condition. -/
theorem Deletes.select_eq_nil {e : Execution} (h : db.Deletes name t c e) (hc : c.Decides t.rows) :
    (e.database.execute (.select name none none (some c))).outcome = .ok (.rows []) := by
  set kept : Table := { t with records := t.records.filter fun r => ¬ c.holds r.row = .ok true }
  have hdecides : c.Decides kept.rows := by
    refine Condition.decides_rows.2 fun r hr => ?_
    exact Condition.decides_rows.1 hc r (List.mem_filter.1 hr).1
  have hnone : c.chosen kept.rows = [] := by
    rw [Condition.chosen, List.filter_eq_nil_iff]
    intro row hrow
    obtain ⟨r, hr, rfl⟩ := List.mem_map.1 hrow
    simpa using (List.mem_filter.1 hr).2
  rw [execute_select h.table hdecides, hnone]

end Database

end Tabula
