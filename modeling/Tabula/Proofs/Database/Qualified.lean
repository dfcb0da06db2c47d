import Tabula.Proofs.Condition
import Tabula.Proofs.Database.Made
import Tabula.Proofs.Database.Matching
import Tabula.Proofs.Statement.Names

/-!
References that are qualified, in statements without a join.

A row has its cells under names without a qualifier, and these have the shape of words. A qualified
reference stands for the text with the point in it, which is no such name. So it finds no cell and
reads as NULL in every row, whether or not the table has a column of the name behind the point:
a condition on it is met by all rows or by none, and a query for it is answered with NULL.
-/

namespace Tabula

/-! ### Labels that are words -/

def Label.Worded (l : Label) : Prop := ∃ s, IsWord s ∧ l = .name s

namespace Row

/-- The cells of a row have words for labels. -/
def Worded (row : Row) : Prop := ∀ l ∈ Keyed.keys row, l.Worded

variable {row : Row} {column : String}

lemma Worded.nil : Worded [] := List.forall_mem_nil _

lemma Worded.put (h : Worded row) (hc : IsWord column) (v : Value) :
    Worded (Keyed.put (.name column) v row) :=
  Keyed.forall_keys_put ⟨column, hc, rfl⟩ h

lemma Worded.assign (h : Worded row) {assignments : List (String × Value)}
    (ha : ∀ c ∈ Keyed.keys assignments, IsWord c) : Worded (Row.assign row assignments) := by
  refine Keyed.forall_keys_putAll (fun l hl => ?_) h
  obtain ⟨cell, hcell, rfl⟩ := List.mem_map.1 hl
  obtain ⟨a, hassigned, rfl⟩ := List.mem_map.1 hcell
  exact ⟨a.1, ha a.1 (List.mem_map_of_mem hassigned), rfl⟩

/-- There is no cell under a text with a point in it. -/
lemma Worded.cell_eq_null (h : Worded row) (hp : '.' ∈ column.toList) :
    Row.cell row column = .null := by
  have hnone : Keyed.find? row (.name column) = none := by
    refine Keyed.find?_eq_none fun l hl => ?_
    obtain ⟨s, hs, rfl⟩ := h l hl
    rw [Label.same_name, beq_eq_false_iff_ne]
    rintro rfl
    exact hs.point_notMem hp
  rw [cell, Row.at, hnone]
  rfl

/-- The columns that a row is cut down to have their cells. -/
lemma find?_project {columns : List String} (h : column ∈ columns) :
    Keyed.find? (Row.project row columns) (.name column) = some (Row.cell row column) := by
  rw [Row.project, Keyed.find?_ofList]
  cases hfound : (columns.map fun c => (Label.name c, Row.cell row c)).reverse.find?
      fun x => Key.same x.1 (.name column) with
  | none =>
    rw [List.find?_eq_none] at hfound
    have hlast := hfound (.name column, Row.cell row column)
      (List.mem_reverse.2 (List.mem_map_of_mem h))
    exact absurd (Key.same_refl _) hlast
  | some x =>
    have hsame := List.find?_some hfound
    obtain ⟨c, -, rfl⟩ := List.mem_map.1 (List.mem_reverse.1 (List.mem_of_find?_eq_some hfound))
    rw [Label.same_name, beq_iff_eq] at hsame
    rw [Option.map_some, hsame]

end Row

/-! ### Tables -/

namespace Table

/-- The primary key and the cells of the rows have words for labels. -/
structure Worded (t : Table) : Prop where
  key : ∀ l, t.constraints.key = .ok (some l) → l.Worded
  rows : ∀ r ∈ t.records, Row.Worded r.row

variable {t u : Table} {columns : List String}

lemma worded_ofColumns {defs : List ColumnDeclaration} (h : ∀ d ∈ defs, IsWord d.name) :
    (ofColumns defs).Worded := by
  refine ⟨fun l hl => ?_, List.forall_mem_nil _⟩
  obtain ⟨s, hs, rfl⟩ :=
    primaryKey_of_key (formed_ofColumns (P := fun _ => True) defs).primaryKey hl
  refine ⟨s, ?_, rfl⟩
  unfold ofColumns at hs
  cases hfound : defs.find? (·.primaryKey) with
  | none =>
    rw [hfound] at hs
    cases hs
  | some d =>
    rw [hfound] at hs
    cases hs
    exact h d (List.mem_of_find?_eq_some hfound)

lemma worded_fill {row filled : Row} {cells : List (String × Value)} (h : Row.Worded row)
    (hc : ∀ c ∈ cells, IsWord c.1) (hf : (t.fill row cells).2 = .ok filled) :
    Row.Worded filled := by
  induction cells generalizing row with
  | nil =>
    cases hf
    exact h
  | cons cell cells ih =>
    obtain ⟨hcell, hcells⟩ := List.forall_mem_cons.1 hc
    rw [fill] at hf
    split at hf
    · cases hf
    · exact ih (h.put hcell _) hcells hf

lemma Worded.startRow (h : t.Worded) {key : Option Label} (hk : t.constraints.key = .ok key)
    (columns : List String) : Row.Worded (t.startRow key columns).1 := by
  cases key with
  | none => exact .nil
  | some l =>
    rw [Table.startRow]
    split
    · exact .nil
    · exact List.forall_mem_singleton.2 (h.key l hk)

/-- What a statement does to a table keeps its labels words, if the statement names words. -/
lemma Worded.step (h : t.Worded) {name : String} {id : Nat} {s : Statement}
    (hs : ∀ c ∈ s.columnNames, IsWord c) (hstep : Step name id t s u) : u.Worded := by
  refine ⟨hstep.constraints ▸ h.key, ?_⟩
  cases hstep with
  | other => exact h.rows
  | refuse columns values =>
    rw [spend_records]
    exact h.rows
  | @append key columns values row hkey hrow =>
    have hcells : ∀ c ∈ columns.zip values, IsWord c.1 :=
      fun c hc => hs c.1 (List.of_mem_zip hc).1
    have hnew : Row.Worded row := worded_fill (h.startRow hkey columns) hcells hrow
    exact List.forall_mem_append.2 ⟨h.rows, List.forall_mem_singleton.2 hnew⟩
  | update assignments c => exact forall_updateRecords h.rows fun r hr => hr.assign hs
  | delete c hkept => exact fun r hr => h.rows r (hkept.subset hr)

end Table

namespace Log

variable {log : Log} {name : String} {t : Table}

/-- The labels in a table are words, if the statements behind it have been given in commands. -/
lemma Given.worded (hg : log.Given) (h : log.table? name = some t) : t.Worded := by
  refine table_induction (P := fun log t => log.Given → t.Worded) ?_ ?_ h hg
  · intro log defs hg
    obtain ⟨text, hp⟩ := hg _ List.mem_concat_self
    exact Table.worded_ofColumns (List.forall_mem_map.1 (Statement.isWord_of_columnNames hp))
  · intro log s t u _ ih _ hstep hg
    obtain ⟨text, hp⟩ := hg s List.mem_concat_self
    have hbefore := ih fun q hq => hg q (List.mem_append_left _ hq)
    exact hbefore.step (Statement.isWord_of_columnNames hp) hstep

end Log

/-! ### Conditions and queries -/

lemma ColumnName.point_mem {r : ColumnName} (hr : r.table.isSome = true) : '.' ∈ r.text.toList := by
  obtain ⟨table, ht⟩ := Option.isSome_iff_exists.1 hr
  rw [text, ht]
  simp

namespace Condition

variable {c : Condition} {rows : List Row}

/-- Conditions choose the same rows just if the same rows satisfy them. -/
lemma chosen_eq_iff {d : Condition} : c.chosen rows = d.chosen rows ↔
    ∀ row ∈ rows, c.holds row = .ok true ↔ d.holds row = .ok true := by
  constructor
  · intro h row hrow
    have hmem : row ∈ c.chosen rows ↔ row ∈ d.chosen rows := by rw [h]
    simpa [chosen, hrow] using hmem
  · intro h
    exact List.filter_congr fun row hrow => by simp [h row hrow]

/-- A condition on a cell that is NULL in every row. -/
lemma holds_null (h : ∀ row ∈ rows, Row.cell row c.column.text = .null) :
    ∀ row ∈ rows, c.holds row = .ok (c.comparison.acceptsNull (c.value == .null)) := by
  intro row hrow
  rw [holds, h row hrow, Comparison.holds_null (.inl rfl)]
  rfl

lemma chosen_null (h : ∀ row ∈ rows, Row.cell row c.column.text = .null) :
    c.chosen rows = if c.comparison.acceptsNull (c.value == .null) then rows else [] := by
  have hholds := holds_null h
  split
  · rename_i hall
    exact List.filter_eq_self.2 fun row hrow => by simp [hholds row hrow, hall]
  · rename_i hnone
    exact List.filter_eq_nil_iff.2 fun row hrow => by simp [hholds row hrow, hnone]

end Condition

/-- The rows that a query is about: those that satisfy its condition, if it has one. -/
def Table.picked (t : Table) (c : Option Condition) : List Row :=
  c.elim t.rows (·.chosen t.rows)

lemma Table.picked_subset (t : Table) (c : Option Condition) : t.picked c ⊆ t.rows := by
  cases c with
  | none => exact List.Subset.refl _
  | some d => exact List.filter_subset_self _

namespace Database

variable {db : Database} {name : String} {t : Table} {r : ColumnName} {P : Value → Prop}

/-- In a table that commands have made, the cells of the rows have words for labels. -/
lemma Made.worded (h : db.Made name) (ht : db.table? name = some t) :
    ∀ row ∈ t.rows, Row.Worded row := by
  obtain ⟨log, hgiven, _, u, hfound, hu, halike⟩ := h
  obtain rfl := Option.some.inj (ht.symm.trans hfound)
  rw [halike.rows]
  intro row hrow
  obtain ⟨r, hr, rfl⟩ := List.mem_map.1 hrow
  exact (hgiven.worded hu).rows r hr

/-- A qualified reference reads as NULL in every row of a table. A condition on it is met by all
rows if NULL meets it, and by none if not; queries, updates and deletions are about these. In the
answer of a query NULL stands under the reference. So the condition chooses what the same condition
on the column does just if each row meets the latter as NULL would, and the answers show the same
cells just if the column has no others than NULL. -/
structure ReadsNull (db : Database) (name : String) (t : Table) (r : ColumnName) : Prop where
  chosen (op : Comparison) (v : Value) : Condition.chosen ⟨r, op, v⟩ t.rows =
    if op.acceptsNull (v == .null) then t.rows else []
  select (op : Comparison) (v : Value) : ∀ columns,
    db.execute (.select name columns none (some ⟨r, op, v⟩)) =
      db.unchanged (.ok (.rows (project columns (Condition.chosen ⟨r, op, v⟩ t.rows))))
  update (op : Comparison) (v : Value) : ∀ assignments,
    Keyed.Distinct (Keyed.keys assignments) →
      db.Updates name t assignments ⟨r, op, v⟩ (db.execute (.update name assignments ⟨r, op, v⟩))
  delete (op : Comparison) (v : Value) :
    db.Deletes name t ⟨r, op, v⟩ (db.execute (.delete name ⟨r, op, v⟩))
  listed : ∀ refs (c : Option Condition), r ∈ refs → (∀ d ∈ c, d.Decides t.rows) →
    (db.execute (.select name (some refs) none c)).outcome =
        .ok (.rows (project (some refs) (t.picked c))) ∧
      ∀ row ∈ project (some refs) (t.picked c), Keyed.find? row (.name r.text) = some .null
  sameRows (op : Comparison) (v : Value) : Condition.chosen ⟨r, op, v⟩ t.rows =
      Condition.chosen ⟨⟨none, r.column⟩, op, v⟩ t.rows ↔
    ∀ row ∈ t.rows, Condition.holds ⟨⟨none, r.column⟩, op, v⟩ row = .ok true ↔
      op.acceptsNull (v == .null) = true
  sameCells : t.rows.map (Row.cell · r.text) = t.rows.map (Row.cell · r.column) ↔
    ∀ row ∈ t.rows, Row.cell row r.column = .null

lemma execute_select_picked (ht : db.table? name = some t) {c : Option Condition}
    (hc : ∀ d ∈ c, d.Decides t.rows) (columns : Option (List ColumnName)) :
    (db.execute (.select name columns none c)).outcome =
      .ok (.rows (project columns (t.picked c))) := by
  cases c with
  | none =>
    rw [execute, select, table_eq_ok.2 ht]
    rfl
  | some d =>
    rw [execute_select_columns ht (hc d rfl)]
    rfl

/-- **In a table that commands have made, a qualified reference reads as NULL.** -/
theorem Made.readsNull (h : db.Made name) (ht : db.table? name = some t) (hf : t.Formed P)
    (hr : r.table.isSome = true) : db.ReadsNull name t r := by
  have hcells : ∀ row ∈ t.rows, Row.cell row r.text = .null :=
    fun row hrow => (h.worded ht row hrow).cell_eq_null (ColumnName.point_mem hr)
  have hholds (op : Comparison) (v : Value) := @Condition.holds_null ⟨r, op, v⟩ t.rows hcells
  have hdecides (op : Comparison) (v : Value) : Condition.Decides ⟨r, op, v⟩ t.rows :=
    fun row hrow => ⟨_, hholds op v row hrow⟩
  refine ⟨fun op v => Condition.chosen_null hcells,
    fun op v => execute_select_columns ht (hdecides op v),
    fun op v _ ha => execute_update ht hf (hdecides op v) ha,
    fun op v => execute_delete ht (hdecides op v),
    fun refs c hmem hc => ⟨execute_select_picked ht hc _, fun row hrow => ?_⟩, fun op v => ?_, ?_⟩
  · obtain ⟨whole, hwhole, rfl⟩ := List.mem_map.1 hrow
    rw [Row.find?_project (List.mem_map_of_mem hmem), hcells whole (t.picked_subset c hwhole)]
  · rw [Condition.chosen_eq_iff]
    refine forall₂_congr fun row hrow => ?_
    rw [hholds op v row hrow, Except.ok.injEq]
    exact iff_comm
  · rw [List.map_inj_left]
    refine forall₂_congr fun row hrow => ?_
    rw [hcells row hrow, eq_comm]

end Database

end Tabula
