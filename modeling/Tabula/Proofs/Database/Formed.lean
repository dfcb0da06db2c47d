import Tabula.Proofs.Database.Steps

/-!
What statements keep of the form of a database.

Statements name things by text, and no row and no database has a name twice. What cells have in
common that a statement gives, or that a cast or a counter makes, all cells have, those of indexes
as well. Nothing is said about how far counters come.
-/

namespace Tabula

/-- Different names, and cells that satisfy `P`. -/
structure Row.Formed (P : Value → Prop) (row : Row) : Prop where
  named : ∀ c ∈ row, ∃ s, c.1 = Label.name s
  distinct : Keyed.Distinct (Keyed.keys row)
  cells : ∀ c ∈ row, P c.2

structure Table.Formed (P : Value → Prop) (t : Table) : Prop where
  columns : ∀ c ∈ t.columns, c.name.IsText ∧ c.declared.IsText
  primaryKey : t.constraints.primaryKey = .null ∨ t.constraints.primaryKey.IsText
  unique : ∀ j ∈ t.constraints.unique, j.IsText
  rows : ∀ r ∈ t.records, Row.Formed P r.row

structure Index.Formed (P : Value → Prop) (i : Index) : Prop where
  name : i.name.IsText
  table : i.table.IsText
  column : i.column.IsText
  keys : ∀ e ∈ i.entries, P e.1
  distinct : i.entries.Pairwise fun a b => a.1.sameKey b.1 = false
  rows : ∀ e ∈ i.entries, ∀ r ∈ e.2, Row.Formed P r.row

structure Database.Formed (P : Value → Prop) (db : Database) : Prop where
  tableNames : Keyed.Distinct (Keyed.keys db.tables)
  indexKeys : Keyed.Distinct (Keyed.keys db.indexes)
  tables : ∀ e ∈ db.tables, e.2.Formed P
  indexes : ∀ e ∈ db.indexes, e.2.Formed P

/-- What casts make of values that satisfy `Q` satisfies `P`. -/
structure ColumnType.Casts (Q P : Value → Prop) : Prop where
  declared : ∀ {type column v w notices}, Q v → cast type column v = .ok (w, notices) → P w
  undeclared : ∀ {v w}, Q v → castUndeclared v = .ok w → P w

/-- The values that a statement gives to be cast satisfy `Q`, those that it assigns satisfy `P`. -/
def Statement.Supplies (Q P : Value → Prop) : Statement → Prop
  | .insert _ _ values => ∀ v ∈ values, Q v
  | .update _ assignments _ => ∀ a ∈ assignments, P a.2
  | _ => True

variable {P Q : Value → Prop}

/-- Less may be asked of the cells. -/
lemma Database.Formed.mono {db : Database} (h : db.Formed P) (hpq : ∀ v, P v → Q v) :
    db.Formed Q := by
  have hrow {row : Row} (hr : row.Formed P) : row.Formed Q :=
    ⟨hr.named, hr.distinct, fun c hc => hpq _ (hr.cells c hc)⟩
  refine ⟨h.tableNames, h.indexKeys, fun e he => ?_, fun e he => ?_⟩
  · have ht := h.tables e he
    exact ⟨ht.columns, ht.primaryKey, ht.unique, fun r hr => hrow (ht.rows r hr)⟩
  · have hi := h.indexes e he
    exact ⟨hi.name, hi.table, hi.column, fun k hk => hpq _ (hi.keys k hk), hi.distinct,
      fun k hk r hr => hrow (hi.rows k hk r hr)⟩

/-! ### Rows -/

namespace Row

lemma Formed.nil : Formed P [] := ⟨by simp, List.Pairwise.nil, by simp⟩

lemma Formed.put {row : Row} (h : Formed P row) {s : String} {v : Value} (hv : P v) :
    Formed P (Keyed.put (.name s) v row) where
  named := by
    intro c hc
    rcases Keyed.mem_put hc with hc | ⟨-, hc | hc⟩
    · exact h.named c hc
    · exact ⟨s, hc⟩
    · obtain ⟨d, hd, hk⟩ := List.mem_map.1 hc
      rw [← hk]
      exact h.named d hd
  distinct := Keyed.distinct_keys_put h.distinct
  cells := Keyed.forall_put hv h.cells

lemma Formed.assign {row : Row} (h : Formed P row) {assignments : List (String × Value)}
    (ha : ∀ a ∈ assignments, P a.2) : Formed P (Row.assign row assignments) := by
  unfold Row.assign Keyed.putAll
  induction assignments generalizing row with
  | nil => exact h
  | cons a as ih =>
    exact ih (h.put (ha a List.mem_cons_self)) fun b hb => ha b (List.mem_cons_of_mem _ hb)

/-- A cell that is not there counts as well. -/
lemma Formed.at {row : Row} (h : Formed P row) (hnull : P .null) (l : Label) :
    P (Row.at row l) := by
  unfold Row.at
  cases hf : Keyed.find? row l with
  | none => exact hnull
  | some v =>
    obtain ⟨k, -, hm⟩ := Keyed.mem_of_find? hf
    exact h.cells (k, v) hm

/-- Every cell is that of a column. -/
lemma Formed.cell_of_mem {row : Row} (h : Formed P row) {c : Label × Value} (hc : c ∈ row) :
    ∃ column, c.1 = .name column ∧ Row.cell row column = c.2 := by
  obtain ⟨column, hl⟩ := h.named c hc
  refine ⟨column, hl, ?_⟩
  rw [Row.cell, Row.at, ← hl, Keyed.find?_of_mem h.distinct hc]
  rfl

end Row

/-! ### Tables -/

namespace Table

lemma formed_ofColumns (defs : List ColumnDeclaration) : (ofColumns defs).Formed P where
  columns := by
    intro c hc
    obtain ⟨d, -, rfl⟩ := List.mem_map.1 hc
    exact ⟨⟨_, rfl⟩, ⟨_, rfl⟩⟩
  primaryKey := by
    unfold ofColumns
    cases defs.find? (·.primaryKey) with
    | none => exact .inl rfl
    | some d => exact .inr ⟨_, rfl⟩
  unique := by
    intro j hj
    obtain ⟨d, -, rfl⟩ := List.mem_map.1 hj
    exact ⟨_, rfl⟩
  rows := by simp [ofColumns]

lemma Formed.row {t : Table} (h : t.Formed P) : ∀ row ∈ t.rows, Row.Formed P row := by
  intro row hrow
  obtain ⟨r, hr, rfl⟩ := List.mem_map.1 hrow
  exact h.rows r hr

lemma Formed.records {t : Table} (h : t.Formed P) {rs : List Record}
    (hrs : ∀ r ∈ rs, Row.Formed P r.row) : ({ t with records := rs } : Table).Formed P :=
  ⟨h.columns, h.primaryKey, h.unique, hrs⟩

lemma Formed.spend {t : Table} (h : t.Formed P) (columns : List String) :
    (t.spend columns).Formed P where
  columns := by
    rw [spend_columns]
    exact h.columns
  primaryKey := by
    rw [spend_constraints]
    exact h.primaryKey
  unique := by
    rw [spend_constraints]
    exact h.unique
  rows := by
    rw [spend_records]
    exact h.rows

/-- The key of a table is a name, if there is one. -/
lemma Formed.key {t : Table} (h : t.Formed P) :
    t.constraints.key = .ok none ∨ ∃ s, t.constraints.key = .ok (some (.name s)) := by
  unfold Constraints.key
  rcases h.primaryKey with hk | ⟨s, hk⟩
  · rw [hk]
    exact .inl rfl
  · rw [hk]
    split
    · exact .inl rfl
    · exact .inr ⟨s, rfl⟩

lemma casts_cast (hcasts : ColumnType.Casts Q P) {t : Table} {column : String} {v w : Value}
    {notices : List Notice} (hv : Q v) (h : t.cast column v = .ok (w, notices)) : P w := by
  unfold cast at h
  split at h
  · obtain ⟨type, -, hcast⟩ := bind_eq_ok.1 h
    exact hcasts.declared hv (mapError_eq_ok.1 hcast)
  · obtain ⟨u, hu, huw⟩ := map_eq_ok.1 h
    cases huw
    exact hcasts.undeclared hv (mapError_eq_ok.1 hu)

lemma formed_fill (hcasts : ColumnType.Casts Q P) {t : Table} {row filled : Row}
    {cells : List (String × Value)} (h : Row.Formed P row) (hc : ∀ c ∈ cells, Q c.2)
    (hf : (t.fill row cells).2 = .ok filled) : Row.Formed P filled := by
  induction cells generalizing row with
  | nil =>
    cases hf
    exact h
  | cons cell cells ih =>
    obtain ⟨column, v⟩ := cell
    rw [fill] at hf
    split at hf
    · cases hf
    · rename_i w notices hcast
      have hw : P w := casts_cast hcasts (hc (column, v) List.mem_cons_self) hcast
      exact ih (h.put hw) (fun d hd => hc d (List.mem_cons_of_mem _ hd)) hf

/-- The row that an insertion starts with. -/
lemma formed_startRow {t : Table} (h : t.Formed P) (hcounter : P (.int t.counter))
    {key : Option Label} (hk : t.constraints.key = .ok key) (columns : List String) :
    Row.Formed P (t.startRow key columns).1 := by
  unfold startRow
  split
  · rename_i l
    split
    · exact .nil
    · obtain hn | ⟨s, hs⟩ := h.key
      · rw [hn] at hk
        cases hk
      · obtain rfl : l = .name s := by
          rw [hs] at hk
          exact (Option.some.inj (Except.ok.inj hk)).symm
        exact Row.Formed.nil.put (v := .int t.counter) hcounter
  · exact .nil

end Table

/-! ### Indexes -/

namespace Index

lemma formed_empty (name table column : String) : (empty name table column).Formed P :=
  ⟨⟨_, rfl⟩, ⟨_, rfl⟩, ⟨_, rfl⟩, by simp [empty], List.Pairwise.nil, by simp [empty]⟩

lemma Formed.addUnder {i : Index} (h : i.Formed P) (hnull : P .null) (l : Label) {r : Record}
    (hr : Row.Formed P r.row) : (i.addUnder l r).Formed P where
  name := h.name
  table := h.table
  column := h.column
  keys := by
    intro e he
    rcases mem_addEntry he with he | rfl | ⟨d, hd, rfl⟩
    · exact h.keys e he
    · exact hr.at hnull l
    · exact h.keys d hd
  distinct := distinct_addEntry h.distinct
  rows := by
    intro e he q hq
    rcases mem_records_addUnder (mem_records.2 ⟨e, he, hq⟩) with rfl | hq
    · exact hr
    · obtain ⟨d, hd, hq⟩ := mem_records.1 hq
      exact h.rows d hd q hq

lemma formed_build (hnull : P .null) {rs : List Record} (h : ∀ r ∈ rs, Row.Formed P r.row)
    (name table column : String) : (build name table column rs).Formed P :=
  build_induction (formed_empty name table column) fun _ hi r hr => hi.addUnder hnull _ (h r hr)

lemma Formed.note {i : Index} (h : i.Formed P) (hnull : P .null) (name : String) {r : Record}
    (hr : Row.Formed P r.row) : (i.note name r).Formed P := by
  rcases note_cases name r i with hn | ⟨l, hn⟩
  · rwa [hn]
  · rw [hn]
    exact h.addUnder hnull l hr

lemma Formed.refresh {i : Index} (h : i.Formed P) {changed : List Record}
    (hc : ∀ r ∈ changed, Row.Formed P r.row) : (i.refresh changed).Formed P where
  name := h.name
  table := h.table
  column := h.column
  keys := by
    intro e he
    obtain ⟨d, hd, rfl⟩ := List.mem_map.1 he
    exact h.keys d hd
  distinct := List.pairwise_map.2 h.distinct
  rows := by
    intro e he q hq
    obtain ⟨r, hr, rfl⟩ := mem_records_refresh.1 (mem_records.2 ⟨e, he, hq⟩)
    obtain ⟨d, hd, hr⟩ := mem_records.1 hr
    rcases current_mem_or_eq changed r with hm | hm
    · exact hc _ hm
    · rw [hm]
      exact h.rows d hd r hr

end Index

/-! ### Databases -/

namespace Database

variable {db : Database} {name : String} {t : Table}

lemma formed_empty : empty.Formed P :=
  ⟨List.Pairwise.nil, List.Pairwise.nil, by simp [empty], by simp [empty]⟩

lemma Formed.table (h : db.Formed P) (ht : db.table? name = some t) : t.Formed P := by
  obtain ⟨k, -, hm⟩ := Keyed.mem_of_find? ht
  exact h.tables (k, t) hm

lemma Formed.putTable (h : db.Formed P) (ht : t.Formed P) (name : String) :
    (db.putTable name t).Formed P :=
  ⟨Keyed.distinct_keys_put h.tableNames, h.indexKeys, Keyed.forall_put ht h.tables, h.indexes⟩

lemma Formed.withIndexes (h : db.Formed P) {f : Index → Index} (freshId : Nat)
    (hf : ∀ i : Index, i.Formed P → (f i).Formed P) :
    ({ db with indexes := Keyed.mapValues f db.indexes, freshId } : Database).Formed P where
  tableNames := h.tableNames
  indexKeys := by
    rw [Keyed.keys_mapValues]
    exact h.indexKeys
  tables := h.tables
  indexes := by
    intro e he
    obtain ⟨d, hd, rfl⟩ := List.mem_map.1 he
    exact hf d.2 (h.indexes d hd)

/-- **A statement keeps the form of a database.** -/
theorem Formed.execute (h : db.Formed P) (hcasts : ColumnType.Casts Q P) (hnull : P .null)
    (hcounters : ∀ e ∈ db.tables, P (.int e.2.counter)) {s : Statement} (hs : s.Supplies Q P) :
    (db.execute s).database.Formed P := by
  have hstep := step_execute (fun e he => (h.indexes e he).column) s
  generalize (db.execute s).database = after at hstep
  cases hstep with
  | same => exact h
  | create name defs => exact h.putTable (Table.formed_ofColumns defs) name
  | refuse columns values ht => exact h.putTable ((h.table ht).spend columns) _
  | @append name t key columns values row ht hkey hrow hfault =>
    have htable := h.table ht
    obtain ⟨k, -, hm⟩ := Keyed.mem_of_find? ht
    have hr : Row.Formed P row :=
      Table.formed_fill hcasts (Table.formed_startRow htable (hcounters (k, t) hm) hkey columns)
        (fun c hc => hs c.2 (List.of_mem_zip hc).2) hrow
    have hrows : ∀ r ∈ t.records ++ [⟨db.freshId, row⟩], Row.Formed P r.row := by
      intro r hm
      rcases List.mem_append.1 hm with hm | hm
      · exact htable.rows r hm
      · rw [List.mem_singleton.1 hm]
        exact hr
    exact (h.putTable ((htable.spend columns).records hrows) name).withIndexes _
      fun i hi => hi.note hnull name (r := ⟨db.freshId, row⟩) hr
  | @update name t assignments c ht =>
    have hrows : ∀ r ∈ (t.update assignments c).1.records, Row.Formed P r.row :=
      Table.forall_updateRecords (h.table ht).rows fun r hr => hr.assign hs
    exact (h.putTable ((h.table ht).records hrows) name).withIndexes _ fun i hi => hi.refresh hrows
  | @delete name t c gone kept ht hc =>
    have hkept := (Condition.sublist_partition hc).2
    exact h.putTable ((h.table ht).records fun r hr => (h.table ht).rows r (hkept.subset hr)) name
  | @index name t index column ht =>
    exact ⟨h.tableNames, Keyed.distinct_keys_put h.indexKeys, h.tables, Keyed.forall_put
      (Index.formed_build hnull (h.table ht).rows index name column) h.indexes⟩

/-! ### Identities do not matter -/

end Database

lemma Table.formed_content {t : Table} : t.content.Formed P ↔ t.Formed P := by
  constructor
  · intro h
    exact ⟨h.columns, h.primaryKey, h.unique, fun r hr => h.rows r.content (List.mem_map_of_mem hr)⟩
  · intro h
    refine ⟨h.columns, h.primaryKey, h.unique, fun r hr => ?_⟩
    obtain ⟨q, hq, rfl⟩ := List.mem_map.1 hr
    exact h.rows q hq

lemma Index.formed_content {i : Index} : i.content.Formed P ↔ i.Formed P := by
  constructor
  · intro h
    refine ⟨h.name, h.table, h.column, fun e he => ?_, List.pairwise_map.1 h.distinct,
      fun e he r hr => ?_⟩
    · exact h.keys (e.1, e.2.map Record.content) (List.mem_map.2 ⟨e, he, rfl⟩)
    · exact h.rows (e.1, e.2.map Record.content) (List.mem_map.2 ⟨e, he, rfl⟩) r.content
        (List.mem_map_of_mem hr)
  · intro h
    refine ⟨h.name, h.table, h.column, fun e he => ?_, List.pairwise_map.2 h.distinct,
      fun e he r hr => ?_⟩
    · obtain ⟨d, hd, rfl⟩ := List.mem_map.1 he
      exact h.keys d hd
    · obtain ⟨d, hd, rfl⟩ := List.mem_map.1 he
      obtain ⟨q, hq, rfl⟩ := List.mem_map.1 hr
      exact h.rows d hd q hq

namespace Database

lemma formed_content {db : Database} : db.content.Formed P ↔ db.Formed P := by
  have hkeys : Keyed.keys db.content.tables = Keyed.keys db.tables := Keyed.keys_mapValues _ _
  have hkeys' : Keyed.keys db.content.indexes = Keyed.keys db.indexes := Keyed.keys_mapValues _ _
  constructor
  · intro h
    refine ⟨hkeys ▸ h.tableNames, hkeys' ▸ h.indexKeys, fun e he => ?_, fun e he => ?_⟩
    · exact Table.formed_content.1 (h.tables _ (List.mem_map_of_mem he))
    · exact Index.formed_content.1 (h.indexes _ (List.mem_map_of_mem he))
  · intro h
    refine ⟨hkeys ▸ h.tableNames, hkeys' ▸ h.indexKeys, fun e he => ?_, fun e he => ?_⟩
    · obtain ⟨d, hd, rfl⟩ := List.mem_map.1 he
      exact Table.formed_content.2 (h.tables d hd)
    · obtain ⟨d, hd, rfl⟩ := List.mem_map.1 he
      exact Index.formed_content.2 (h.indexes d hd)

lemma Formed.congr {a b : Database} (h : a.Formed P) (hab : a.content = b.content) :
    b.Formed P := by
  rw [← formed_content, ← hab]
  exact formed_content.2 h

end Database

end Tabula
