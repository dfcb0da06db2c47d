import Tabula.Proofs.Database.Counter
import Tabula.Proofs.Database.Kept
import Tabula.Proofs.Value.Typed

/-!
What the cells of a column are.

The cells of rows that no update has touched are NULL or of the type of their columns. There is one
exception: a primary key that was left out is the counter, a whole number, whatever type its column
has.
-/

namespace Tabula

lemma ColumnType.casts_plain : Casts Value.Storable Value.Plain :=
  ⟨fun hv h => plain_of_admits (cast_admits h) (storable_cast hv h),
    fun _ h => plain_of_admits (castUndeclared_admits h) (storable_castUndeclared h)⟩

namespace Statement

def updates (s : Statement) (name : String) : Bool :=
  match s with
  | .update table _ _ => table == name
  | _ => false

lemma supplies_plain {command : String} {s : Statement} (h : parse command = .ok s) :
    s.Supplies Value.Storable Value.Plain := by
  have hstorable := storable_parse h
  have hplain := plain_parse h
  cases s with
  | insert => exact hstorable
  | update => exact hplain.1
  | createTable | select | delete | createIndex | showTables | describe => trivial

end Statement

/-! ### One table -/

namespace Table

variable {t u : Table} {column : String} {columns : List String}

/-- The values that the cells of a column have: NULL, and those of its type. Without a declaration
it is a column of text. -/
def Types (t : Table) (column : String) (v : Value) : Prop :=
  v = .null ∨
    match t.column? column with
    | some c => ∃ type, c.type = .ok type ∧ type.Admits v
    | none => ColumnType.text.Admits v

/-- Whether a column is the primary key and is not listed. -/
def LeavesOut (t : Table) (columns : List String) (column : String) : Prop :=
  t.constraints.key = .ok (some (.name column)) ∧ column ∉ columns

/-- The cells of a row that was inserted into these columns have the types of their columns, but a
key that was left out is a whole number. -/
def TypesRow (t : Table) (columns : List String) (row : Row) : Prop :=
  ∀ column, (t.LeavesOut columns column → ∃ n, Row.cell row column = .int n) ∧
    (¬ t.LeavesOut columns column → t.Types column (Row.cell row column))

lemma TypesRow.congr {row : Row} (h : t.TypesRow columns row) (hc : u.columns = t.columns)
    (hk : u.constraints = t.constraints) : u.TypesRow columns row := by
  unfold TypesRow LeavesOut Types column? at h ⊢
  rwa [hc, hk]

lemma types_cast {v w : Value} {notices : List Notice} (h : t.cast column v = .ok (w, notices)) :
    t.Types column w := by
  unfold cast at h
  unfold Types
  cases hc : t.column? column with
  | some c =>
    rw [hc] at h
    obtain ⟨type, htype, hcast⟩ := bind_eq_ok.1 h
    exact (ColumnType.cast_admits (mapError_eq_ok.1 hcast)).imp_right
      fun ha => ⟨type, mapError_eq_ok.1 htype, ha⟩
  | none =>
    rw [hc] at h
    obtain ⟨x, hx, hw⟩ := map_eq_ok.1 h
    cases hw
    exact ColumnType.castUndeclared_admits (mapError_eq_ok.1 hx)

/-- A cell is filled in with a value of its type, or it is as it was before. -/
lemma cell_fill {row filled : Row} {cells : List (String × Value)}
    (h : (t.fill row cells).2 = .ok filled) (column : String) :
    t.Types column (Row.cell filled column) ∨
      column ∉ cells.map (·.1) ∧ Row.cell filled column = Row.cell row column := by
  induction cells generalizing row with
  | nil =>
    cases h
    exact .inr ⟨by simp, rfl⟩
  | cons cell cells ih =>
    obtain ⟨c, v⟩ := cell
    rw [fill] at h
    split at h
    · cases h
    · rename_i w notices hcast
      rcases ih h with htyped | ⟨hnot, hcell⟩
      · exact .inl htyped
      · rw [hcell, Row.cell, Row.at, Keyed.find?_put, Label.same_name]
        by_cases hc : c = column
        · subst hc
          left
          simpa using types_cast hcast
        · right
          rw [if_neg (by simpa using hc)]
          exact ⟨List.not_mem_cons_of_ne_of_not_mem (Ne.symm hc) hnot, rfl⟩

/-- The row of an insertion that is not refused. -/
lemma typesRow_fill {values : List Value} {key : Option Label} {row : Row}
    (hk : t.constraints.key = .ok key) (hname : ∀ l ∈ key, ∃ s, l = .name s)
    (hrow : (t.fill (t.startRow key columns).1 (columns.zip values)).2 = .ok row) :
    t.TypesRow columns row := by
  intro column
  have hfilled := cell_fill hrow column
  constructor
  · rintro ⟨hkey, hc⟩
    obtain rfl : some (.name column) = key := Except.ok.inj (hkey.symm.trans hk)
    exact ⟨t.counter, at_drawn hc hrow⟩
  · intro hnot
    rcases hfilled with htyped | ⟨-, hcell⟩
    · exact htyped
    · -- a cell that is neither filled in nor the key is not there
      left
      rw [hcell]
      cases key with
      | none => rfl
      | some l =>
        obtain ⟨s, rfl⟩ := hname l rfl
        rw [startRow_of_name]
        split
        · rfl
        · rename_i hs
          have hne : s ≠ column := by
            rintro rfl
            exact hnot ⟨hk, by simpa using hs⟩
          simp [Row.cell, Row.at, Keyed.find?, Label.same_name, hne]

end Table

/-! ### Logs -/

namespace Log

variable {log : Log} {name : String} {t : Table}

/-- Tables are of the right form, whatever their cells are. -/
lemma formed (h : log.table? name = some t) : t.Formed fun _ => True := by
  refine table_induction (P := fun _ t => t.Formed fun _ => True) ?_ ?_ h
  · exact fun log defs => Table.formed_ofColumns defs
  · intro log s t u _ ih _ hstep
    cases hstep with
    | other s hs => exact ih
    | refuse columns values => exact ih.spend columns
    | @append key columns values row hkey hrow =>
      have hcasts : ColumnType.Casts (fun _ => True) fun _ => True :=
        ⟨fun _ _ => trivial, fun _ _ => trivial⟩
      have hnew : Row.Formed (fun _ => True) row :=
        Table.formed_fill hcasts (Table.formed_startRow ih trivial hkey columns)
          (fun _ _ => trivial) hrow
      refine (ih.spend columns).records fun r hr => ?_
      rcases List.mem_append.1 hr with hr | hr
      · exact ih.rows r hr
      · rw [List.mem_singleton.1 hr]
        exact hnew
    | update assignments c =>
      exact ih.records (Table.forall_updateRecords ih.rows fun r hr => hr.assign fun _ _ => trivial)
    | delete c hk => exact ih.records fun r hr => ih.rows r (hk.subset hr)

/-- **Cells have the types of their columns**, as long as no update has touched the table. -/
theorem typesRow (h : log.table? name = some t)
    (hu : ∀ s ∈ log.since name, s.updates name = false) :
    ∀ r ∈ t.records, ∃ columns values, log[r.id]? = some (.insert name columns values) ∧
      t.TypesRow columns r.row := by
  refine table_induction (P := fun log t => (∀ s ∈ log.since name, s.updates name = false) →
    ∀ r ∈ t.records, ∃ columns values, log[r.id]? = some (.insert name columns values) ∧
      t.TypesRow columns r.row) ?_ ?_ h hu
  · intro log defs _ r hr
    cases hr
  · intro log s t u ht ih hs hstep hu
    rw [since_concat hs, List.forall_mem_cons] at hu
    have hold : ∀ r ∈ t.records, ∃ columns values,
        (log ++ [s])[r.id]? = some (.insert name columns values) ∧ u.TypesRow columns r.row := by
      intro r hr
      obtain ⟨columns, values, hget, htyped⟩ := ih hu.2 r hr
      rw [List.getElem?_append_left (id_lt ht hr)]
      exact ⟨columns, values, hget, htyped.congr hstep.columns hstep.constraints⟩
    have hcolumns := hstep.columns
    have hconstraints := hstep.constraints
    cases hstep with
    | other s hs => exact hold
    | refuse columns values =>
      rw [Table.spend_records]
      exact hold
    | @append key columns values row hkey hrow =>
      intro r hr
      rcases List.mem_append.1 hr with hr | hr
      · exact hold r hr
      · obtain rfl := List.mem_singleton.1 hr
        have hname : ∀ l ∈ key, ∃ s, l = .name s := by
          rcases (formed ht).key with hn | ⟨s, hn⟩
          · obtain rfl : none = key := Except.ok.inj (hn.symm.trans hkey)
            simp
          · obtain rfl : some (.name s) = key := Except.ok.inj (hn.symm.trans hkey)
            simp
        exact ⟨columns, values, List.getElem?_concat_length,
          (Table.typesRow_fill hkey hname hrow).congr hcolumns hconstraints⟩
    | update assignments c => simp [Statement.updates] at hu
    | delete c hk => exact fun r hr => hold r (hk.subset hr)

/-- The rows of a table are those that a log makes, and every cell has the type of its column. Which
columns were listed for a row is found in the log. -/
def Types (log : Log) (name : String) (t : Table) : Prop :=
  ∃ u, log.table? name = some u ∧ t.Alike u ∧
    ∀ r ∈ u.records, ∃ columns values, log[r.id]? = some (.insert name columns values) ∧
      (∀ c ∈ r.row, ∃ column, c.1 = .name column ∧ Row.cell r.row column = c.2) ∧
      t.TypesRow columns r.row

end Log

lemma Database.Follows.types {db : Database} {log : Log} (h : db.Follows log) {name : String}
    {t : Table} (ht : db.table? name = some t)
    (hu : ∀ s ∈ log.since name, s.updates name = false) : log.Types name t := by
  obtain ⟨u, hlog, halike⟩ := h name t ht
  refine ⟨u, hlog, halike, fun r hr => ?_⟩
  obtain ⟨columns, values, hget, htyped⟩ := Log.typesRow hlog hu r hr
  exact ⟨columns, values, hget, fun c hc => ((Log.formed hlog).rows r hr).cell_of_mem hc,
    htyped.congr halike.columns halike.constraints⟩

end Tabula
