import Tabula.Proofs.Database.Found
import Tabula.Proofs.Database.Whole
import Tabula.Proofs.Number.Text

/-!
Numbers that are stored as text.

A column that is not one of numbers stores a number as a text that spells it. Text that spells a
number is loosely equal to it, so a query for the number finds the row, unless it fails on another.
-/

namespace Tabula

variable {x : Number} {s column : String}

/-- A text that spells a number is loosely equal to it. -/
lemma Number.SpelledBy.looselyEqual (h : x.SpelledBy s) :
    (Value.text s).looselyEqual (.ofNumber x) = .ok true := by
  obtain ⟨n, hread, hequal⟩ := h
  cases x <;>
  · simp only [Value.looselyEqual, Value.ofNumber, Value.pair, Value.number?, hread]
    exact congrArg Except.ok hequal

namespace Condition

variable {c : Condition} {rows : List Row}

/-- Where a condition cannot be decided for all rows, it fails on one of them. -/
lemma exists_undecided (h : ¬ c.Decides rows) : ∃ row ∈ rows, ∃ fault,
    c.holds row = .error fault ∧ c.partition id rows = .error fault := by
  induction rows with
  | nil => exact absurd (List.forall_mem_nil _) h
  | cons row rows ih =>
    cases hrow : c.holds row with
    | error fault =>
      refine ⟨row, List.mem_cons_self, fault, hrow, ?_⟩
      rw [partition, id, hrow]
      rfl
    | ok matched =>
      have hlater : ¬ c.Decides rows := fun hd => h (List.forall_mem_cons.2 ⟨⟨matched, hrow⟩, hd⟩)
      obtain ⟨other, hother, fault, hholds, hpartition⟩ := ih hlater
      refine ⟨other, List.mem_cons_of_mem _ hother, fault, hholds, ?_⟩
      rw [partition, id, hrow, hpartition]
      rfl

end Condition

namespace Table

variable {t : Table} {P : Value → Prop}

/-- A column that is neither one of whole nor one of floating-point numbers stores a number as a
text that spells it. -/
lemma exists_cast_ofNumber (hf : t.Formed P) (hint : ¬ t.Declares column .integer)
    (hreal : ¬ t.Declares column .real) (hx : x.IsFinite) :
    ∃ s, t.cast column (.ofNumber x) = .ok (.text s, []) ∧ x.SpelledBy s := by
  unfold cast
  cases hc : t.column? column with
  | none =>
    obtain ⟨s, hs, hspelled⟩ := Number.exists_shown hx
    have hcast : ColumnType.castUndeclared (.ofNumber x) = .text <$> (Value.ofNumber x).shown := by
      cases x <;> rfl
    refine ⟨s, ?_, hspelled⟩
    dsimp only
    rw [hcast, hs]
    rfl
  | some c =>
    obtain ⟨-, declared, hdeclared⟩ := hf.columns c (List.mem_of_find?_eq_some hc)
    have htype : c.type = .ok (.ofDeclared declared) := by
      rw [Column.type, hdeclared]
      rfl
    obtain ⟨s, hs, hspelled⟩ := Number.exists_asText hx
    have htext : ColumnType.ofDeclared declared = .text := by
      cases hdecl : ColumnType.ofDeclared declared with
      | text => rfl
      | integer => exact absurd ⟨c, hc, hdecl ▸ htype⟩ hint
      | real => exact absurd ⟨c, hc, hdecl ▸ htype⟩ hreal
    refine ⟨s, ?_, hspelled⟩
    dsimp only
    rw [htype, htext]
    change (ColumnType.text.cast column (.ofNumber x)).mapError Failure.number = _
    rw [ColumnType.cast, hs]
    rfl

end Table

namespace Database

variable {db : Database} {name : String} {t : Table} {columns : List String} {values : List Value}
  {c : Condition} {P : Value → Prop}

lemma execute_select_undecided (ht : db.table? name = some t) (hc : ¬ c.Decides t.rows) :
    ∃ row ∈ t.rows, ∃ fault, c.holds row = .error fault ∧
      (db.execute (.select name none none (some c))).outcome = .error (.number fault) := by
  obtain ⟨row, hrow, fault, hholds, hpartition⟩ := Condition.exists_undecided hc
  refine ⟨row, hrow, fault, hholds, ?_⟩
  have hselect : t.select (some c) = .error fault := by
    rw [Table.select, hpartition]
    rfl
  rw [execute, select, table_eq_ok.2 ht]
  change (db.unchanged ((t.select (some c)).mapError Failure.number >>= _)).outcome = _
  rw [hselect]
  rfl

/-- A number has been stored as text that spells it, in a new row at the end of a table. A query for
the number finds the row, behind the rows that it has found before, or fails on one of those. -/
structure StoresSpelled (db : Database) (name : String) (t : Table) (column : String) (x : Number)
    (row : Row) (after : Database) : Prop where
  spelled : ∃ s, Row.cell row column = .text s ∧ x.SpelledBy s
  table : after.table? name = some { t with records := t.records ++ [⟨db.freshId, row⟩] }
  found : (Condition.keyIs column (.ofNumber x)).Decides t.rows →
    (after.execute (.select name none none (some (.keyIs column (.ofNumber x))))).outcome =
      .ok (.rows ((Condition.keyIs column (.ofNumber x)).chosen t.rows ++ [row]))
  failed : ¬ (Condition.keyIs column (.ofNumber x)).Decides t.rows →
    ∃ other ∈ t.rows, ∃ fault, (Condition.keyIs column (.ofNumber x)).holds other = .error fault ∧
      (after.execute (.select name none none (some (.keyIs column (.ofNumber x))))).outcome =
        .error (.number fault)

/-- **A number that is stored as text is found again.** -/
theorem storesSpelled (hi : ∀ e ∈ db.indexes, e.2.column.IsText) (ht : db.table? name = some t)
    (hf : t.Formed P) (hc : t.constraints.Absent) (hint : ¬ t.Declares column .integer)
    (hreal : ¬ t.Declares column .real) (hx : x.IsFinite)
    (hg : t.Gives columns values column (.ofNumber x)) :
    (db.execute (.insert name columns values)).outcome = .ok (.done .inserted) ∧
      ∃ row, db.StoresSpelled name t column x row
        (db.execute (.insert name columns values)).database := by
  obtain ⟨s, hcast, hspelled⟩ := Table.exists_cast_ofNumber hf hint hreal hx
  obtain ⟨houtcome, ⟨row, hcell, htable⟩, -⟩ := stores_of_cast hi ht hc hg hcast
  have hrow : (Condition.keyIs column (.ofNumber x)).holds row = .ok true := by
    rw [Condition.holds_keyIs, hcell, hspelled.looselyEqual]
  have hrows : ({ t with records := t.records ++ [⟨db.freshId, row⟩] } : Table).rows =
      t.rows ++ [row] := Table.rows_concat t t ⟨db.freshId, row⟩
  have hdecides : (Condition.keyIs column (.ofNumber x)).Decides (t.rows ++ [row]) ↔
      (Condition.keyIs column (.ofNumber x)).Decides t.rows := by
    rw [Condition.Decides, List.forall_mem_append, List.forall_mem_singleton]
    exact and_iff_left ⟨true, hrow⟩
  refine ⟨houtcome, row, ⟨s, hcell, hspelled⟩, htable, fun hd => ?_, fun hd => ?_⟩
  · have hchosen : (Condition.keyIs column (.ofNumber x)).chosen (t.rows ++ [row]) =
        (Condition.keyIs column (.ofNumber x)).chosen t.rows ++ [row] := by
      rw [Condition.chosen, List.filter_append, List.filter_cons_of_pos (by simp [hrow]),
        List.filter_nil]
      rfl
    rw [execute_select htable (by rwa [hrows, hdecides]), hrows, hchosen]
  · obtain ⟨other, hother, fault, hfault, hanswer⟩ :=
      execute_select_undecided htable (by rwa [hrows, hdecides])
    rw [hrows, List.mem_append, List.mem_singleton] at hother
    refine ⟨other, hother.resolve_right ?_, fault, hfault, hanswer⟩
    rintro rfl
    cases hrow.symm.trans hfault

end Database

end Tabula
