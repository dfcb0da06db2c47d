import Mathlib.Tactic.SplitIfs
import Tabula.Proofs.Except
import Tabula.Proofs.Keyed
import Tabula.Table

/-!
What the operations of a table do.

An insertion ends in one of two ways: the row is refused, and at most the counter has moved, or the
row comes last. An update assigns to records in their places, a deletion leaves records out.
-/

namespace Tabula.Table

/-! ### Insertion -/

section Insertion

variable {t u : Table} {key : Option Label} {columns : List String}

@[simp] lemma startRow_columns : (t.startRow key columns).2.columns = t.columns := by
  unfold startRow
  split <;> try split
  all_goals rfl

@[simp] lemma startRow_constraints : (t.startRow key columns).2.constraints = t.constraints := by
  unfold startRow
  split <;> try split
  all_goals rfl

@[simp] lemma startRow_records : (t.startRow key columns).2.records = t.records := by
  unfold startRow
  split <;> try split
  all_goals rfl

lemma cast_congr (h : t.columns = u.columns) (column : String) (v : Value) :
    t.cast column v = u.cast column v := by
  rw [cast, cast, column?, column?, h]

lemma fill_congr (h : t.columns = u.columns) (row : Row) (cells : List (String × Value)) :
    t.fill row cells = u.fill row cells := by
  induction cells generalizing row with
  | nil => rfl
  | cons cell cells ih =>
    simp only [fill, cast_congr h, ih]

/-- Cells are filled in, or one of them cannot be cast. -/
lemma fill_cases (t : Table) (row : Row) (cells : List (String × Value)) :
    (∃ filled, (t.fill row cells).2 = .ok filled) ∨
    ∃ c ∈ cells, ∃ failure, t.cast c.1 c.2 = .error failure ∧
      (t.fill row cells).2 = .error failure := by
  induction cells generalizing row with
  | nil => exact .inl ⟨row, rfl⟩
  | cons cell cells ih =>
    obtain ⟨column, v⟩ := cell
    rw [fill]
    cases hcast : t.cast column v with
    | error failure => exact .inr ⟨(column, v), List.mem_cons_self, failure, hcast, rfl⟩
    | ok r =>
      rcases ih (Keyed.put (.name column) r.1 row) with
        ⟨filled, hfilled⟩ | ⟨c, hc, failure, hfailure, hfill⟩
      · exact .inl ⟨filled, hfilled⟩
      · exact .inr ⟨c, List.mem_cons_of_mem _ hc, failure, hfailure, hfill⟩

/-- Values that can be cast fill every row. -/
lemma exists_fill_of_cast {cells : List (String × Value)}
    (h : ∀ c ∈ cells, ∃ r, t.cast c.1 c.2 = .ok r) (row : Row) :
    ∃ filled, (t.fill row cells).2 = .ok filled := by
  refine (t.fill_cases row cells).resolve_right ?_
  rintro ⟨c, hc, failure, hfailure, -⟩
  obtain ⟨r, hr⟩ := h c hc
  cases hfailure.symm.trans hr

lemma holds_congr (h : t.rows = u.rows) (l : Label) (v : Value) : t.holds l v = u.holds l v := by
  have hrows : ∀ w : Table, w.holds l v = w.rows.any fun row => (Row.at row l).same v := by
    intro w
    simp [holds, rows, Function.comp_def]
  rw [hrows, hrows, h]

lemma fault?_congr (hc : t.constraints = u.constraints) (hr : t.rows = u.rows)
    (key : Option Label) (row : Row) : t.fault? key row = u.fault? key row := by
  simp only [fault?, keyFault?, uniqueFault?, holds_congr hr, hc]

/-- Where the key is a name, it is taken from the counter unless it is listed. -/
lemma startRow_of_name (t : Table) (key : String) (columns : List String) :
    t.startRow (some (.name key)) columns =
      if columns.contains key then ([], t)
      else ([(.name key, .int t.counter)], { t with counter := t.counter + 1 }) := by
  have hlisted : (columns.any fun c => Key.same (Label.name key) (.name c)) =
      columns.contains key := by
    rw [List.contains_eq_any_beq]
    exact congrArg columns.any (funext fun c => Label.same_name key c)
  rw [startRow, hlisted]

/-- The table after an insertion has taken what it needs of the counter. -/
def spend (t : Table) (columns : List String) : Table :=
  match t.constraints.key with
  | .ok key => (t.startRow key columns).2
  | .error _ => t

lemma spend_eq (h : t.constraints.key = .ok key) (columns : List String) :
    t.spend columns = (t.startRow key columns).2 := by
  rw [spend, h]

@[simp] lemma spend_columns (t : Table) : (t.spend columns).columns = t.columns := by
  unfold spend
  split <;> simp

@[simp] lemma spend_constraints (t : Table) : (t.spend columns).constraints = t.constraints := by
  unfold spend
  split <;> simp

@[simp] lemma spend_records (t : Table) : (t.spend columns).records = t.records := by
  unfold spend
  split <;> simp

/-- The counter moves by one or not at all. -/
lemma spend_counter (t : Table) (columns : List String) :
    (t.spend columns).counter = t.counter ∨ (t.spend columns).counter = t.counter + 1 := by
  unfold spend startRow
  split
  · split
    · split
      · exact .inl rfl
      · exact .inr rfl
    · exact .inl rfl
  · exact .inl rfl

/-- An insertion, with the table as it was wherever the counter does not matter. -/
lemma insert_eq (h : t.constraints.key = .ok key) (id : Nat) (columns : List String)
    (values : List Value) :
    t.insert id columns values =
      match t.fill (t.startRow key columns).1 (columns.zip values) with
      | (notices, .error failure) => ⟨t.spend columns, notices, .error failure⟩
      | (notices, .ok row) =>
        match t.fault? key row with
        | some failure => ⟨t.spend columns, notices, .error failure⟩
        | none =>
          ⟨{ t.spend columns with records := t.records ++ [⟨id, row⟩] }, notices,
            .ok ⟨id, row⟩⟩ := by
  have hcolumns : (t.startRow key columns).2.columns = t.columns := startRow_columns
  have hfill := fill_congr hcolumns
  have hfault := fault?_congr (t := (t.startRow key columns).2) (u := t) startRow_constraints
    (by rw [rows, startRow_records, rows])
  unfold insert
  rw [h, spend_eq h]
  dsimp only
  rw [hfill, startRow_records]
  obtain ⟨notices, filled⟩ := t.fill (t.startRow key columns).1 (columns.zip values)
  cases filled with
  | error failure => rfl
  | ok row =>
    dsimp only
    rewrite [hfault]
    cases t.fault? key row <;> rfl

/-- How an insertion ends. -/
theorem insert_cases (t : Table) (id : Nat) (columns : List String) (values : List Value) :
    (∃ failure, (t.insert id columns values).outcome = .error failure ∧
      (t.insert id columns values).table = t.spend columns) ∨
    ∃ key row, t.constraints.key = .ok key ∧
      (t.fill (t.startRow key columns).1 (columns.zip values)).2 = .ok row ∧
      t.fault? key row = none ∧
      (t.insert id columns values).outcome = .ok ⟨id, row⟩ ∧
      (t.insert id columns values).table =
        { t.spend columns with records := t.records ++ [⟨id, row⟩] } := by
  cases hk : t.constraints.key with
  | error fault => exact .inl ⟨.shape fault, by rw [insert, hk], by rw [insert, spend, hk]⟩
  | ok key =>
    rw [insert_eq hk]
    split
    · rename_i failure _
      exact .inl ⟨failure, rfl, rfl⟩
    · rename_i row hrow
      split
      · rename_i failure _
        exact .inl ⟨failure, rfl, rfl⟩
      · rename_i hfault
        exact .inr ⟨key, row, rfl, by rw [hrow], hfault, rfl, rfl⟩

end Insertion

/-! ### Update and deletion -/

section Change

variable {assignments : List (String × Value)} {c : Condition} {P : Record → Prop}

/-- What assignments keep, an update keeps. -/
lemma forall_updateRecords {rs : List Record} (h : ∀ r ∈ rs, P r)
    (ha : ∀ r, P r → P { r with row := Row.assign r.row assignments }) :
    ∀ r ∈ (updateRecords assignments c rs).1, P r := by
  induction rs with
  | nil => exact h
  | cons r rs ih =>
    have hr := h r List.mem_cons_self
    have hrs := ih fun q hq => h q (List.mem_cons_of_mem _ hq)
    rw [updateRecords]
    split
    · exact h
    · dsimp only
      split
      · exact List.forall_mem_cons.2 ⟨ha r hr, hrs⟩
      · exact List.forall_mem_cons.2 ⟨hr, hrs⟩

/-- What assignments leave as it is, an update leaves as it is in every record. -/
lemma map_updateRecords {β : Type} (g : Record → β)
    (hg : ∀ r : Record, g { r with row := Row.assign r.row assignments } = g r) (c : Condition)
    (rs : List Record) : (updateRecords assignments c rs).1.map g = rs.map g := by
  induction rs with
  | nil => rfl
  | cons r rs ih =>
    rw [updateRecords]
    split
    · rfl
    · dsimp only
      split <;> simp [ih, hg]

/-- Identities stay in their places. -/
lemma ids_updateRecords (assignments : List (String × Value)) (c : Condition) (rs : List Record) :
    (updateRecords assignments c rs).1.map (·.id) = rs.map (·.id) :=
  map_updateRecords _ (fun _ => rfl) c rs

end Change

end Tabula.Table

namespace Tabula.Condition

/-- Both parts of a partition are in order. -/
lemma sublist_partition {α : Type} {c : Condition} {row : α → Row} {as yes no : List α}
    (h : c.partition row as = .ok (yes, no)) : yes.Sublist as ∧ no.Sublist as := by
  induction as generalizing yes no with
  | nil =>
    cases h
    exact ⟨.slnil, .slnil⟩
  | cons a as ih =>
    obtain ⟨matched, -, h⟩ := bind_eq_ok.1 h
    obtain ⟨⟨y, n⟩, hp, h⟩ := bind_eq_ok.1 h
    obtain ⟨hy, hn⟩ := ih hp
    cases matched with
    | true =>
      cases h
      exact ⟨hy.cons_cons a, hn.cons a⟩
    | false =>
      cases h
      exact ⟨hy.cons a, hn.cons_cons a⟩

/-- A condition that can be decided takes the members apart. -/
lemma partition_eq {α : Type} {c : Condition} {row : α → Row} {as : List α}
    (h : ∀ a ∈ as, ∃ matched, c.holds (row a) = .ok matched) :
    c.partition row as = .ok (as.filter fun a => c.holds (row a) = .ok true,
      as.filter fun a => ¬ c.holds (row a) = .ok true) := by
  induction as with
  | nil => rfl
  | cons a as ih =>
    obtain ⟨⟨matched, hmatched⟩, has⟩ := List.forall_mem_cons.1 h
    rw [partition, hmatched, ih has]
    cases matched <;> simp [hmatched] <;> rfl

end Tabula.Condition
