import Tabula.Proofs.Database.Formed
import Tabula.Proofs.Statement.Short
import Tabula.Proofs.Table.Keys

/-!
Statements that are answered or refused.

Where every cell of a database can be read and the literals of a statement are short, no cast and no
comparison reaches a limit, and no name is of the wrong shape. So if the statement has no answer,
then the database refuses it.
-/

namespace Tabula

open Value (Short Readable)

/-! ### Conditions -/

namespace Condition

variable {c : Condition}

lemma exists_holds (hc : c.value.Readable) {row : Row} (hr : Row.Formed Readable row) :
    ∃ b, c.holds row = .ok b :=
  c.comparison.exists_holds (hr.at trivial _) hc

lemma exists_partition (hc : c.value.Readable) {α : Type} {row : α → Row} {as : List α}
    (h : ∀ a ∈ as, Row.Formed Readable (row a)) : ∃ parts, c.partition row as = .ok parts :=
  ⟨_, partition_eq fun a ha => exists_holds hc (h a ha)⟩

end Condition

/-! ### Tables -/

namespace Table

variable {t : Table} {columns : List String} {values : List Value} {failure : Failure}

lemma exists_cast (h : t.Formed Readable) (column : String) {v : Value} (hv : v.Short) :
    ∃ w notices, t.cast column v = .ok (w, notices) := by
  unfold cast
  split
  · rename_i c hc
    obtain ⟨s, hs⟩ := (h.columns c (List.mem_of_find?_eq_some hc)).2
    have htype : c.type = .ok (.ofDeclared s) := by
      rw [Column.type, hs]
      rfl
    obtain ⟨w, notices, hw, -⟩ := ColumnType.exists_cast (.ofDeclared s) column hv
    exact ⟨w, notices, bind_eq_ok.2 ⟨_, mapError_eq_ok.2 htype, mapError_eq_ok.2 hw⟩⟩
  · obtain ⟨w, hw, -⟩ := ColumnType.exists_castUndeclared hv
    exact ⟨w, [], by rw [hw]; rfl⟩

/-- Short values fill every row. -/
lemma exists_fill (h : t.Formed Readable) {cells : List (String × Value)}
    (hc : ∀ c ∈ cells, c.2.Short) (row : Row) : ∃ filled, (t.fill row cells).2 = .ok filled := by
  refine exists_fill_of_cast (fun c hcell => ?_) row
  obtain ⟨w, notices, hw⟩ := exists_cast h c.1 (hc c hcell)
  exact ⟨_, hw⟩

/-- What is at fault with a row is its key or a unique column. -/
lemma isRefusal_fault? (h : t.Formed Readable) {key : Option Label} {row : Row}
    (hf : t.fault? key row = some failure) : failure.isRefusal = true := by
  rw [fault?_eq, Option.or_eq_some_iff] at hf
  rcases hf with hf | ⟨-, hf⟩
  · obtain ⟨l, fault, rfl⟩ := keyFault?_eq_some hf
    rfl
  · obtain ⟨l, rfl⟩ := uniqueFault?_eq_some h.unique hf
    rfl

lemma isRefusal_insert (h : t.Formed Readable) (hv : ∀ v ∈ values, v.Short) {id : Nat}
    (he : (t.insert id columns values).outcome = .error failure) : failure.isRefusal = true := by
  obtain ⟨key, hk⟩ : ∃ key, t.constraints.key = .ok key := by
    rcases h.key with hk | ⟨s, hk⟩
    · exact ⟨_, hk⟩
    · exact ⟨_, hk⟩
  have hcells : ∀ c ∈ columns.zip values, c.2.Short := fun c hc => hv c.2 (List.of_mem_zip hc).2
  obtain ⟨row, hrow⟩ := exists_fill h hcells (t.startRow key columns).1
  rw [insert_outcome hk id hrow] at he
  split at he
  · rename_i hf
    cases he
    exact isRefusal_fault? h hf
  · cases he

lemma exists_select (h : t.Formed Readable) {c : Option Condition}
    (hc : ∀ d ∈ c, d.value.Readable) : ∃ rows, t.select c = .ok rows := by
  cases c with
  | none => exact ⟨_, rfl⟩
  | some c =>
    have hrows : ∀ row ∈ t.rows, Row.Formed Readable (id row) := Formed.row h
    obtain ⟨parts, hparts⟩ := Condition.exists_partition (hc c rfl) hrows
    exact ⟨parts.1, by rw [select, hparts]; rfl⟩

lemma exists_updateRecords {c : Condition} (hc : c.value.Readable) {rs : List Record}
    (h : ∀ r ∈ rs, Row.Formed Readable r.row) (assignments : List (String × Value)) :
    ∃ n, (updateRecords assignments c rs).2 = .ok n := by
  induction rs with
  | nil => exact ⟨0, rfl⟩
  | cons r rs ih =>
    obtain ⟨matched, hmatched⟩ := Condition.exists_holds hc (h r List.mem_cons_self)
    obtain ⟨n, hn⟩ := ih fun q hq => h q (List.mem_cons_of_mem _ hq)
    rw [updateRecords, hmatched]
    cases matched with
    | true => exact ⟨n + 1, by simp only [hn]; rfl⟩
    | false => exact ⟨n, by simpa using hn⟩

lemma exists_delete (h : t.Formed Readable) {c : Condition} (hc : c.value.Readable) :
    ∃ found, t.delete c = .ok found := by
  obtain ⟨⟨gone, kept⟩, hparts⟩ := Condition.exists_partition hc h.rows
  exact ⟨_, by rw [delete, hparts]; rfl⟩

end Table

/-! ### Joins -/

namespace Database

lemma exists_pairUp (left right leftColumn rightColumn : String) {l : Row}
    (hl : Row.Formed Readable l) {rights : List Row} (hr : ∀ r ∈ rights, Row.Formed Readable r) :
    ∃ rows, joinRows.pairUp left right leftColumn rightColumn l rights = .ok rows := by
  induction rights with
  | nil => exact ⟨_, rfl⟩
  | cons r rights ih =>
    obtain ⟨matched, hmatched⟩ := Value.exists_looselyEqual
      (hl.at trivial (.name leftColumn)) ((hr r List.mem_cons_self).at trivial (.name rightColumn))
    obtain ⟨rows, hrows⟩ := ih fun q hq => hr q (List.mem_cons_of_mem _ hq)
    rw [joinRows.pairUp, Row.cell, Row.cell, hmatched, hrows]
    exact ⟨_, rfl⟩

lemma exists_joinRows (left right leftColumn rightColumn : String) {lefts rights : List Row}
    (hl : ∀ l ∈ lefts, Row.Formed Readable l) (hr : ∀ r ∈ rights, Row.Formed Readable r) :
    ∃ rows, joinRows left right leftColumn rightColumn rights lefts = .ok rows := by
  induction lefts with
  | nil => exact ⟨_, rfl⟩
  | cons l lefts ih =>
    obtain ⟨found, hfound⟩ :=
      exists_pairUp left right leftColumn rightColumn (hl l List.mem_cons_self) hr
    obtain ⟨rows, hrows⟩ := ih fun q hq => hl q (List.mem_cons_of_mem _ hq)
    rw [joinRows, hfound, hrows]
    exact ⟨_, rfl⟩

variable {db : Database} {name : String} {failure : Failure}

lemma isRefusal_table (h : db.table name = .error failure) : failure.isRefusal = true := by
  unfold Database.table at h
  split at h
  · cases h
  · cases h
    rfl

lemma isRefusal_insertion (h : db.Formed Readable) {columns : List String} {values : List Value}
    (hv : ∀ v ∈ values, v.Short)
    (he : (db.insert name columns values).outcome = .error failure) :
    failure.isRefusal = true := by
  cases ht : db.table? name with
  | none =>
    rw [insert, table_eq_error ht] at he
    cases he
    rfl
  | some t =>
    cases hout : (t.insert db.freshId columns values).outcome with
    | error refusal =>
      rw [insert_refused ht hout] at he
      cases he
      exact Table.isRefusal_insert (h.table ht) hv hout
    | ok r =>
      rw [insert_accepted ht (fun e hm => (h.indexes e hm).column) hout] at he
      cases he

lemma isRefusal_select (h : db.Formed Readable) {columns : Option (List ColumnName)}
    {c : Option Condition} (hc : ∀ d ∈ c, d.value.Readable)
    (he : db.select name columns c = .error failure) : failure.isRefusal = true := by
  rcases bind_eq_error.1 he with htable | ⟨t, ht, he⟩
  · exact isRefusal_table htable
  · obtain ⟨rows, hrows⟩ := Table.exists_select (h.table (table_eq_ok.1 ht)) hc
    rw [hrows] at he
    cases he

lemma isRefusal_selectJoined (h : db.Formed Readable) {columns : Option (List ColumnName)}
    {j : Join} {c : Option Condition}
    (he : (db.selectJoined name columns j c).2 = .error failure) : failure.isRefusal = true := by
  cases hleft : db.table name with
  | error refusal =>
    rw [selectJoined, hleft] at he
    cases he
    exact isRefusal_table hleft
  | ok left =>
    cases hright : db.table j.table with
    | error refusal =>
      rw [selectJoined, hleft, hright] at he
      cases he
      exact isRefusal_table hright
    | ok right =>
      have hl := Table.Formed.row (h.table (table_eq_ok.1 hleft))
      have hr := Table.Formed.row (h.table (table_eq_ok.1 hright))
      rw [selectJoined, hleft, hright] at he
      -- whichever operand is the left one
      generalize (if j.left.table = some j.table ∧ j.right.table = some name then
        (j.right, j.left) else (j.left, j.right)) = operands at he
      obtain ⟨l, r⟩ := operands
      dsimp only at he
      split at he
      · obtain ⟨rows, hrows⟩ := exists_joinRows name j.table l.column r.column hl hr
        rw [hrows] at he
        cases he
      · cases he
        rfl

lemma isRefusal_update (h : db.Formed Readable) {assignments : List (String × Value)}
    {c : Condition} (hc : c.value.Readable)
    (he : (db.update name assignments c).outcome = .error failure) : failure.isRefusal = true := by
  unfold update at he
  split at he
  · rename_i htable
    cases he
    exact isRefusal_table htable
  · rename_i t ht
    obtain ⟨n, hn⟩ :=
      Table.exists_updateRecords hc (h.table (table_eq_ok.1 ht)).rows assignments
    simp only [Table.update, hn] at he
    cases he

lemma isRefusal_delete (h : db.Formed Readable) {c : Condition} (hc : c.value.Readable)
    (he : (db.delete name c).outcome = .error failure) : failure.isRefusal = true := by
  unfold delete at he
  split at he
  · rename_i htable
    cases he
    exact isRefusal_table htable
  · rename_i t ht
    obtain ⟨found, hfound⟩ := Table.exists_delete (h.table (table_eq_ok.1 ht)) hc
    rw [hfound] at he
    cases he

/-- **A statement with short literals is answered or refused.** -/
theorem isRefusal_execute (h : db.Formed Readable) {s : Statement} (hs : s.Literals Short)
    (he : (db.execute s).outcome = .error failure) : failure.isRefusal = true := by
  cases s with
  | createTable name defs => cases he
  | insert name columns values => exact isRefusal_insertion h hs he
  | select name columns join c =>
    cases join with
    | none => exact isRefusal_select h (fun d hd => (hs d hd).readable) he
    | some j => exact isRefusal_selectJoined h he
  | update name assignments c => exact isRefusal_update h hs.2.readable he
  | delete name c => exact isRefusal_delete h (Short.readable hs) he
  | createIndex index name column =>
    rw [execute, createIndex] at he
    split at he
    · rename_i htable
      cases he
      exact isRefusal_table htable
    · cases he
  | showTables => cases he
  | describe name =>
    rcases bind_eq_error.1 he with htable | ⟨t, -, he⟩
    · exact isRefusal_table htable
    · cases he

end Database

/-- What a statement with short literals supplies can be read after it is cast. -/
lemma Statement.Literals.supplies {s : Statement} (h : s.Literals Short) :
    s.Supplies Short Readable := by
  cases s with
  | insert name columns values => exact h
  | update name assignments c => exact fun a ha => (h.1 a ha).readable
  | createTable | select | delete | createIndex | showTables | describe => trivial

end Tabula
