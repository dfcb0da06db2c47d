import Mathlib.Logic.Equiv.Basic
import Tabula.Proofs.Database.Log
import Tabula.Proofs.Database.Update

/-!
Statements on different tables commute.

What a statement on one table does to a database is an edit: new records in the place of the old
ones, in the table and in the indexes, or one more record. Which edit it is depends on the table
alone. Two edits of different tables touch neither the same records nor the same indexes, so either
may come first. Only the identities that new records take show which one did.
-/

namespace Tabula

/-! ### Other identities -/

def Record.rename (σ : Equiv.Perm ℕ) (r : Record) : Record := ⟨σ r.id, r.row⟩

def Table.rename (σ : Equiv.Perm ℕ) (t : Table) : Table :=
  { t with records := t.records.map (.rename σ) }

def Index.rename (σ : Equiv.Perm ℕ) (i : Index) : Index := i.mapRecords (.rename σ)

/-- The database with other identities for its records, the same in tables and indexes. -/
def Database.rename (σ : Equiv.Perm ℕ) (db : Database) : Database :=
  ⟨Keyed.mapValues (.rename σ) db.tables, Keyed.mapValues (.rename σ) db.indexes, db.freshId⟩

section Rename

variable {σ : Equiv.Perm ℕ} {t : Table} {db : Database}

lemma Table.rename_of_fixed (h : ∀ r ∈ t.records, σ r.id = r.id) : t.rename σ = t := by
  have hrecords : ∀ r ∈ t.records, r.rename σ = id r :=
    fun r hr => by rw [Record.rename, h r hr, id]
  rw [rename, List.map_congr_left hrecords, List.map_id]

lemma Index.rename_of_fixed {i : Index} (h : ∀ r ∈ i.records, σ r.id = r.id) : i.rename σ = i :=
  mapRecords_eq_self fun r hr => by rw [Record.rename, h r hr]

lemma Database.Coherent.rename_of_fixed (h : db.Coherent) (hσ : ∀ n < db.freshId, σ n = n) :
    db.rename σ = db := by
  rw [rename, Keyed.mapValues_eq_self fun e he => Table.rename_of_fixed fun r hr =>
      hσ r.id (h.tables_fresh e he r hr),
    Keyed.mapValues_eq_self fun i hi => Index.rename_of_fixed fun r hr =>
      hσ r.id (h.indexes_fresh i hi r hr)]

lemma Database.rename_refl : db.rename (Equiv.refl ℕ) = db := by
  rw [rename, Keyed.mapValues_eq_self fun e _ => Table.rename_of_fixed fun _ _ => rfl,
    Keyed.mapValues_eq_self fun i _ => Index.rename_of_fixed fun _ _ => rfl]

/-- Other identities leave the content. -/
lemma Database.content_rename : (db.rename σ).content = db.content := by
  have htable (t : Table) : (t.rename σ).content = t.content := by
    simp [Table.rename, Table.content, Function.comp_def, Record.content, Record.rename]
  have hindex (i : Index) : (i.rename σ).content = i.content := by
    simp [Index.rename, Index.mapRecords, Index.content, Function.comp_def, Record.content,
      Record.rename]
  simp only [content, rename, Keyed.mapValues_mapValues]
  rw [Keyed.mapValues_congr fun e _ => htable e.2, Keyed.mapValues_congr fun i _ => hindex i.2]

end Rename

/-! ### Edits -/

/-- What a statement does with a table: it takes new records, in their places, and perhaps one more
row. -/
structure Edit where
  table : Table
  row? : Option Row

namespace Edit

variable {e f : Edit} {name other : String} {i j : ℕ} {t u : Table} {db : Database}

/-- The edited table. A new record has the given identity. -/
def newTable (e : Edit) (i : ℕ) : Table :=
  match e.row? with
  | none => e.table
  | some row => { e.table with records := e.table.records ++ [⟨i, row⟩] }

/-- What becomes of an index. -/
def onIndex (e : Edit) (name : String) (i : ℕ) (k : Index) : Index :=
  match e.row? with
  | none => k.mapRecords (Index.current e.table.records)
  | some row => k.note name ⟨i, row⟩

/-- How many records are new. -/
def added (e : Edit) : ℕ := e.row?.toList.length

def applyAt (e : Edit) (name : String) (i : ℕ) (db : Database) : Database :=
  { db.putTable name (e.newTable i) with
    indexes := Keyed.mapValues (e.onIndex name i) db.indexes
    freshId := db.freshId + e.added }

/-- A new record takes the identity that is free. -/
def apply (e : Edit) (name : String) (db : Database) : Database := e.applyAt name db.freshId db

/-- The records of the table are old ones. -/
def Fits (e : Edit) (t : Table) : Prop := ∀ r ∈ e.table.records, ∃ q ∈ t.records, q.id = r.id

/-- Of two records that are changed in different tables neither changes the other. -/
lemma current_comm {rs qs : List Record} (h : ∀ r ∈ rs, ∀ q ∈ qs, r.id ≠ q.id) :
    Index.current rs ∘ Index.current qs = Index.current qs ∘ Index.current rs := by
  -- a record that is in neither list, or in one, is left as it is by the other list
  have hleave : ∀ {xs : List Record} {x : Record}, (∀ r ∈ xs, r.id ≠ x.id) →
      ∀ y : Record, y.id = x.id → Index.current xs y = y := fun hx y hy =>
    Database.current_of_not_mem fun r hr => hy ▸ hx r hr
  funext x
  simp only [Function.comp_apply]
  by_cases hx : ∀ r ∈ rs, r.id ≠ x.id
  · rw [hleave hx x rfl, hleave hx _ (Index.id_current qs x)]
  · push Not at hx
    obtain ⟨r, hr, hid⟩ := hx
    have hqs : ∀ q ∈ qs, q.id ≠ x.id := fun q hq hq' => h r hr q hq (hid.trans hq'.symm)
    rw [hleave hqs x rfl, hleave hqs _ (Index.id_current rs x)]

lemma onIndex_comm (hne : name ≠ other)
    (h : ∀ r ∈ e.table.records, ∀ q ∈ f.table.records, r.id ≠ q.id)
    (hi : ∀ q ∈ f.table.records, q.id ≠ i) (hj : ∀ r ∈ e.table.records, r.id ≠ j) (k : Index) :
    f.onIndex other j (e.onIndex name i k) = e.onIndex name i (f.onIndex other j k) := by
  unfold onIndex
  cases he : e.row? with
  | none =>
    cases hf : f.row? with
    | none => simp only [Index.mapRecords_mapRecords, current_comm h]
    | some row =>
      have hrow : Index.current e.table.records ⟨j, row⟩ = ⟨j, row⟩ :=
        Database.current_of_not_mem hj
      exact ((Index.mapRecords_note (by rw [hrow])).trans (by rw [hrow])).symm
  | some row =>
    cases hf : f.row? with
    | none =>
      have hrow : Index.current f.table.records ⟨i, row⟩ = ⟨i, row⟩ :=
        Database.current_of_not_mem hi
      exact (Index.mapRecords_note (by rw [hrow])).trans (by rw [hrow])
    | some other => exact Index.note_comm hne

/-- **Edits of different tables commute**, if the identities of new records are set. -/
lemma applyAt_comm (hne : name ≠ other) (ht : (db.table? name).isSome)
    (hu : (db.table? other).isSome)
    (h : ∀ r ∈ e.table.records, ∀ q ∈ f.table.records, r.id ≠ q.id)
    (hi : ∀ q ∈ f.table.records, q.id ≠ i) (hj : ∀ r ∈ e.table.records, r.id ≠ j) :
    f.applyAt other j (e.applyAt name i db) = e.applyAt name i (f.applyAt other j db) := by
  have hkeys : Key.same name other = false := by simpa [Key.same_string] using hne
  have hindexes := onIndex_comm (f := f) (e := e) hne h hi hj
  simp only [applyAt, Database.putTable, Keyed.mapValues_mapValues, Keyed.put_comm hkeys ht hu,
    Nat.add_right_comm]
  congr 1
  exact Keyed.mapValues_congr fun k _ => hindexes k.2

/-- Only a new record shows its identity. -/
lemma applyAt_of_none (he : e.row? = none) (name : String) (i j : ℕ) (db : Database) :
    e.applyAt name i db = e.applyAt name j db := by
  have hindex : e.onIndex name i = e.onIndex name j := by
    funext k
    rw [onIndex, onIndex, he]
  rw [applyAt, applyAt, hindex, newTable, newTable, he]

lemma rename_applyAt_of_some {σ : Equiv.Perm ℕ} {row : Row} (he : e.row? = some row)
    (hσ : ∀ r ∈ e.table.records, σ r.id = r.id) (name : String) (i : ℕ) (db : Database) :
    (e.applyAt name i db).rename σ = e.applyAt name (σ i) (db.rename σ) := by
  have hrecords : e.table.records.map (Record.rename σ) = e.table.records :=
    congrArg Table.records (Table.rename_of_fixed hσ)
  have htable : (e.newTable i).rename σ = e.newTable (σ i) := by
    simp only [newTable, he, Table.rename, List.map_append, hrecords]
    rfl
  have hindex (k : Index) : (e.onIndex name i k).rename σ = e.onIndex name (σ i) (k.rename σ) := by
    simp only [onIndex, he]
    exact Index.mapRecords_note rfl
  simp only [applyAt, Database.rename, Database.putTable, Keyed.mapValues_mapValues,
    ← Keyed.put_mapValues, htable]
  congr 1
  exact Keyed.mapValues_congr fun k _ => hindex k.2

/-- **Two edits of different tables may come in either order**, up to the identities that new
records take. -/
theorem apply_comm (h : db.Coherent) (hne : name ≠ other) (ht : db.table? name = some t)
    (hu : db.table? other = some u) (he : e.Fits t) (hf : f.Fits u) :
    ∃ σ : Equiv.Perm ℕ,
      e.apply name (f.apply other db) = (f.apply other (e.apply name db)).rename σ := by
  have hname := Database.mem_of_table? ht
  have hother := Database.mem_of_table? hu
  have heold : ∀ r ∈ e.table.records, r.id < db.freshId := by
    intro r hr
    obtain ⟨q, hq, hid⟩ := he r hr
    exact hid ▸ h.tables_fresh _ hname q hq
  have hfold : ∀ r ∈ f.table.records, r.id < db.freshId := by
    intro r hr
    obtain ⟨q, hq, hid⟩ := hf r hr
    exact hid ▸ h.tables_fresh _ hother q hq
  have happart : ∀ r ∈ e.table.records, ∀ q ∈ f.table.records, r.id ≠ q.id := by
    intro r hr q hq
    obtain ⟨r', hr', hr⟩ := he r hr
    obtain ⟨q', hq', hq⟩ := hf q hq
    rw [← hr, ← hq]
    exact h.apart _ hname _ hother hne r' hr' q' hq'
  have hcomm (i j : ℕ) (hi : db.freshId ≤ i) (hj : db.freshId ≤ j) :
      f.applyAt other j (e.applyAt name i db) = e.applyAt name i (f.applyAt other j db) :=
    applyAt_comm hne (by rw [ht]; rfl) (by rw [hu]; rfl) happart
      (fun q hq => ((hfold q hq).trans_le hi).ne) (fun r hr => ((heold r hr).trans_le hj).ne)
  change ∃ σ, e.applyAt name (db.freshId + f.added) (f.applyAt other db.freshId db) =
    (f.applyAt other (db.freshId + e.added) (e.applyAt name db.freshId db)).rename σ
  rw [← hcomm _ _ (Nat.le_add_right _ _) le_rfl]
  cases hrow : e.row? with
  | none =>
    refine ⟨Equiv.refl ℕ, ?_⟩
    rw [Database.rename_refl, applyAt_of_none hrow name (db.freshId + f.added) db.freshId]
    simp [added, hrow]
  | some row =>
    cases hrow' : f.row? with
    | none =>
      refine ⟨Equiv.refl ℕ, ?_⟩
      rw [Database.rename_refl, applyAt_of_none hrow' other (db.freshId + e.added) db.freshId]
      simp [added, hrow']
    | some row' =>
      -- the two new records have each other's identity
      have hfixed : ∀ n < db.freshId, Equiv.swap db.freshId (db.freshId + 1) n = n := fun n hn =>
        Equiv.swap_apply_of_ne_of_ne hn.ne (by omega)
      refine ⟨Equiv.swap db.freshId (db.freshId + 1), ?_⟩
      rw [rename_applyAt_of_some hrow' fun r hr => hfixed r.id (hfold r hr),
        rename_applyAt_of_some hrow fun r hr => hfixed r.id (heold r hr),
        h.rename_of_fixed hfixed]
      simp [added, hrow, hrow', Equiv.swap_apply_left, Equiv.swap_apply_right]

end Edit

/-! ### Statements on one table -/

/-- An INSERT, UPDATE, DELETE or SELECT without a join, on the table of a name. -/
def Statement.Concerns (name : String) : Statement → Prop
  | .insert table _ _ | .select table _ none _ | .update table _ _ | .delete table _ => table = name
  | _ => False

namespace Table

variable {t : Table}

/-- Which identity a new record takes does not matter for what becomes of an insertion. -/
lemma insert_uniform (t : Table) (columns : List String) (values : List Value) :
    (∃ notices failure, ∀ id, t.insert id columns values =
      ⟨t.spend columns, notices, .error failure⟩) ∨
    ∃ notices row, ∀ id, t.insert id columns values =
      ⟨{ t.spend columns with records := t.records ++ [⟨id, row⟩] }, notices, .ok ⟨id, row⟩⟩ := by
  cases hkey : t.constraints.key with
  | error fault => exact .inl ⟨[], .shape fault, fun id => by rw [insert, spend, hkey]⟩
  | ok key =>
    have hinsert (id : ℕ) := insert_eq hkey id columns values
    rcases hfill : t.fill (t.startRow key columns).1 (columns.zip values) with
      ⟨notices, failure | row⟩
    · exact .inl ⟨notices, failure, fun id => by rw [hinsert, hfill]⟩
    · cases hfault : t.fault? key row with
      | some failure =>
        exact .inl ⟨notices, failure, fun id => by rw [hinsert, hfill]; simp only [hfault]⟩
      | none => exact .inr ⟨notices, row, fun id => by rw [hinsert, hfill]; simp only [hfault]⟩

end Table

namespace Database

variable {db : Database} {name other : String} {t : Table} {s q : Statement}

/-- Old records do not change an index. -/
lemma Coherent.mapRecords_eq (h : db.Coherent) (ht : db.table? name = some t) {rs : List Record}
    (hrs : rs ⊆ t.records) :
    Keyed.mapValues (Index.mapRecords (Index.current rs)) db.indexes = db.indexes := by
  refine Keyed.mapValues_eq_self fun i hi => Index.refresh_eq_self fun q hq => ?_
  rcases Index.current_mem_or_eq rs q with hmem | heq
  · exact (h.agree _ (mem_of_table? ht) _ (hrs hmem) i hi q hq (Index.id_current rs q).symm).symm
  · exact heq

/-- Where no record is new or changed, an edit leaves the indexes. -/
lemma Coherent.apply_eq (h : db.Coherent) (ht : db.table? name = some t) {u : Table}
    (hu : u.records ⊆ t.records) : Edit.apply ⟨u, none⟩ name db = db.putTable name u := by
  change { db.putTable name u with
    indexes := Keyed.mapValues (Index.mapRecords (Index.current u.records)) db.indexes } = _
  rw [h.mapRecords_eq ht hu]
  rfl

/-- Without its table, a statement changes nothing. -/
lemma execute_of_table?_none (hs : s.Concerns name) (ht : db.table? name = none) :
    db.execute s = ⟨db, [], .error (.noTable name)⟩ := by
  have herror := table_eq_error ht
  cases s with
  | insert table columns values =>
    obtain rfl : table = name := hs
    rw [execute, insert, herror]
    rfl
  | select table columns join c =>
    cases join with
    | some j => exact hs.elim
    | none =>
      obtain rfl : table = name := hs
      rw [execute, select, herror]
      rfl
  | update table assignments c =>
    obtain rfl : table = name := hs
    rw [execute, update, herror]
    rfl
  | delete table c =>
    obtain rfl : table = name := hs
    rw [execute, delete, herror]
    rfl
  | createTable | createIndex | showTables | describe => exact hs.elim

/-- **What a statement on one table does depends on the table alone.** -/
theorem exists_edit (hs : s.Concerns name) (t : Table) :
    ∃ e : Edit, e.Fits t ∧ ∃ notices outcome, ∀ db : Database, db.Coherent →
      (∀ i ∈ db.indexes, i.2.column.IsText) → db.table? name = some t →
      db.execute s = ⟨e.apply name db, notices, outcome⟩ := by
  have hself {rs : List Record} (hrs : rs ⊆ t.records) : ∀ r ∈ rs, ∃ q ∈ t.records, q.id = r.id :=
    fun r hr => ⟨r, hrs hr, rfl⟩
  cases s with
  | insert table columns values =>
    obtain rfl : table = name := hs
    have hspend : (t.spend columns).records ⊆ t.records := by
      rw [t.spend_records]
      exact fun _ => id
    rcases t.insert_uniform columns values with
      ⟨notices, failure, hinsert⟩ | ⟨notices, row, hinsert⟩
    · refine ⟨⟨t.spend columns, none⟩, hself hspend, notices, .error failure, fun db h hi ht => ?_⟩
      rw [execute, insert_refused ht (congrArg Table.Insertion.outcome (hinsert db.freshId)),
        hinsert, h.apply_eq ht hspend]
    · refine ⟨⟨t.spend columns, some row⟩, hself hspend, notices, .ok (.done .inserted),
        fun db h hi ht => ?_⟩
      rw [execute, insert_accepted ht hi (congrArg Table.Insertion.outcome (hinsert db.freshId)),
        hinsert]
      simp only [Edit.apply, Edit.applyAt, Edit.newTable, t.spend_records]
      rfl
  | select table columns join c =>
    cases join with
    | some j => exact hs.elim
    | none =>
      obtain rfl : table = name := hs
      refine ⟨⟨t, none⟩, hself fun _ => id, [],
        (do return .rows (project columns (← (t.select c).mapError .number))), fun db h _ ht => ?_⟩
      rw [execute, h.apply_eq ht fun _ => id, putTable_of_table? ht, select, table_eq_ok.2 ht]
      rfl
  | update table assignments c =>
    obtain rfl : table = name := hs
    refine ⟨⟨(t.update assignments c).1, none⟩, ?_, [],
      (fun n => .done (.updated n)) <$> (t.update assignments c).2.mapError .number,
      fun db _ _ ht => ?_⟩
    · intro r hr
      have hid : r.id ∈ (t.update assignments c).1.records.map (·.id) := List.mem_map_of_mem hr
      change r.id ∈ (Table.updateRecords assignments c t.records).1.map (·.id) at hid
      rw [Table.ids_updateRecords] at hid
      exact List.mem_map.1 hid
    · rw [execute, update, table_eq_ok.2 ht]
      dsimp only
      cases (t.update assignments c).2 <;> rfl
  | delete table c =>
    obtain rfl : table = name := hs
    cases hdelete : t.delete c with
    | error fault =>
      refine ⟨⟨t, none⟩, hself fun _ => id, [], .error (.number fault), fun db h _ ht => ?_⟩
      rw [execute, delete, table_eq_ok.2 ht]
      simp only [hdelete]
      rw [h.apply_eq ht fun _ => id, putTable_of_table? ht]
      rfl
    | ok found =>
      obtain ⟨u, n⟩ := found
      obtain ⟨⟨gone, kept⟩, hpart, hfound⟩ := bind_eq_ok.1 hdelete
      cases hfound
      have hkept := (Condition.sublist_partition hpart).2.subset
      refine ⟨⟨{ t with records := kept }, none⟩, hself hkept, [],
        .ok (.done (.deleted gone.length)), fun db h _ ht => ?_⟩
      rw [execute, delete, table_eq_ok.2 ht]
      simp only [hdelete]
      rw [h.apply_eq ht hkept]
  | createTable | createIndex | showTables | describe => exact hs.elim

lemma table?_apply (e : Edit) (hne : name ≠ other) :
    (e.apply name db).table? other = db.table? other := by
  change (db.putTable name _).table? other = _
  rw [table?_putTable, if_neg hne]

lemma isText_apply (e : Edit) (hi : ∀ i ∈ db.indexes, i.2.column.IsText) :
    ∀ i ∈ (e.apply name db).indexes, i.2.column.IsText := by
  intro i hmem
  obtain ⟨k, hk, rfl⟩ := List.mem_map.1 hmem
  have hcolumn : (e.onIndex name db.freshId k.2).column = k.2.column := by
    unfold Edit.onIndex
    cases e.row? with
    | none => rfl
    | some row => exact Index.column_note
  rw [hcolumn]
  exact hi k hk

lemma table?_execute_of_concerns (hq : q.Concerns other) (hne : name ≠ other) :
    (db.execute q).database.table? name = db.table? name := by
  rw [table?_execute]
  cases q with
  | insert table | update table | delete table =>
    obtain rfl : table = other := hq
    exact if_neg hne.symm
  | select | createIndex | showTables | describe => rfl
  | createTable => exact hq.elim

/-- **Statements on different tables commute.** Each ends as it would without the other, and the
databases are the same up to the identities of the records. -/
theorem Coherent.execute_comm (h : db.Coherent) (hd : Keyed.Distinct (Keyed.keys db.tables))
    (hi : ∀ i ∈ db.indexes, i.2.column.IsText) (hne : name ≠ other) (hs : s.Concerns name)
    (hq : q.Concerns other) :
    ((db.execute q).database.execute s).notices = (db.execute s).notices ∧
    ((db.execute q).database.execute s).outcome = (db.execute s).outcome ∧
    ((db.execute s).database.execute q).notices = (db.execute q).notices ∧
    ((db.execute s).database.execute q).outcome = (db.execute q).outcome ∧
    ∃ σ : Equiv.Perm ℕ, ((db.execute q).database.execute s).database =
      ((db.execute s).database.execute q).database.rename σ := by
  have hstep (r : Statement) := h.step hd (step_execute hi r)
  cases ht : db.table? name with
  | none =>
    have hthen := execute_of_table?_none hs ((table?_execute_of_concerns hq hne).trans ht)
    rw [hthen, execute_of_table?_none hs ht]
    exact ⟨rfl, rfl, rfl, rfl, Equiv.refl ℕ, rename_refl.symm⟩
  | some t =>
    cases hu : db.table? other with
    | none =>
      have hthen := execute_of_table?_none hq ((table?_execute_of_concerns hs hne.symm).trans hu)
      rw [hthen, execute_of_table?_none hq hu]
      exact ⟨rfl, rfl, rfl, rfl, Equiv.refl ℕ, rename_refl.symm⟩
    | some u =>
      obtain ⟨e, he, notices, outcome, hedit⟩ := exists_edit hs t
      obtain ⟨f, hf, notices', outcome', hedit'⟩ := exists_edit hq u
      have hfirst := hedit db h hi ht
      have hsecond := hedit' db h hi hu
      have hcoherent := hstep s
      have hcoherent' := hstep q
      rw [hfirst] at hcoherent
      rw [hsecond] at hcoherent'
      have hthen := hedit' _ hcoherent (isText_apply e hi) ((table?_apply e hne).trans hu)
      have hthen' := hedit _ hcoherent' (isText_apply f hi) ((table?_apply f hne.symm).trans ht)
      rw [hfirst, hsecond]
      dsimp only
      rw [hthen, hthen']
      exact ⟨rfl, rfl, rfl, rfl, Edit.apply_comm h hne ht hu he hf⟩

end Database

end Tabula
