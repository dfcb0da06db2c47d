import Tabula.Proofs.Database.Coherent
import Tabula.Proofs.Database.Kept
import Tabula.Proofs.Index.Lookup

/-!
Indexes that have the rows of their table.

An index starts with the records of its table, and a record that is inserted later goes into both.
Other tables have none of these records, so no statement about them changes the index. It answers
like the table until rows of the table itself are changed or taken away.
-/

namespace Tabula

/-- A statement that puts a new table in place of a table, or changes or deletes rows of it. -/
def Statement.Disturbs (name : String) : Statement → Prop
  | .createTable table _ | .update table _ _ | .delete table _ => table = name
  | _ => False

/-- Two keys are different, if in one the table and the column have no point in their names. -/
lemma Index.keyOf_inj {table column other another : String} (ht : '.' ∉ table.toList)
    (hc : '.' ∉ column.toList) (h : keyOf other another = keyOf table column) :
    other = table ∧ another = column := by
  have hlist : table.toList ++ '.' :: column.toList = other.toList ++ '.' :: another.toList := by
    simpa [keyOf] using congrArg String.toList h.symm
  obtain ⟨htable, -, hcolumn⟩ := (List.append_cons_inj_of_notMem ht hc).1 hlist
  exact ⟨String.toList_injective htable.symm, String.toList_injective hcolumn.symm⟩

lemma Value.Storable.not_isNaN {v : Value} (h : v.Storable) : ¬ v.IsNaN := by
  unfold IsNaN
  split
  · exact fun _ => h
  · exact id

namespace Database

/-- An index of a column that has the rows of its table, and no record of another table. -/
structure Covers (db : Database) (name column : String) (i : Index) (t : Table) : Prop where
  index : db.index? (Index.keyOf name column) = some i
  table : db.table? name = some t
  content : ∃ given, i.content = .build given name column t.content.records
  apart : ∀ e ∈ db.tables, e.1 ≠ name → ∀ r ∈ e.2.records, ∀ q ∈ i.records, r.id ≠ q.id

/-- The column has an index with the rows of the table. -/
def Indexed (db : Database) (name column : String) : Prop := ∃ i t, db.Covers name column i t

variable {db : Database} {name other column key : String} {i : Index} {t u : Table}

lemma mem_of_index? (h : db.index? key = some i) : (key, i) ∈ db.indexes := by
  obtain ⟨k, hk, hm⟩ := Keyed.mem_of_find? h
  rw [Key.same_string, beq_iff_eq] at hk
  rwa [← hk]

lemma index?_putIndex (db : Database) (key k : String) (i : Index) :
    (db.putIndex key i).index? k = if key = k then some i else db.index? k := by
  rw [index?, putIndex, Keyed.find?_put, Key.same_string]
  by_cases h : key = k <;> simp [h, index?]

namespace Covers

/-- The index is one of the table and the column. -/
lemma named (h : db.Covers name column i t) : i.table = .text name ∧ i.column = .text column := by
  obtain ⟨given, hcontent⟩ := h.content
  have hbuild : ∀ rs, (Index.build given name column rs).table = .text name ∧
      (Index.build given name column rs).column = .text column :=
    fun rs => Index.build_induction (P := fun i => i.table = .text name ∧ i.column = .text column)
      ⟨rfl, rfl⟩ fun _ hi _ _ => hi
  have hi := hbuild t.content.records
  rwa [← hcontent] at hi

/-- Another table may have new records that are none of the index. -/
lemma putTable (h : db.Covers name column i t) (hd : Keyed.Distinct (Keyed.keys db.tables))
    (hne : other ≠ name) (hu : ∀ r ∈ u.records, ∀ q ∈ i.records, r.id ≠ q.id) :
    (db.putTable other u).Covers name column i t where
  index := h.index
  table := by rw [table?_putTable, if_neg hne, h.table]
  content := h.content
  apart := by
    intro e he hen
    rcases mem_putTable hd he with rfl | ⟨he, -⟩
    · exact hu
    · exact h.apart e he hen

/-- The table may change, as long as its rows stay. -/
lemma putTable_same (h : db.Covers name column i t) (hd : Keyed.Distinct (Keyed.keys db.tables))
    (hu : u.records = t.records) : (db.putTable name u).Covers name column i u where
  index := h.index
  table := by rw [table?_putTable, if_pos rfl]
  content := by
    obtain ⟨given, hcontent⟩ := h.content
    refine ⟨given, ?_⟩
    rw [hcontent, Table.content, Table.content, hu]
  apart := by
    intro e he hen
    rcases mem_putTable hd he with rfl | ⟨he, -⟩
    · exact absurd rfl hen
    · exact h.apart e he hen

/-- Indexes may change, if this one does not. -/
lemma withIndexes (h : db.Covers name column i t) {f : Index → Index} (hf : f i = i)
    (freshId : Nat) :
    ({ db with indexes := Keyed.mapValues f db.indexes, freshId } : Database).Covers
      name column i t where
  index := by
    rw [index?, Keyed.find?_mapValues, ← index?, h.index, Option.map_some, hf]
  table := h.table
  content := h.content
  apart := h.apart

/-- The records of another table are not those of the index. -/
lemma other_table (h : db.Covers name column i t) (hne : other ≠ name)
    (hu : db.table? other = some u) : ∀ r ∈ u.records, ∀ q ∈ i.records, r.id ≠ q.id :=
  h.apart _ (mem_of_table? hu) hne

/-- A record that comes into the table comes into the index. -/
lemma append (h : db.Covers name column i t) (hc : db.Coherent)
    (hd : Keyed.Distinct (Keyed.keys db.tables)) {row : Row}
    (hu : u.records = t.records ++ [⟨db.freshId, row⟩]) :
    Covers { db.putTable name u with
      indexes := Keyed.mapValues (Index.note name ⟨db.freshId, row⟩) db.indexes
      freshId := db.freshId + 1 } name column
      (i.addUnder (.name column) ⟨db.freshId, row⟩) u where
  index := by
    obtain ⟨htable, hcolumn⟩ := h.named
    have hnote : i.note name ⟨db.freshId, row⟩ = i.addUnder (.name column) ⟨db.freshId, row⟩ := by
      rw [Index.note, Index.add, htable, hcolumn]
      exact if_pos rfl
    rw [index?, Keyed.find?_mapValues, ← hnote]
    exact congrArg (Option.map _) h.index
  table := by
    change (db.putTable name u).table? name = _
    rw [table?_putTable, if_pos rfl]
  content := by
    obtain ⟨given, hcontent⟩ := h.content
    have hrecords : u.content.records =
        t.content.records ++ [Record.content ⟨db.freshId, row⟩] := by
      rw [Table.content, hu, List.map_append]
      rfl
    exact ⟨given, by rw [Index.content_addUnder, hcontent, hrecords, Index.build_concat]⟩
  apart := by
    intro e he hen r hr q hq
    rcases mem_putTable hd he with rfl | ⟨he, -⟩
    · exact absurd rfl hen
    · rcases Index.mem_records_addUnder hq with rfl | hq
      · exact (hc.tables_fresh e he r hr).ne
      · exact h.apart e he hen r hr q hq

end Covers

/-- An index that is built covers its table. -/
lemma covers_putIndex (hc : db.Coherent) (ht : db.table? name = some t) (given column : String) :
    (db.putIndex (Index.keyOf name column) (.build given name column t.records)).Covers name column
      (.build given name column t.records) t where
  index := by rw [index?_putIndex, if_pos rfl]
  table := ht
  content := ⟨given, Index.content_build _ _ _ _⟩
  apart := fun e he hen r hr q hq =>
    hc.apart e he _ (mem_of_table? ht) hen r hr q (Index.mem_records_build hq)

/-- **A statement keeps an index in step with its table**, unless it disturbs the rows of the table.
An index of the same key takes its place only if it is one of the same table and column. -/
theorem Indexed.step (h : db.Indexed name column) (hc : db.Coherent)
    (hd : Keyed.Distinct (Keyed.keys db.tables)) {s : Statement} {db' : Database}
    (hs : Step db s db') (hnot : ¬ s.Disturbs name) (hn : '.' ∉ name.toList)
    (hcolumn : '.' ∉ column.toList) : db'.Indexed name column := by
  obtain ⟨i, t, hi⟩ := h
  cases hs with
  | same => exact ⟨i, t, hi⟩
  | create other defs => exact ⟨i, t, hi.putTable hd hnot (by simp [Table.ofColumns])⟩
  | @refuse other u columns values hu =>
    by_cases hne : other = name
    · subst hne
      obtain rfl : t = u := Option.some.inj (hi.table.symm.trans hu)
      exact ⟨i, _, hi.putTable_same hd (t.spend_records)⟩
    · refine ⟨i, t, hi.putTable hd hne ?_⟩
      rw [Table.spend_records]
      exact hi.other_table hne hu
  | @append other u _ columns _ row hu =>
    by_cases hne : other = name
    · subst hne
      obtain rfl : t = u := Option.some.inj (hi.table.symm.trans hu)
      exact ⟨_, _, hi.append hc hd rfl⟩
    · have hnote : i.note other ⟨db.freshId, row⟩ = i := by
        rw [Index.note, hi.named.1]
        exact if_neg fun h => hne (Option.some.inj h).symm
      refine ⟨i, t, (hi.putTable hd hne ?_).withIndexes hnote _⟩
      intro r hr q hq
      rcases List.mem_append.1 hr with hr | hr
      · exact hi.other_table hne hu r hr q hq
      · rw [List.mem_singleton.1 hr]
        exact (hc.indexes_fresh _ (mem_of_index? hi.index) q hq).ne'
  | @update other u assignments c hu =>
    have hother : ∀ r ∈ (u.update assignments c).1.records, ∀ q ∈ i.records, r.id ≠ q.id := by
      intro r hr
      have hid : r.id ∈ (u.update assignments c).1.records.map (·.id) := List.mem_map_of_mem hr
      rw [Table.update, Table.ids_updateRecords] at hid
      obtain ⟨r', hr', hid⟩ := List.mem_map.1 hid
      rw [← hid]
      exact hi.other_table hnot hu r' hr'
    have hrefresh : i.refresh (u.update assignments c).1.records = i :=
      Index.refresh_eq_self fun q hq => current_of_not_mem fun r hr => hother r hr q hq
    exact ⟨i, t, (hi.putTable hd hnot hother).withIndexes hrefresh _⟩
  | @delete other u c gone kept hu hc =>
    have hkept := (Condition.sublist_partition hc).2
    exact ⟨i, t, hi.putTable hd hnot fun r hr => hi.other_table hnot hu r (hkept.subset hr)⟩
  | @index other u given another hu =>
    by_cases hsame : Index.keyOf other another = Index.keyOf name column
    · obtain ⟨rfl, rfl⟩ := Index.keyOf_inj hn hcolumn hsame
      exact ⟨_, u, covers_putIndex hc hu given another⟩
    · exact ⟨i, t, by rw [index?_putIndex, if_neg hsame, hi.index], hi.table, hi.content, hi.apart⟩

/-! ### Reading -/

/-- The database of a snapshot has the indexes of the one that was stored. -/
lemma Indexed.of_database? {db' : Database} {snapshot : Snapshot} (h : db.Indexed name column)
    (hs : snapshot.database? = some db') (hcontent : db'.content = db.content) :
    db'.Indexed name column := by
  obtain ⟨i, t, hi⟩ := h
  obtain ⟨given, hbuild⟩ := hi.content
  have htables : ∀ n, (db'.table? n).map Table.content = (db.table? n).map Table.content := by
    intro n
    rw [table?, table?, ← Keyed.find?_mapValues, ← Keyed.find?_mapValues]
    exact congrArg (fun d => Keyed.find? d.tables n) hcontent
  have hindexes : ∀ k, (db'.index? k).map Index.content = (db.index? k).map Index.content := by
    intro k
    rw [index?, index?, ← Keyed.find?_mapValues, ← Keyed.find?_mapValues]
    exact congrArg (fun d => Keyed.find? d.indexes k) hcontent
  have htable := htables name
  have hindex := hindexes (Index.keyOf name column)
  rw [hi.table, Option.map_some, Option.map_eq_some_iff] at htable
  rw [hi.index, Option.map_some, Option.map_eq_some_iff] at hindex
  obtain ⟨t', ht', ht⟩ := htable
  obtain ⟨i', hi', hi⟩ := hindex
  exact ⟨i', t', hi', ht', ⟨given, by rw [hi, ht, hbuild]⟩, fun e he _ r hr =>
    id_ne_of_database? hs e he r hr _ (mem_of_index? hi')⟩

/-! ### What an index answers -/

namespace Covers

variable (h : db.Covers name column i t)
include h

lemma rows_search (v : Value) :
    (i.search v).map (·.row) = t.rows.filter fun row => (Row.cell row column).sameKey v := by
  obtain ⟨given, hcontent⟩ := h.content
  have hrows : (i.search v).map (·.row) = (i.content.search v).map (·.row) := by
    rw [Index.search_content, List.map_map]
    rfl
  rw [hrows, hcontent, Index.search_build, ← Table.rows_content, Table.rows, List.filter_map]
  rfl

lemma values_eq : i.values = (t.rows.map (Row.cell · column)).eraseDupsBy Value.sameKey := by
  obtain ⟨given, hcontent⟩ := h.content
  rw [← Index.values_content, hcontent, Index.values_build, ← Table.rows_content, Table.rows,
    List.map_map]
  rfl

lemma size_eq : i.size = t.rows.length := by
  obtain ⟨given, hcontent⟩ := h.content
  rw [← Index.size_content, hcontent, Index.size_build, ← Table.rows_content, Table.rows,
    List.length_map]

/-- **An index answers like its table**: it finds the rows whose cell is equal, has the different
cells as they first came, and counts the rows. -/
theorem answers (ht : t.Storable) :
    (∀ v : Value, ¬ v.IsNaN →
      (i.search v).map (·.row) = t.rows.filter fun row => v.equals (Row.cell row column)) ∧
    i.values = (t.rows.map (Row.cell · column)).eraseDupsBy Value.equals ∧
    i.size = t.rows.length := by
  refine ⟨fun v hv => ?_, ?_, h.size_eq⟩
  · rw [h.rows_search]
    refine List.filter_congr fun row _ => ?_
    rw [Value.sameKey_symm, Value.sameKey_eq_equals hv]
  · rw [h.values_eq]
    refine eraseDupsBy_congr fun cell hcell => ?_
    obtain ⟨row, hrow, rfl⟩ := List.mem_map.1 hcell
    obtain ⟨r, hr, rfl⟩ := List.mem_map.1 hrow
    exact Value.sameKey_eq_equals ((Row.storable_iff.1 (ht.rows r hr)).at trivial _).not_isNaN

end Covers

end Database

end Tabula
