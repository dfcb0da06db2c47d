import Mathlib.Data.List.Nodup
import Mathlib.Data.List.Pairwise
import Tabula.Proofs.Database.Steps

/-!
Tables and indexes share records.

An identity belongs to one record of one table at most, and a record that an index has in common
with a table is the same in both. This holds of the database of every snapshot and of the empty one,
and every statement keeps it.
-/

namespace Tabula.Database

/-- Which records of a database are which. -/
structure Coherent (db : Database) : Prop where
  /-- a table has no record twice -/
  nodup : ∀ e ∈ db.tables, (e.2.records.map (·.id)).Nodup
  /-- two tables have no record in common -/
  apart : ∀ e ∈ db.tables, ∀ d ∈ db.tables, e.1 ≠ d.1 →
    ∀ r ∈ e.2.records, ∀ q ∈ d.2.records, r.id ≠ q.id
  /-- an index shows a record as its table does -/
  agree : ∀ e ∈ db.tables, ∀ r ∈ e.2.records, ∀ i ∈ db.indexes, ∀ q ∈ i.2.records,
    q.id = r.id → q = r
  tables_fresh : ∀ e ∈ db.tables, ∀ r ∈ e.2.records, r.id < db.freshId
  indexes_fresh : ∀ i ∈ db.indexes, ∀ q ∈ i.2.records, q.id < db.freshId

variable {db : Database} {name : String} {t u : Table}

lemma coherent_empty : empty.Coherent := by
  constructor <;> simp [empty]

/-! ### Tables by name -/

lemma mem_of_table? (h : db.table? name = some t) : (name, t) ∈ db.tables := by
  obtain ⟨k, hk, hm⟩ := Keyed.mem_of_find? h
  rw [Key.same_string, beq_iff_eq] at hk
  rwa [← hk]

lemma mem_putTable (hd : Keyed.Distinct (Keyed.keys db.tables)) {e : String × Table}
    (h : e ∈ (db.putTable name t).tables) : e = (name, t) ∨ (e ∈ db.tables ∧ e.1 ≠ name) := by
  rcases Keyed.mem_put_of_distinct hd h with ⟨hs, ht⟩ | ⟨hm, hs⟩
  · rw [Key.same_string, beq_iff_eq] at hs
    exact .inl (Prod.ext hs ht)
  · rw [Key.same_string, beq_eq_false_iff_ne] at hs
    exact .inr ⟨hm, hs⟩

/-- The identity of a record of a table says which one it is. -/
lemma Coherent.eq_of_id (h : db.Coherent) {e : String × Table} (he : e ∈ db.tables)
    {r q : Record} (hr : r ∈ e.2.records) (hq : q ∈ e.2.records) (hid : r.id = q.id) : r = q :=
  List.inj_on_of_nodup_map (h.nodup e he) hr hq hid

/-- A table may lose records. -/
lemma Coherent.putTable_sublist (h : db.Coherent) (hd : Keyed.Distinct (Keyed.keys db.tables))
    (ht : db.table? name = some t) (hu : u.records.Sublist t.records) :
    (db.putTable name u).Coherent := by
  have hm := mem_of_table? ht
  -- every record of the new tables was in the old table of the same name
  have hold : ∀ e ∈ (db.putTable name u).tables, ∃ d ∈ db.tables, d.1 = e.1 ∧
      e.2.records.Sublist d.2.records := by
    intro e he
    rcases mem_putTable hd he with rfl | ⟨he, -⟩
    · exact ⟨(name, t), hm, rfl, hu⟩
    · exact ⟨e, he, rfl, List.Sublist.refl _⟩
  refine ⟨fun e he => ?_, fun e he d hd hne r hr q hq => ?_, fun e he r hr => ?_,
    fun e he r hr => ?_, h.indexes_fresh⟩
  · obtain ⟨d, hd, -, hs⟩ := hold e he
    exact (hs.map _).nodup (h.nodup d hd)
  · obtain ⟨e', he', hke, hse⟩ := hold e he
    obtain ⟨d', hd', hkd, hsd⟩ := hold d hd
    exact h.apart e' he' d' hd' (by rwa [hke, hkd]) r (hse.subset hr) q (hsd.subset hq)
  · obtain ⟨d, hd, -, hs⟩ := hold e he
    exact h.agree d hd r (hs.subset hr)
  · obtain ⟨d, hd, -, hs⟩ := hold e he
    exact h.tables_fresh d hd r (hs.subset hr)

/-- A table without records takes the place of any other. -/
lemma Coherent.putTable_empty (h : db.Coherent) (hd : Keyed.Distinct (Keyed.keys db.tables))
    (hu : u.records = []) : (db.putTable name u).Coherent := by
  have hold : ∀ e ∈ (db.putTable name u).tables, e.2.records = [] ∨ e ∈ db.tables := by
    intro e he
    rcases mem_putTable hd he with rfl | ⟨he, -⟩
    · exact .inl hu
    · exact .inr he
  refine ⟨fun e he => ?_, fun e he d hd hne r hr q hq => ?_, fun e he r hr => ?_,
    fun e he r hr => ?_, h.indexes_fresh⟩
  · rcases hold e he with hn | he
    · simp [hn]
    · exact h.nodup e he
  · rcases hold e he with hn | he
    · simp [hn] at hr
    · rcases hold d hd with hn | hd
      · simp [hn] at hq
      · exact h.apart e he d hd hne r hr q hq
  · rcases hold e he with hn | he
    · simp [hn] at hr
    · exact h.agree e he r hr
  · rcases hold e he with hn | he
    · simp [hn] at hr
    · exact h.tables_fresh e he r hr

/-! ### Statements -/

lemma eq_of_name (hd : Keyed.Distinct (Keyed.keys db.tables)) {e d : String × Table}
    (he : e ∈ db.tables) (hm : d ∈ db.tables) (h : e.1 = d.1) : e = d := by
  have hnodup : (db.tables.map (·.1)).Nodup :=
    List.Pairwise.imp (fun hs => by simpa [Key.same_string] using hs) hd
  exact List.inj_on_of_nodup_map hnodup he hm h

lemma current_of_mem {changed : List Record} (hn : (changed.map (·.id)).Nodup) {r q : Record}
    (hr : r ∈ changed) (hid : q.id = r.id) : Index.current changed q = r := by
  cases hf : changed.find? (·.id == q.id) with
  | none =>
    have hnone := List.find?_eq_none.1 hf r hr
    simp [hid] at hnone
  | some x =>
    have hx : x.id = q.id := by simpa using List.find?_some hf
    rw [Index.current, hf, Option.getD_some]
    exact List.inj_on_of_nodup_map hn (List.mem_of_find?_eq_some hf) hr (hx.trans hid)

lemma current_of_not_mem {changed : List Record} {q : Record} (h : ∀ r ∈ changed, r.id ≠ q.id) :
    Index.current changed q = q := by
  have hf : changed.find? (·.id == q.id) = none := by
    rw [List.find?_eq_none]
    exact fun r hr => by simpa using h r hr
  rw [Index.current, hf]
  rfl

/-- A record of a table takes a new identity, and goes into indexes with it. -/
lemma Coherent.append (h : db.Coherent) (hd : Keyed.Distinct (Keyed.keys db.tables))
    (ht : db.table? name = some t) {row : Row}
    (hu : u.records = t.records ++ [⟨db.freshId, row⟩]) :
    Coherent { db.putTable name u with
      indexes := Keyed.mapValues (Index.note name ⟨db.freshId, row⟩) db.indexes
      freshId := db.freshId + 1 } := by
  have hm := mem_of_table? ht
  have htable : ∀ e ∈ (db.putTable name u).tables, ∀ r ∈ e.2.records,
      (e.1 = name ∧ r = ⟨db.freshId, row⟩) ∨ ∃ d ∈ db.tables, d.1 = e.1 ∧ r ∈ d.2.records := by
    intro e he r hr
    rcases mem_putTable hd he with rfl | ⟨he, -⟩
    · rw [hu] at hr
      rcases List.mem_append.1 hr with hr | hr
      · exact .inr ⟨(name, t), hm, rfl, hr⟩
      · exact .inl ⟨rfl, List.mem_singleton.1 hr⟩
    · exact .inr ⟨e, he, rfl, hr⟩
  have hindex : ∀ i ∈ Keyed.mapValues (Index.note name ⟨db.freshId, row⟩) db.indexes,
      ∀ q ∈ i.2.records, q = ⟨db.freshId, row⟩ ∨ ∃ j ∈ db.indexes, q ∈ j.2.records := by
    intro i hi q hq
    obtain ⟨j, hj, rfl⟩ := List.mem_map.1 hi
    dsimp only at hq
    rcases Index.note_cases name ⟨db.freshId, row⟩ j.2 with hn | ⟨l, hn⟩
    · rw [hn] at hq
      exact .inr ⟨j, hj, hq⟩
    · rw [hn] at hq
      exact (Index.mem_records_addUnder hq).imp_right fun hq => ⟨j, hj, hq⟩
  constructor
  · intro e he
    rcases mem_putTable hd he with rfl | ⟨he, -⟩
    · rw [hu, List.map_append, List.nodup_append]
      refine ⟨h.nodup _ hm, List.nodup_singleton _, fun a ha b hb => ?_⟩
      obtain ⟨r, hr, rfl⟩ := List.mem_map.1 ha
      obtain rfl : b = db.freshId := by simpa using hb
      exact (h.tables_fresh _ hm r hr).ne
    · exact h.nodup e he
  · intro e he d hd' hne r hr q hq
    rcases htable e he r hr with ⟨hke, rfl⟩ | ⟨e', he', hke, hr⟩
    · rcases htable d hd' q hq with ⟨hkd, -⟩ | ⟨d', hd', -, hq⟩
      · exact absurd (hke.trans hkd.symm) hne
      · exact (h.tables_fresh d' hd' q hq).ne'
    · rcases htable d hd' q hq with ⟨-, rfl⟩ | ⟨d', hd', hkd, hq⟩
      · exact (h.tables_fresh e' he' r hr).ne
      · exact h.apart e' he' d' hd' (by rwa [hke, hkd]) r hr q hq
  · intro e he r hr i hi q hq hid
    rcases htable e he r hr with ⟨-, rfl⟩ | ⟨e', he', -, hr⟩
    · rcases hindex i hi q hq with rfl | ⟨j, hj, hq⟩
      · rfl
      · exact absurd hid (h.indexes_fresh j hj q hq).ne
    · rcases hindex i hi q hq with rfl | ⟨j, hj, hq⟩
      · exact absurd hid.symm (h.tables_fresh e' he' r hr).ne
      · exact h.agree e' he' r hr j hj q hq hid
  · intro e he r hr
    rcases htable e he r hr with ⟨-, rfl⟩ | ⟨e', he', -, hr⟩
    · exact Nat.lt_succ_self _
    · exact Nat.lt_succ_of_lt (h.tables_fresh e' he' r hr)
  · intro i hi q hq
    rcases hindex i hi q hq with rfl | ⟨j, hj, hq⟩
    · exact Nat.lt_succ_self _
    · exact Nat.lt_succ_of_lt (h.indexes_fresh j hj q hq)

/-- Records take new rows in the table and in the indexes at once. -/
lemma Coherent.refresh (h : db.Coherent) (hd : Keyed.Distinct (Keyed.keys db.tables))
    (ht : db.table? name = some t) (hu : u.records.map (·.id) = t.records.map (·.id)) :
    Coherent { db.putTable name u with
      indexes := Keyed.mapValues (·.refresh u.records) db.indexes } := by
  have hm := mem_of_table? ht
  have hnodup : (u.records.map (·.id)).Nodup := hu ▸ h.nodup _ hm
  have hold : ∀ r ∈ u.records, ∃ q ∈ t.records, q.id = r.id := by
    intro r hr
    have hid : r.id ∈ t.records.map (·.id) := hu ▸ List.mem_map_of_mem hr
    exact List.mem_map.1 hid
  constructor
  · intro e he
    rcases mem_putTable hd he with rfl | ⟨he, -⟩
    · exact hnodup
    · exact h.nodup e he
  · intro e he d hd' hne r hr q hq
    rcases mem_putTable hd he with rfl | ⟨he, hke⟩
    · rcases mem_putTable hd hd' with rfl | ⟨hd', -⟩
      · exact absurd rfl hne
      · obtain ⟨r', hr', hid⟩ := hold r hr
        rw [← hid]
        exact h.apart _ hm d hd' hne r' hr' q hq
    · rcases mem_putTable hd hd' with rfl | ⟨hd', -⟩
      · obtain ⟨q', hq', hid⟩ := hold q hq
        rw [← hid]
        exact h.apart e he _ hm hne r hr q' hq'
      · exact h.apart e he d hd' hne r hr q hq
  · intro e he r hr i hi q hq hid
    obtain ⟨j, hj, rfl⟩ := List.mem_map.1 hi
    obtain ⟨q, hqj, rfl⟩ := Index.mem_records_refresh.1 hq
    rw [Index.id_current] at hid
    rcases mem_putTable hd he with rfl | ⟨he, hke⟩
    · exact current_of_mem hnodup hr hid
    · have hother : ∀ x ∈ u.records, x.id ≠ q.id := by
        intro x hx hxq
        obtain ⟨x', hx', hid'⟩ := hold x hx
        exact h.apart e he _ hm hke r hr x' hx' (by rw [hid', hxq, hid])
      rw [current_of_not_mem hother]
      exact h.agree e he r hr j hj q hqj hid
  · intro e he r hr
    rcases mem_putTable hd he with rfl | ⟨he, -⟩
    · obtain ⟨q, hq, hid⟩ := hold r hr
      rw [← hid]
      exact h.tables_fresh _ hm q hq
    · exact h.tables_fresh e he r hr
  · intro i hi q hq
    obtain ⟨j, hj, rfl⟩ := List.mem_map.1 hi
    obtain ⟨q, hqj, rfl⟩ := Index.mem_records_refresh.1 hq
    rw [Index.id_current]
    exact h.indexes_fresh j hj q hqj

/-- An index is built of the records of a table. -/
lemma Coherent.putIndex (h : db.Coherent) (hd : Keyed.Distinct (Keyed.keys db.tables))
    (ht : db.table? name = some t) {i : Index} (hi : ∀ q ∈ i.records, q ∈ t.records)
    (key : String) : (db.putIndex key i).Coherent := by
  have hm := mem_of_table? ht
  refine ⟨h.nodup, h.apart, fun e he r hr => ?_, h.tables_fresh, ?_⟩
  · refine Keyed.forall_put (P := fun j : Index => ∀ q ∈ j.records, q.id = r.id → q = r)
      (fun q hq hid => ?_) (h.agree e he r hr)
    rcases eq_or_ne e.1 name with hn | hn
    · obtain rfl : e = (name, t) := eq_of_name hd he hm hn
      exact h.eq_of_id he (hi q hq) hr hid
    · exact absurd hid.symm (h.apart e he _ hm hn r hr q (hi q hq))
  · exact Keyed.forall_put (P := fun j : Index => ∀ q ∈ j.records, q.id < db.freshId)
      (fun q hq => h.tables_fresh _ hm q (hi q hq)) h.indexes_fresh

/-- **A statement keeps a database coherent.** -/
theorem Coherent.step (h : db.Coherent) (hd : Keyed.Distinct (Keyed.keys db.tables))
    {s : Statement} {db' : Database} (hs : Step db s db') : db'.Coherent := by
  cases hs with
  | same => exact h
  | create name defs => exact h.putTable_empty hd rfl
  | refuse columns values ht => exact h.putTable_sublist hd ht (by simp)
  | append ht hkey hrow hfault => exact h.append hd ht rfl
  | @update name t assignments c ht =>
    exact h.refresh hd ht (Table.ids_updateRecords assignments c t.records)
  | delete c ht hc => exact h.putTable_sublist hd ht (Condition.sublist_partition hc).2
  | index index column ht => exact h.putIndex hd ht (fun q hq => Index.mem_records_build hq) _

/-! ### Databases of snapshots -/

lemma ids_number (first : Nat) (rows : List Row) :
    (Snapshot.number first rows).map (·.id) = List.range' first rows.length := by
  unfold Snapshot.number
  induction rows generalizing first with
  | nil => rfl
  | cons row rows ih =>
    rw [List.zipIdx_cons, List.map_cons, List.map_cons, ih, List.length_cons, List.range'_succ]

lemma mem_number {first : Nat} {rows : List Row} {r : Record}
    (h : r ∈ Snapshot.number first rows) : first ≤ r.id ∧ r.id < first + rows.length := by
  have hid : r.id ∈ (Snapshot.number first rows).map (·.id) := List.mem_map_of_mem h
  rwa [ids_number, List.mem_range'_1] at hid

/-- The records of a table that was made are numbered. -/
lemma table?_records {first : Nat} {u : Snapshot.Table} (h : u.table? first = some t) :
    ∃ rows, t.records = Snapshot.number first rows := by
  obtain ⟨_, -, h⟩ := Option.bind_eq_some_iff.1 h
  obtain ⟨_, -, h⟩ := Option.bind_eq_some_iff.1 h
  obtain ⟨_, -, h⟩ := Option.bind_eq_some_iff.1 h
  obtain ⟨rows, -, h⟩ := Option.bind_eq_some_iff.1 h
  cases h
  exact ⟨rows, rfl⟩

/-- Tables that were made have numbers of their own, below those that come after. -/
lemma tables?_ids {first last : Nat} {us : List (Wide × Snapshot.Table)}
    {ts : List (String × Table)} (h : Snapshot.tables? first us = some (ts, last)) :
    first ≤ last ∧ (∀ e ∈ ts, (e.2.records.map (·.id)).Nodup) ∧
      (∀ e ∈ ts, ∀ r ∈ e.2.records, first ≤ r.id ∧ r.id < last) ∧
      ts.Pairwise fun e d => ∀ r ∈ e.2.records, ∀ q ∈ d.2.records, r.id < q.id := by
  induction us generalizing first ts with
  | nil =>
    cases h
    simp
  | cons u us ih =>
    obtain ⟨t, ht, h⟩ := Option.bind_eq_some_iff.1 h
    obtain ⟨⟨vs, next⟩, hvs, h⟩ := Option.bind_eq_some_iff.1 h
    obtain ⟨name, -, h⟩ := Option.bind_eq_some_iff.1 h
    cases h
    obtain ⟨rows, hrows⟩ := table?_records ht
    obtain ⟨hle, hnodup, hbounds, hpairs⟩ := ih hvs
    have hlength : t.records.length = rows.length := by
      rw [hrows]
      simp [Snapshot.number]
    have hfirst : ∀ r ∈ t.records, first ≤ r.id ∧ r.id < first + t.records.length := by
      intro r hr
      rw [hlength]
      exact mem_number (hrows ▸ hr)
    refine ⟨by omega, List.forall_mem_cons.2 ⟨?_, hnodup⟩, List.forall_mem_cons.2 ⟨?_, ?_⟩,
      List.pairwise_cons.2 ⟨?_, hpairs⟩⟩
    · rw [hrows, ids_number]
      exact List.nodup_range'
    · intro r hr
      have := hfirst r hr
      omega
    · intro e he r hr
      have := hbounds e he r hr
      omega
    · intro e he r hr q hq
      have := hfirst r hr
      have := hbounds e he q hq
      omega

lemma numberEntries_ids (first : Nat) (es : List (Value × List Row)) :
    first ≤ (Snapshot.numberEntries first es).2 ∧
      ∀ e ∈ (Snapshot.numberEntries first es).1, ∀ r ∈ e.2,
        first ≤ r.id ∧ r.id < (Snapshot.numberEntries first es).2 := by
  induction es generalizing first with
  | nil => simp [Snapshot.numberEntries]
  | cons e es ih =>
    obtain ⟨hle, hbounds⟩ := ih (first + e.2.length)
    rw [Snapshot.numberEntries]
    dsimp only
    refine ⟨by omega, List.forall_mem_cons.2 ⟨?_, ?_⟩⟩
    · intro r hr
      have := mem_number hr
      omega
    · intro d hd r hr
      have := hbounds d hd r hr
      omega

lemma index?_ids {first last : Nat} {k : Snapshot.Index} {i : Index}
    (h : k.index? first = some (i, last)) :
    first ≤ last ∧ ∀ r ∈ i.records, first ≤ r.id ∧ r.id < last := by
  obtain ⟨es, -, h⟩ := Option.bind_eq_some_iff.1 h
  have hids := numberEntries_ids first es
  obtain ⟨_, -, h⟩ := Option.bind_eq_some_iff.1 h
  obtain ⟨_, -, h⟩ := Option.bind_eq_some_iff.1 h
  obtain ⟨_, -, h⟩ := Option.bind_eq_some_iff.1 h
  cases h
  refine ⟨hids.1, fun r hr => ?_⟩
  obtain ⟨e, he, hr⟩ := Index.mem_records.1 hr
  exact hids.2 e he r hr

lemma indexes?_ids {first last : Nat} {ks : List (Wide × Snapshot.Index)}
    {is : List (String × Index)} (h : Snapshot.indexes? first ks = some (is, last)) :
    first ≤ last ∧ ∀ i ∈ is, ∀ r ∈ i.2.records, first ≤ r.id ∧ r.id < last := by
  induction ks generalizing first is with
  | nil =>
    cases h
    simp
  | cons k ks ih =>
    obtain ⟨⟨i, next⟩, hi, h⟩ := Option.bind_eq_some_iff.1 h
    obtain ⟨⟨us, final⟩, hus, h⟩ := Option.bind_eq_some_iff.1 h
    obtain ⟨name, -, h⟩ := Option.bind_eq_some_iff.1 h
    cases h
    obtain ⟨hle, hfirst⟩ := index?_ids hi
    obtain ⟨hle', hrest⟩ := ih hus
    refine ⟨by omega, List.forall_mem_cons.2 ⟨?_, ?_⟩⟩
    · intro r hr
      have := hfirst r hr
      omega
    · intro k hk r hr
      have := hrest k hk r hr
      omega

/-- What is made for a database are its tables, and after them its indexes. -/
lemma made_of_database? {s : Snapshot} (h : s.database? = some db) : ∃ next,
    Snapshot.tables? 0 s.tables = some (db.tables, next) ∧
      Snapshot.indexes? next s.indexes = some (db.indexes, db.freshId) := by
  obtain ⟨⟨ts, next⟩, hts, h⟩ := Option.bind_eq_some_iff.1 h
  obtain ⟨⟨is, last⟩, his, h⟩ := Option.bind_eq_some_iff.1 h
  cases h
  exact ⟨next, hts, his⟩

/-- Indexes that were made have no record of a table. -/
lemma id_ne_of_database? {s : Snapshot} (h : s.database? = some db) :
    ∀ e ∈ db.tables, ∀ r ∈ e.2.records, ∀ i ∈ db.indexes, ∀ q ∈ i.2.records, r.id ≠ q.id := by
  obtain ⟨next, hts, his⟩ := made_of_database? h
  intro e he r hr i hi q hq
  have := ((tables?_ids hts).2.2.1 e he r hr).2
  have := ((indexes?_ids his).2 i hi q hq).1
  omega

/-- **The database of a snapshot is coherent**: it shares nothing between tables and indexes. -/
theorem coherent_of_database? {s : Snapshot} (h : s.database? = some db) : db.Coherent := by
  have hne := id_ne_of_database? h
  obtain ⟨next, hts, his⟩ := made_of_database? h
  obtain ⟨-, hnodup, hbounds, hpairs⟩ := tables?_ids hts
  obtain ⟨hle, hindexes⟩ := indexes?_ids his
  refine ⟨hnodup, ?_, ?_, ?_, fun i hi q hq => (hindexes i hi q hq).2⟩
  · intro e he d hd hne r hr q hq
    have hother : db.tables.Pairwise fun e d => ∀ r ∈ e.2.records, ∀ q ∈ d.2.records, r.id ≠ q.id :=
      hpairs.imp fun hlt r hr q hq => (hlt r hr q hq).ne
    have hsymm : Std.Symm fun e d : String × Table =>
        ∀ r ∈ e.2.records, ∀ q ∈ d.2.records, r.id ≠ q.id :=
      ⟨fun _ _ hne r hr q hq => (hne q hq r hr).symm⟩
    exact hother.forall he hd (fun heq => hne (congrArg Prod.fst heq)) r hr q hq
  · exact fun e he r hr i hi q hq hid => absurd hid.symm (hne e he r hr i hi q hq)
  · intro e he r hr
    have := (hbounds e he r hr).2
    omega

end Tabula.Database
