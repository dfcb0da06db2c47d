import Tabula.Proofs.Database.Formed
import Tabula.Proofs.Database.Indexed
import Tabula.Proofs.Database.Log
import Tabula.Proofs.Index.Filed

/-!
What an index keeps of its table, whatever becomes of the table.

The records that an index was given are those of the table when it was created, and then every one
that an insertion adds to the table. They stay filed as they were when they were given. So a record
of the table is in the index once, where it was filed; an update shows in it, since the index has
the same record; and neither a deletion nor a new table takes anything out of the index.
-/

namespace Tabula

/-- Whether a statement is an insertion into a table. -/
def Statement.inserts (s : Statement) (name : String) : Bool :=
  match s with
  | .insert n _ _ => n == name
  | _ => false

namespace Database

/-- The database after statements, whether or not they fail. -/
def replay (db : Database) (log : Log) : Database :=
  log.foldl (fun db s => (db.execute s).database) db

/-- Whether a statement is an insertion into a table that succeeds. -/
def adds (db : Database) (name : String) (s : Statement) : Bool :=
  s.inserts name && (db.execute s).outcome.isOk

/-- The number of such statements. -/
def successes (db : Database) (name : String) : Log → Nat
  | [] => 0
  | s :: log => (db.adds name s).toNat + (db.execute s).database.successes name log

/-- The record that a statement adds to a table, if it does: the last one. -/
def added? (db : Database) (name : String) (s : Statement) : Option Record :=
  if db.adds name s then ((db.execute s).database.table? name).bind (·.records.getLast?) else none

/-- The records that statements add to a table, each as it was when it was added. -/
def added (db : Database) (name : String) : Log → List Record
  | [] => []
  | s :: log => (db.added? name s).toList ++ (db.execute s).database.added name log

variable {db : Database} {name column : String} {s : Statement} {filed : List Record} {i : Index}
  {t : Table}

lemma replay_concat (db : Database) (log : Log) (s : Statement) :
    db.replay (log ++ [s]) = ((db.replay log).execute s).database := by
  rw [replay, List.foldl_append, replay]
  rfl

lemma replay_append (db : Database) (log more : Log) :
    db.replay (log ++ more) = (db.replay log).replay more :=
  List.foldl_append

lemma added_concat (db : Database) (name : String) (log : Log) (s : Statement) :
    db.added name (log ++ [s]) =
      db.added name log ++ ((db.replay log).added? name s).toList := by
  induction log generalizing db with
  | nil => simp [added, replay]
  | cons q log ih =>
    rw [List.cons_append, added, ih, added, List.append_assoc]
    rfl

/-- What an insertion into a table does to the database: it fails and leaves the records as they
are, or it succeeds with a new record. -/
lemma execute_insert_cases (hi : ∀ e ∈ db.indexes, e.2.column.IsText)
    (ht : db.table? name = some t) (columns : List String) (values : List Value) :
    let s := Statement.insert name columns values
    (db.added? name s = none ∧ db.adds name s = false ∧
      (db.execute s).database = db.putTable name (t.spend columns)) ∨
    ∃ row, db.added? name s = some ⟨db.freshId, row⟩ ∧ db.adds name s = true ∧
      (db.execute s).database =
        { db.putTable name { t.spend columns with records := t.records ++ [⟨db.freshId, row⟩] } with
          indexes := Keyed.mapValues (Index.note name ⟨db.freshId, row⟩) db.indexes
          freshId := db.freshId + 1 } := by
  intro s
  have hinserts : s.inserts name = true := beq_self_eq_true name
  rcases t.insert_cases db.freshId columns values with
    ⟨failure, hout, htable⟩ | ⟨key, row, -, -, -, hout, htable⟩
  · left
    have hexecute : db.execute s = _ := insert_refused ht hout
    have hadds : db.adds name s = false := by
      rw [adds, hexecute]
      exact Bool.and_false _
    exact ⟨by rw [added?, hadds, if_neg Bool.false_ne_true], hadds, by rw [hexecute, htable]⟩
  · right
    have hexecute : db.execute s = _ := insert_accepted ht hi hout
    have hadds : db.adds name s = true := by
      rw [adds, hexecute, hinserts]
      rfl
    refine ⟨row, ?_, hadds, by rw [hexecute, htable]⟩
    rw [added?, hadds, if_pos rfl, hexecute, htable]
    change (table? (putTable _ _ _) name).bind _ = _
    rw [table?_putTable, if_pos rfl]
    simp

lemma adds_eq_false (h : ∀ columns values, s ≠ .insert name columns values) :
    db.adds name s = false := by
  cases s with
  | insert n columns values =>
    have hn : n ≠ name := by
      rintro rfl
      exact h columns values rfl
    simp [adds, Statement.inserts, hn]
  | createTable | select | update | delete | createIndex | showTables | describe => rfl

lemma added?_eq_none (h : ∀ columns values, s ≠ .insert name columns values) :
    db.added? name s = none := by
  rw [added?, adds_eq_false h, if_neg Bool.false_ne_true]

/-! ### What is filed -/

/-- An index of a column has the given records filed, as they were then, and among them are the
records of its table. -/
structure Filed (db : Database) (name column : String) (filed : List Record) (i : Index)
    (t : Table) : Prop where
  index : db.index? (Index.keyOf name column) = some i
  table : db.table? name = some t
  named : i.table = .text name ∧ i.column = .text column
  filing : ∃ given, i.filing = (Index.build given name column filed).filing
  nodup : (filed.map (·.id)).Nodup
  present : ∀ r ∈ t.records, r.id ∈ filed.map (·.id)

namespace Filed

/-- The identities of what is filed are those of the records of the index. -/
lemma ids_perm (h : db.Filed name column filed i t) :
    (i.records.map (·.id)).Perm (filed.map (·.id)) :=
  Index.ids_perm_of_filing h.filing.choose_spec

/-- A table in its place has no records but those. -/
lemma putTable {u : Table} (h : db.Filed name column filed i t)
    (hu : ∀ r ∈ u.records, r.id ∈ filed.map (·.id)) :
    (db.putTable name u).Filed name column filed i u :=
  ⟨h.index, by rw [table?_putTable, if_pos rfl], h.named, h.filing, h.nodup, hu⟩

/-- Another table does not matter. -/
lemma putTable_other {other : String} (h : db.Filed name column filed i t) (hn : other ≠ name)
    (u : Table) : (db.putTable other u).Filed name column filed i t :=
  ⟨h.index, by rw [table?_putTable, if_neg hn, h.table], h.named, h.filing, h.nodup, h.present⟩

/-- Indexes may change, if what is filed does not. -/
lemma withIndexes (h : db.Filed name column filed i t) {f : Index → Index}
    (hnamed : (f i).table = i.table ∧ (f i).column = i.column) (hf : (f i).filing = i.filing)
    (freshId : Nat) :
    ({ db with indexes := Keyed.mapValues f db.indexes, freshId } : Database).Filed
      name column filed (f i) t where
  index := by
    rw [index?, Keyed.find?_mapValues, ← index?, h.index, Option.map_some]
  table := h.table
  named := by
    rw [hnamed.1, hnamed.2]
    exact h.named
  filing := by
    rw [hf]
    exact h.filing
  nodup := h.nodup
  present := h.present

/-- A record that comes into the table is filed. -/
lemma append (h : db.Filed name column filed i t) (hc : db.Coherent) {row : Row} {u : Table}
    (hu : u.records = t.records ++ [⟨db.freshId, row⟩]) :
    Filed { db.putTable name u with
      indexes := Keyed.mapValues (Index.note name ⟨db.freshId, row⟩) db.indexes
      freshId := db.freshId + 1 } name column (filed ++ [⟨db.freshId, row⟩])
      (i.addUnder (.name column) ⟨db.freshId, row⟩) u where
  index := by
    obtain ⟨htable, hcolumn⟩ := h.named
    have hnote : i.note name ⟨db.freshId, row⟩ = i.addUnder (.name column) ⟨db.freshId, row⟩ := by
      rw [Index.note, Index.add, htable, hcolumn]
      exact if_pos rfl
    rw [index?, Keyed.find?_mapValues, ← hnote]
    exact congrArg (Option.map _) h.index
  table := by
    change (db.putTable name u).table? name = _
    rw [table?_putTable, if_pos rfl]
  named := h.named
  filing := by
    obtain ⟨given, hfiling⟩ := h.filing
    refine ⟨given, ?_⟩
    rw [Index.build_concat]
    exact Index.filing_addUnder hfiling _ _
  nodup := by
    rw [List.map_append, List.nodup_append]
    refine ⟨h.nodup, List.nodup_singleton _, fun a ha b hb => ?_⟩
    -- what is filed has an identity that is not fresh any more
    obtain ⟨q, hq, rfl⟩ := List.mem_map.1 (h.ids_perm.mem_iff.2 ha)
    obtain rfl : b = db.freshId := by simpa using hb
    exact (hc.indexes_fresh _ (mem_of_index? h.index) q hq).ne
  present := by
    intro r hr
    rw [hu] at hr
    rw [List.map_append]
    rcases List.mem_append.1 hr with hr | hr
    · exact List.mem_append_left _ (h.present r hr)
    · rw [List.mem_singleton.1 hr]
      exact List.mem_append_right _ (List.mem_singleton_self _)

/-- Records keep their identities when they are updated. -/
lemma update (h : db.Filed name column filed i t) {other : String} {u : Table}
    (hu : db.table? other = some u) (assignments : List (String × Value)) (c : Condition) :
    ∃ v, (db.putTable other (u.update assignments c).1).Filed name column filed i v := by
  by_cases hsame : other = name
  · subst hsame
    obtain rfl : t = u := Option.some.inj (h.table.symm.trans hu)
    refine ⟨_, h.putTable fun r hr => ?_⟩
    have hid : r.id ∈ t.records.map (·.id) := by
      rw [← Table.ids_updateRecords assignments c]
      exact List.mem_map_of_mem hr
    obtain ⟨q, hq, hqr⟩ := List.mem_map.1 hid
    exact hqr ▸ h.present q hq
  · exact ⟨t, h.putTable_other hsame _⟩

lemma putIndex_other (h : db.Filed name column filed i t) {key : String}
    (hk : key ≠ Index.keyOf name column) (j : Index) :
    (db.putIndex key j).Filed name column filed i t :=
  ⟨by rw [index?_putIndex, if_neg hk, h.index], h.table, h.named, h.filing, h.nodup, h.present⟩

end Filed

/-- An index that is created has the records of its table filed. -/
lemma filed_createIndex (hc : db.Coherent) (ht : db.table? name = some t) {index column : String}
    (hi : (db.execute (.createIndex index name column)).database.index?
      (Index.keyOf name column) = some i) :
    (db.execute (.createIndex index name column)).database.Filed name column t.records i t := by
  have hexecute : (db.execute (.createIndex index name column)).database =
      db.putIndex (Index.keyOf name column) (.build index name column t.records) := by
    rw [execute, createIndex, table_eq_ok.2 ht]
  rw [hexecute, index?_putIndex, if_pos rfl] at hi
  cases hi
  rw [hexecute]
  exact
    { index := by rw [index?_putIndex, if_pos rfl]
      table := ht
      named := Index.build_induction
        (P := fun i => i.table = .text name ∧ i.column = .text column) ⟨rfl, rfl⟩
        fun _ hi _ _ => hi
      filing := ⟨index, rfl⟩
      nodup := hc.nodup _ (mem_of_table? ht)
      present := fun _ hr => List.mem_map_of_mem hr }

/-- **A statement files the record that it adds, and nothing else**, unless it creates the index
anew. -/
theorem Filed.step (h : db.Filed name column filed i t) (hc : db.Coherent)
    (hi : ∀ e ∈ db.indexes, e.2.column.IsText) (hn : '.' ∉ name.toList)
    (hcolumn : '.' ∉ column.toList) (hs : ∀ index, s ≠ .createIndex index name column) :
    ∃ j u, (db.execute s).database.Filed name column (filed ++ (db.added? name s).toList) j u := by
  by_cases hinsert : ∃ columns values, s = .insert name columns values
  · obtain ⟨columns, values, rfl⟩ := hinsert
    rcases execute_insert_cases hi h.table columns values with
      ⟨hnone, -, hdb⟩ | ⟨row, hsome, -, hdb⟩
    · rw [hnone, hdb, Option.toList_none, List.append_nil]
      refine ⟨i, _, h.putTable ?_⟩
      rw [Table.spend_records]
      exact h.present
    · rw [hsome, hdb]
      exact ⟨_, _, h.append hc rfl⟩
  · have hother : ∀ columns values, s ≠ .insert name columns values :=
      fun columns values hs => hinsert ⟨columns, values, hs⟩
    rw [added?_eq_none hother, Option.toList_none, List.append_nil]
    have hstep := step_execute hi s
    generalize (db.execute s).database = after at hstep
    cases hstep with
    | same => exact ⟨i, t, h⟩
    | create other defs =>
      by_cases hsame : other = name
      · subst hsame
        exact ⟨i, _, h.putTable (by simp [Table.ofColumns])⟩
      · exact ⟨i, t, h.putTable_other hsame _⟩
    | @refuse other u columns values _ =>
      have hsame : other ≠ name := fun he => hother columns values (he ▸ rfl)
      exact ⟨i, t, h.putTable_other hsame _⟩
    | @append other u key columns values row _ =>
      have hsame : other ≠ name := fun he => hother columns values (he ▸ rfl)
      have hnote : i.note other ⟨db.freshId, row⟩ = i := by
        rw [Index.note, h.named.1]
        exact if_neg fun he => hsame (Option.some.inj he).symm
      exact ⟨_, t, (h.putTable_other hsame _).withIndexes (by rw [hnote]; exact ⟨rfl, rfl⟩)
        (by rw [hnote]) _⟩
    | @update other u assignments c hu =>
      obtain ⟨v, hv⟩ := h.update hu assignments c
      exact ⟨_, v, hv.withIndexes ⟨rfl, rfl⟩ (Index.filing_refresh i _) _⟩
    | @delete other u c gone kept hu hpart =>
      by_cases hsame : other = name
      · subst hsame
        obtain rfl : t = u := Option.some.inj (h.table.symm.trans hu)
        have hkept := (Condition.sublist_partition hpart).2
        exact ⟨i, _, h.putTable fun r hr => h.present r (hkept.subset hr)⟩
      · exact ⟨i, t, h.putTable_other hsame _⟩
    | @index other u index another hu =>
      have hkey : Index.keyOf other another ≠ Index.keyOf name column := by
        intro he
        obtain ⟨rfl, rfl⟩ := Index.keyOf_inj hn hcolumn he
        exact hs index rfl
      exact ⟨i, t, h.putIndex_other hkey _⟩

/-- **What an index shows of its table**: each of its records once, as it is now, under the cell
that it was filed with. -/
theorem Filed.shows (h : db.Filed name column filed i t) (hc : db.Coherent) :
    (∀ r ∈ t.records, i.records.filter (·.id == r.id) = [r]) ∧
    (∀ e ∈ i.entries, ∀ r ∈ e.2, ∃ q ∈ filed, q.id = r.id ∧
      e.1.sameKey (Row.cell q.row column) = true) ∧
    i.size = filed.length := by
  obtain ⟨given, hfiling⟩ := h.filing
  have hnodup : (i.records.map (·.id)).Nodup := h.ids_perm.nodup_iff.2 h.nodup
  refine ⟨fun r hr => ?_, fun e he r hr => Index.exists_filed hfiling he hr,
    Index.size_of_filing hfiling⟩
  have hmem : r ∈ i.records := by
    obtain ⟨q, hq, hid⟩ := List.mem_map.1 (h.ids_perm.mem_iff.2 (h.present r hr))
    have hagree := hc.agree _ (mem_of_table? h.table) r hr _ (mem_of_index? h.index) q hq hid
    exact hagree ▸ hq
  have honly : i.records.filter (·.id == r.id) = i.records.filter (· == r) := by
    refine List.filter_congr fun q hq => ?_
    rw [Bool.eq_iff_iff, beq_iff_eq, beq_iff_eq]
    exact ⟨fun hid => List.inj_on_of_nodup_map hnodup hq hmem hid, fun hqr => hqr ▸ rfl⟩
  rw [honly, List.filter_beq, List.count_eq_one_of_mem hnodup.of_map hmem, List.replicate_one]

/-! ### After statements -/

/-- A statement keeps names apart, whatever the cells are. -/
lemma formed_execute (h : db.Formed fun _ => True) (s : Statement) :
    (db.execute s).database.Formed fun _ => True := by
  have hcasts : ColumnType.Casts (fun _ => True) fun _ => True :=
    ⟨fun _ _ => trivial, fun _ _ => trivial⟩
  have hsupplies : s.Supplies (fun _ => True) fun _ => True := by
    cases s with
    | insert | update => exact fun _ _ => trivial
    | createTable | select | delete | createIndex | showTables | describe => trivial
  exact h.execute hcasts trivial (fun _ _ => trivial) hsupplies

/-- As many records are added as insertions succeed. -/
lemma length_added (h : db.Formed fun _ => True) (name : String) (log : Log) :
    (db.added name log).length = db.successes name log := by
  induction log generalizing db with
  | nil => rfl
  | cons s log ih =>
    rw [added, successes, List.length_append, ih (formed_execute h s), Nat.add_right_cancel_iff]
    by_cases hinsert : ∃ columns values, s = .insert name columns values
    · obtain ⟨columns, values, rfl⟩ := hinsert
      cases ht : db.table? name with
      | none =>
        have hadds : db.adds name (.insert name columns values) = false := by
          rw [adds, execute, insert, table_eq_error ht]
          exact Bool.and_false _
        rw [added?, hadds, if_neg Bool.false_ne_true]
        rfl
      | some t =>
        rcases execute_insert_cases (fun e he => (h.indexes e he).column) ht columns values with
          ⟨hnone, hadds, -⟩ | ⟨row, hsome, hadds, -⟩
        · rw [hnone, hadds]
          rfl
        · rw [hsome, hadds]
          rfl
    · have hother : ∀ columns values, s ≠ .insert name columns values :=
        fun columns values hs => hinsert ⟨columns, values, hs⟩
      rw [added?_eq_none hother, adds_eq_false hother]
      rfl

lemma Formed.replay (h : db.Formed fun _ => True) (log : Log) :
    (db.replay log).Formed fun _ => True := by
  induction log using List.reverseRecOn with
  | nil => exact h
  | append_singleton log s ih =>
    rw [replay_concat]
    exact formed_execute ih s

lemma formed_replay (log : Log) : (empty.replay log).Formed fun _ => True :=
  formed_empty.replay log

lemma coherent_replay (log : Log) : (empty.replay log).Coherent := by
  induction log using List.reverseRecOn with
  | nil => exact coherent_empty
  | append_singleton log s ih =>
    have hformed := formed_replay log
    rw [replay_concat]
    exact ih.step hformed.tableNames (step_execute (fun e he => (hformed.indexes e he).column) s)

/-- An index was there before a statement, or the statement has created it. -/
lemma index?_execute (hi : ∀ e ∈ db.indexes, e.2.column.IsText) {key : String}
    (h : (db.execute s).database.index? key = some i) :
    (∃ j, db.index? key = some j) ∨
      ∃ index name column t, s = .createIndex index name column ∧
        key = Index.keyOf name column ∧ db.table? name = some t := by
  have hmap : ∀ {f : Index → Index} {tables freshId},
      index? ⟨tables, Keyed.mapValues f db.indexes, freshId⟩ key = some i →
        ∃ j, db.index? key = some j := by
    intro f tables freshId h
    rw [index?, Keyed.find?_mapValues, Option.map_eq_some_iff] at h
    exact h.imp fun _ hj => hj.1
  have hstep := step_execute hi s
  generalize (db.execute s).database = after at h hstep
  cases hstep with
  | same | create | refuse | delete => exact .inl ⟨i, h⟩
  | append | update => exact .inl (hmap h)
  | @index name t index column ht =>
    rw [index?_putIndex] at h
    split at h
    · rename_i hkey
      exact .inr ⟨index, name, column, t, rfl, hkey.symm, ht⟩
    · exact .inl ⟨i, h⟩

/-- **After any statements every index has its records filed**: those of its table when it was
created for the last time, and those that have been added since. -/
theorem filed_replay {log : Log} (hw : ∀ index name column, .createIndex index name column ∈ log →
      '.' ∉ name.toList ∧ '.' ∉ column.toList) {key : String}
    (hi : (empty.replay log).index? key = some i) :
    ∃ before index name column since t₁ t, log = before ++ .createIndex index name column :: since ∧
      key = Index.keyOf name column ∧ (∀ another, .createIndex another name column ∉ since) ∧
      (empty.replay (before ++ [.createIndex index name column])).table? name = some t₁ ∧
      (empty.replay log).Filed name column (t₁.records ++
        (empty.replay (before ++ [.createIndex index name column])).added name since) i t := by
  induction log using List.reverseRecOn generalizing i with
  | nil => cases hi
  | append_singleton log s ih =>
    have hformed := formed_replay log
    have hcoherent := coherent_replay log
    have htext : ∀ e ∈ (empty.replay log).indexes, e.2.column.IsText :=
      fun e he => (hformed.indexes e he).column
    rw [replay_concat] at hi
    rcases index?_execute htext hi with ⟨j, hj⟩ | ⟨index, name, column, t, rfl, hkey, ht⟩
    · obtain ⟨before, index, name, column, since, t₁, t, rfl, hkey, hsince, ht₁, hfiled⟩ :=
        ih (fun index name column hm => hw index name column (List.mem_append_left _ hm)) hj
      by_cases hs : ∃ another, s = .createIndex another name column
      · obtain ⟨another, rfl⟩ := hs
        have hnew := filed_createIndex hcoherent hfiled.table (hkey ▸ hi)
        rw [← replay_concat] at hnew
        exact ⟨_, another, name, column, [], t, t, rfl, hkey, by simp, hnew.table, by
          rwa [added, List.append_nil]⟩
      · obtain ⟨hname, hcolumn⟩ := hw index name column (by simp)
        obtain ⟨k, u, hk⟩ := hfiled.step hcoherent htext hname hcolumn
          fun another he => hs ⟨another, he⟩
        obtain rfl : k = i := Option.some.inj (hk.index.symm.trans (hkey ▸ hi))
        refine ⟨before, index, name, column, since ++ [s], t₁, u, by simp, hkey, ?_, ht₁, ?_⟩
        · intro another hm
          rcases List.mem_append.1 hm with hm | hm
          · exact hsince another hm
          · exact hs ⟨another, (List.mem_singleton.1 hm).symm⟩
        · have hlog : (empty.replay (before ++ [.createIndex index name column])).replay since =
              empty.replay (before ++ .createIndex index name column :: since) := by
            simp [replay]
          rw [replay_concat, added_concat, ← List.append_assoc, hlog]
          exact hk
    · have hnew := filed_createIndex hcoherent ht (hkey ▸ hi)
      rw [← replay_concat] at hnew
      exact ⟨log, index, name, column, [], t, t, rfl, hkey, by simp, hnew.table, by
        rwa [added, List.append_nil]⟩

end Database

end Tabula
