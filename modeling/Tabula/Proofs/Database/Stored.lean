import Tabula.Database.Snapshot
import Tabula.Proofs.Except
import Tabula.Proofs.Json.RoundTrip

/-!
What a snapshot keeps.

The content of a database is the database without the identities of its records. A database whose
names are text, whose rows have no label twice and whose values read back can be stored; the
snapshot of such a database is a document that can be kept, and a database with the same content is
read from it.
-/

namespace Tabula

/-! ### Content -/

def Record.content (r : Record) : Record := ⟨0, r.row⟩

def Table.content (t : Table) : Table := { t with records := t.records.map Record.content }

def Index.content (i : Index) : Index :=
  { i with entries := i.entries.map fun e => (e.1, e.2.map Record.content) }

/-- The database without the identities of its records. -/
def Database.content (db : Database) : Database :=
  ⟨Keyed.mapValues Table.content db.tables, Keyed.mapValues Index.content db.indexes, 0⟩

@[simp] lemma Record.row_content (r : Record) : r.content.row = r.row := rfl

lemma Table.rows_content (t : Table) : t.content.rows = t.rows := by
  simp [Table.rows, Table.content, Function.comp_def]

/-! ### As a snapshot -/

section Snapshots

def Row.snapshot (row : Row) : Snapshot.Row :=
  row.map fun c => (.ofValue c.1.value, .atom (.ofValue c.2))

def Column.snapshot (c : Column) : Snapshot.Column := ⟨c.name.document, c.declared.document⟩

def Table.snapshot (t : Table) : Snapshot.Table :=
  ⟨t.columns.map Column.snapshot, t.constraints.primaryKey.document,
    t.constraints.unique.map Json.document, t.rows.map Row.snapshot, t.counter⟩

def Index.snapshot (i : Index) : Snapshot.Index :=
  ⟨i.name.document, i.table.document, i.column.document,
    i.entries.map fun e => (.ofValue e.1, e.2.map fun r => r.row.snapshot)⟩

/-- What is read where the database was written. -/
def Database.snapshot (db : Database) : Snapshot :=
  ⟨db.tables.map fun e => (Wide.ofString e.1, e.2.snapshot),
    db.indexes.map fun e => (Wide.ofString e.1, e.2.snapshot)⟩

/-- Values are the same keys as atoms that they are as values. -/
lemma Atom.same_ofValue (v w : Value) : Key.same (ofValue v) (ofValue w) = v.sameKey w := by
  have hiff : (ofValue v).identity = (ofValue w).identity ↔ v.identity = w.identity := by
    rcases v with _ | _ | _ | (_ | _ | _) | _ <;> rcases w with _ | _ | _ | (_ | _ | _) | _ <;>
      simp [ofValue, identity, Wide.ofString_inj, Value.identity]
  change decide ((ofValue v).identity = (ofValue w).identity) = (v.identity == w.identity)
  rw [Bool.eq_iff_iff, decide_eq_true_iff, beq_iff_eq, hiff]

end Snapshots

/-! ### What can be stored -/

def Json.IsText (j : Json) : Prop := ∃ s, j = .text s

/-- The labels of a row are names. -/
def Row.Named (row : Row) : Prop := ∀ c ∈ row, ∃ s, c.1 = Label.name s

/-- Different names, and values that read back. -/
structure Row.Storable (row : Row) : Prop where
  named : ∀ c ∈ row, ∃ s, c.1 = Label.name s
  distinct : Keyed.Distinct (Keyed.keys row)
  cells : ∀ c ∈ row, c.2.Storable

structure Table.Storable (t : Table) : Prop where
  columns : ∀ c ∈ t.columns, c.name.IsText ∧ c.declared.IsText
  primaryKey : t.constraints.primaryKey = .null ∨ t.constraints.primaryKey.IsText
  unique : ∀ j ∈ t.constraints.unique, j.IsText
  rows : ∀ r ∈ t.records, Row.Storable r.row
  counter : Writable t.counter

structure Index.Storable (i : Index) : Prop where
  name : i.name.IsText
  table : i.table.IsText
  column : i.column.IsText
  keys : ∀ e ∈ i.entries, e.1.Storable
  distinct : i.entries.Pairwise fun a b => a.1.sameKey b.1 = false
  rows : ∀ e ∈ i.entries, ∀ r ∈ e.2, Row.Storable r.row

structure Database.Storable (db : Database) : Prop where
  tableNames : Keyed.Distinct (Keyed.keys db.tables)
  indexKeys : Keyed.Distinct (Keyed.keys db.indexes)
  tables : ∀ e ∈ db.tables, e.2.Storable
  indexes : ∀ e ∈ db.indexes, e.2.Storable

lemma Json.IsText.fits {j : Json} (h : j.IsText) (depth : Nat) : Json.Fits depth j := by
  obtain ⟨s, rfl⟩ := h
  exact .scalar (v := .text s) trivial

/-- Labels that are names are the same as members exactly if they are the same as labels. -/
lemma Row.Storable.members {row : Row} (h : Row.Storable row) :
    Keyed.Distinct ((Keyed.keys row).map Database.memberName) := by
  unfold Keyed.Distinct
  rw [List.pairwise_map]
  refine h.distinct.imp_of_mem fun ha hb hab => ?_
  obtain ⟨c, hc, rfl⟩ := List.mem_map.1 ha
  obtain ⟨d, hd, rfl⟩ := List.mem_map.1 hb
  obtain ⟨s, hs⟩ := h.named c hc
  obtain ⟨t, ht⟩ := h.named d hd
  rw [hs, ht] at hab ⊢
  rwa [Label.same_name] at hab

namespace Database

open Json (Fits)

/-! ### The document -/

section Fits

variable (depth : Nat)

lemma fits_rowToJson {row : Row} (h : Row.Storable row) : Fits (depth + 1) (rowToJson row) := by
  refine .object ?_ ?_
  · have hm := h.members
    rwa [Keyed.keys, List.map_map] at hm ⊢
  · simp only [List.forall_mem_map]
    exact fun c hc => .scalar (h.cells c hc)

lemma fits_columnToJson {c : Column} (hn : c.name.IsText) (hd : c.declared.IsText) :
    Fits (depth + 1) (columnToJson c) := by
  refine .object (Keyed.distinct_of_nodup ["name", "type"] (by decide)) ?_
  simp only [List.forall_mem_cons, List.not_mem_nil, IsEmpty.forall_iff, implies_true, and_true]
  exact ⟨hn.fits depth, hd.fits depth⟩

lemma fits_tableToJson {t : Table} (h : t.Storable) : Fits (depth + 3) (tableToJson t) := by
  refine .object (Keyed.distinct_of_nodup ["columns", "constraints", "rows", "next_id"]
    (by decide)) ?_
  simp only [List.forall_mem_cons, List.not_mem_nil, IsEmpty.forall_iff, implies_true, and_true]
  refine ⟨.array ?_, .object (Keyed.distinct_of_nodup ["primary_key", "unique"] (by decide)) ?_,
    .array ?_, .scalar h.counter⟩
  · simp only [List.forall_mem_map]
    exact fun c hc => fits_columnToJson depth (h.columns c hc).1 (h.columns c hc).2
  · simp only [List.forall_mem_cons, List.not_mem_nil, IsEmpty.forall_iff, implies_true, and_true]
    constructor
    · rcases h.primaryKey with hk | hk
      · rw [hk]
        exact .scalar trivial
      · exact hk.fits _
    · exact .array fun j hj => (h.unique j hj).fits _
  · simp only [Table.rows, List.map_map, List.forall_mem_map, Function.comp_apply]
    exact fun r hr => fits_rowToJson depth (h.rows r hr)

lemma fits_indexToJson {i : Index} (h : i.Storable) : Fits (depth + 5) (indexToJson i) := by
  refine .object (Keyed.distinct_of_nodup ["name", "table", "column", "entries"] (by decide)) ?_
  simp only [List.forall_mem_cons, List.not_mem_nil, IsEmpty.forall_iff, implies_true, and_true]
  refine ⟨h.name.fits _, h.table.fits _, h.column.fits _, .array ?_⟩
  simp only [List.forall_mem_map]
  intro e he
  refine .array ?_
  simp only [List.forall_mem_cons, List.not_mem_nil, IsEmpty.forall_iff, implies_true, and_true]
  refine ⟨.scalar (h.keys e he), .array ?_⟩
  simp only [List.forall_mem_map]
  exact fun r hr => fits_rowToJson depth (h.rows e he r hr)

lemma fits_toJson {db : Database} (h : db.Storable) : Fits (depth + 7) db.toJson := by
  have ht : Keyed.keys (db.tables.map fun e => (e.1, tableToJson e.2)) = Keyed.keys db.tables :=
    Keyed.keys_mapValues _ _
  have hi : Keyed.keys (db.indexes.map fun e => (e.1, indexToJson e.2)) = Keyed.keys db.indexes :=
    Keyed.keys_mapValues _ _
  refine .object (Keyed.distinct_of_nodup ["tables", "indexes"] (by decide)) ?_
  simp only [List.forall_mem_cons, List.not_mem_nil, IsEmpty.forall_iff, implies_true, and_true]
  constructor
  · refine .object (by rw [ht]; exact h.tableNames) ?_
    simp only [List.forall_mem_map]
    exact fun e he => fits_tableToJson _ (h.tables e he)
  · refine .object (by rw [hi]; exact h.indexKeys) ?_
    simp only [List.forall_mem_map]
    exact fun e he => fits_indexToJson _ (h.indexes e he)

end Fits

/-! ### Reading the snapshot -/

section Reading

open Snapshot (readRow readRows readColumn readConstraints readTable readEntry readIndex readAll
  listed)

lemma find?_document (members : List (String × Json)) (name : String) :
    Keyed.find? (members.map fun m => (Wide.ofString m.1, m.2.document)) (Wide.ofString name) =
      (Keyed.find? members name).map Json.document := by
  induction members with
  | nil => rfl
  | cons m ms ih =>
    rw [List.map_cons, Keyed.find?_cons, Keyed.find?_cons, Wide.same_ofString, ih]
    split <;> rfl

/-- A member is looked up as it was before writing. -/
lemma member_document {members : List (String × Json)} (name : String) {j : Json}
    (h : Keyed.find? members name = some j) :
    Snapshot.member name (Json.object members).document = .ok j.document := by
  rw [Json.document_object, Snapshot.member, Document.member?, find?_document, h]
  rfl

lemma listed_document (part : String) {α : Type} (f : α → Json) (xs : List α) :
    listed part (Json.array (xs.map f)).document = .ok (xs.map fun x => (f x).document) := by
  rw [Json.document_array, List.map_map]
  rfl

lemma readRow_rowToJson {row : Row} (h : row.Named) :
    readRow (rowToJson row).document = .ok row.snapshot := by
  rw [rowToJson, Json.document_object, readRow, Row.snapshot, List.map_map, List.map_map]
  refine congrArg Except.ok (List.map_congr_left fun c hc => ?_)
  obtain ⟨s, hs⟩ := h c hc
  obtain ⟨l, v⟩ := c
  obtain rfl : l = Label.name s := hs
  rfl

lemma readRows_records {rs : List Record} (h : ∀ r ∈ rs, r.row.Named) :
    readRows (Json.array (rs.map fun r => rowToJson r.row)).document =
      .ok (rs.map fun r => r.row.snapshot) := by
  rw [readRows, listed_document]
  exact mapM_map fun r hr => readRow_rowToJson (h r hr)

lemma readColumn_columnToJson (c : Column) :
    readColumn (columnToJson c).document = .ok c.snapshot := rfl

lemma readConstraints_constraints (c : Constraints) :
    readConstraints (Json.object
      [("primary_key", c.primaryKey), ("unique", .array c.unique)]).document =
        .ok (c.primaryKey.document, c.unique.map Json.document) := by
  have hlist := listed_document "unique columns" id c.unique
  rw [List.map_id] at hlist
  rw [Json.document_object, readConstraints]
  simp only [Snapshot.members, bind, Except.bind, find?_document]
  rw [show Keyed.find? [("primary_key", c.primaryKey), ("unique", Json.array c.unique)] "unique" =
      some (.array c.unique) from rfl,
    show Keyed.find? [("primary_key", c.primaryKey), ("unique", Json.array c.unique)]
      "primary_key" = some c.primaryKey from rfl, Option.map_some, Option.map_some]
  simp only [hlist]
  rfl

lemma readTable_tableToJson {t : Table} (h : ∀ r ∈ t.records, r.row.Named) :
    readTable (tableToJson t).document = .ok t.snapshot := by
  have hcolumns : (t.columns.map fun c => (columnToJson c).document).mapM readColumn =
      .ok (t.columns.map Column.snapshot) := mapM_map fun c _ => readColumn_columnToJson c
  have hrows : readRows (Json.array (t.rows.map rowToJson)).document =
      .ok (t.rows.map Row.snapshot) := by
    rw [Table.rows, List.map_map, List.map_map]
    exact readRows_records h
  unfold readTable tableToJson
  rw [member_document "constraints" rfl, member_document "columns" rfl,
    member_document "rows" rfl, member_document "next_id" rfl]
  simp only [bind, Except.bind, listed_document, hcolumns, readConstraints_constraints, hrows]
  rfl

lemma readEntry_entryToJson {e : Value × List Record} (h : ∀ r ∈ e.2, r.row.Named) :
    readEntry (entryToJson e).document =
      .ok (.ofValue e.1, e.2.map fun r => r.row.snapshot) := by
  have hrows := readRows_records h
  rw [entryToJson, Json.document_array]
  unfold readEntry
  simp only [Snapshot.readPair, List.map_cons, List.map_nil, listed, bind, Except.bind, pure,
    Except.pure, hrows]
  rfl

/-- Entries of different values are as different when they are read. -/
lemma distinct_entries {es : List (Value × List Record)}
    (h : es.Pairwise fun a b => a.1.sameKey b.1 = false) :
    Keyed.Distinct (Keyed.keys
      (es.map fun e => (Atom.ofValue e.1, e.2.map fun r => r.row.snapshot))) := by
  unfold Keyed.Distinct Keyed.keys
  rw [List.map_map, List.pairwise_map]
  exact h.imp fun hab => (Atom.same_ofValue _ _).trans hab

/-- An index is read as it was written, whatever the values of its cells. -/
lemma readIndex_indexToJson {i : Index}
    (hd : i.entries.Pairwise fun a b => a.1.sameKey b.1 = false)
    (hn : ∀ e ∈ i.entries, ∀ r ∈ e.2, r.row.Named) :
    readIndex (indexToJson i).document = .ok i.snapshot := by
  have hentries : (i.entries.map fun e => (entryToJson e).document).mapM readEntry =
      .ok (i.entries.map fun e => (Atom.ofValue e.1, e.2.map fun r => r.row.snapshot)) :=
    mapM_map fun e he => readEntry_entryToJson (hn e he)
  unfold readIndex indexToJson
  rw [member_document "name" rfl, member_document "table" rfl,
    member_document "column" rfl, member_document "entries" rfl]
  simp only [bind, Except.bind, listed_document, hentries,
    Keyed.ofList_of_distinct (distinct_entries hd)]
  rfl

lemma readAll_members {α β : Type} {read : Document → Snapshot.Result β} {f : α → Json} {g : α → β}
    {found : List (String × Json)} {name : String} {xs : List (String × α)}
    (hfound : Keyed.find? found name = some (.object (xs.map fun x => (x.1, f x.2))))
    (h : ∀ x ∈ xs, read (f x.2).document = .ok (g x.2)) :
    readAll read (found.map fun m => (Wide.ofString m.1, m.2.document)) name =
      .ok (xs.map fun x => (Wide.ofString x.1, g x.2)) := by
  rw [readAll, find?_document, hfound, Option.map_some, Json.document_object, List.map_map]
  refine mapM_map fun x hx => ?_
  simp only [Function.comp_apply, h x hx]
  rfl

/-- **What was written is read.** -/
theorem ofDocument_toJson {db : Database} (h : db.Storable) :
    Snapshot.ofDocument db.toJson.document = .ok db.snapshot := by
  unfold Snapshot.ofDocument toJson
  rw [Json.document_object]
  simp only [Snapshot.members, bind, Except.bind]
  rw [readAll_members (f := tableToJson) (g := Table.snapshot) rfl
      fun e he => readTable_tableToJson fun r hr => ((h.tables e he).rows r hr).named,
    readAll_members (f := indexToJson) (g := Index.snapshot) rfl
      fun e he => readIndex_indexToJson (h.indexes e he).distinct
        fun d hd r hr => ((h.indexes e he).rows d hd r hr).named]
  rfl

end Reading

/-! ### The database of the snapshot -/

section Made

lemma column?_snapshot (c : Column) : c.snapshot.column? = some c := by
  rw [Column.snapshot, Snapshot.Column.column?]
  simp only [Json.json?_document]
  rfl

lemma row?_snapshot (row : Row) : Snapshot.row? row.snapshot = some row := by
  have hrow : (row.map fun c => (Atom.ofValue c.1.value, Document.atom (.ofValue c.2))).mapM
      (fun c => do return ((⟨← c.1.value?⟩ : Label), ← Snapshot.value? c.2)) = some (row.map id) :=
    mapM_map fun c _ => by simp only [Snapshot.value?, Atom.value?_ofValue]; rfl
  rwa [List.map_id] at hrow

lemma rows?_snapshot (rs : List Record) :
    (rs.map fun r => r.row.snapshot).mapM Snapshot.row? = some (rs.map (·.row)) :=
  mapM_map fun r _ => row?_snapshot r.row

/-- A table is made with its rows numbered from `first`. -/
lemma table?_snapshot (first : Nat) (t : Table) :
    t.snapshot.table? first = some { t with records := Snapshot.number first t.rows } := by
  have hcolumns : (t.columns.map Column.snapshot).mapM Snapshot.Column.column? =
      some (t.columns.map id) := mapM_map fun c _ => column?_snapshot c
  have hunique : (t.constraints.unique.map Json.document).mapM Document.json? =
      some (t.constraints.unique.map id) := mapM_map fun j _ => Json.json?_document j
  have hrows : (t.rows.map Row.snapshot).mapM Snapshot.row? = some t.rows := by
    have h := rows?_snapshot t.records
    rwa [Table.rows, List.map_map]
  rw [List.map_id] at hcolumns hunique
  rw [Table.snapshot, Snapshot.Table.table?]
  simp only [hcolumns, hunique, hrows, Json.json?_document]
  rfl

lemma content_number (first : Nat) (rows : List Row) :
    (Snapshot.number first rows).map Record.content = rows.map fun row => ⟨0, row⟩ := by
  unfold Snapshot.number
  induction rows generalizing first with
  | nil => rfl
  | cons row rows ih => rw [List.zipIdx_cons, List.map_cons, List.map_cons, ih]; rfl

lemma tables?_snapshot (first : Nat) (tables : List (String × Table)) :
    ∃ ts last,
      Snapshot.tables? first (tables.map fun e => (Wide.ofString e.1, e.2.snapshot)) =
        some (ts, last) ∧
      Keyed.mapValues Table.content ts = Keyed.mapValues Table.content tables := by
  induction tables generalizing first with
  | nil => exact ⟨[], first, rfl, rfl⟩
  | cons e es ih =>
    obtain ⟨ts, last, hts, hcontent⟩ := ih (first + (Snapshot.number first e.2.rows).length)
    refine ⟨(e.1, { e.2 with records := Snapshot.number first e.2.rows }) :: ts, last, ?_, ?_⟩
    · rw [List.map_cons, Snapshot.tables?, table?_snapshot]
      simp only [Option.bind_eq_bind, Option.bind_some, hts, Wide.string?_ofString]
      rfl
    · have hrecords : (Snapshot.number first e.2.rows).map Record.content =
          e.2.records.map Record.content := by
        rw [content_number, Table.rows, List.map_map]
        rfl
      change (e.1, Table.content _) :: Keyed.mapValues Table.content ts = _
      rw [hcontent, Table.content, hrecords]
      rfl

lemma content_numberEntries (first : Nat) (es : List (Value × List Record)) :
    (Snapshot.numberEntries first (es.map fun e => (e.1, e.2.map (·.row)))).1.map
      (fun e => (e.1, e.2.map Record.content)) = es.map fun e => (e.1, e.2.map Record.content) := by
  induction es generalizing first with
  | nil => rfl
  | cons e es ih =>
    rw [List.map_cons, Snapshot.numberEntries]
    simp only [List.map_cons, ih, content_number, List.map_map]
    rfl

lemma index?_snapshot (first : Nat) (i : Index) :
    ∃ j last, i.snapshot.index? first = some (j, last) ∧ j.content = i.content := by
  have hentries : (i.entries.map fun e => (Atom.ofValue e.1, e.2.map fun r => r.row.snapshot)).mapM
      Snapshot.entry? = some (i.entries.map fun e => (e.1, e.2.map (·.row))) :=
    mapM_map fun e _ => by
      simp only [Snapshot.entry?, Atom.value?_ofValue, rows?_snapshot]
      rfl
  have hcontent := content_numberEntries first i.entries
  rw [Index.snapshot, Snapshot.Index.index?]
  simp only [hentries, Option.bind_eq_bind, Option.bind_some, Json.json?_document]
  refine ⟨_, _, rfl, ?_⟩
  rw [Index.content, hcontent]
  rfl

lemma indexes?_snapshot (first : Nat) (indexes : List (String × Index)) :
    ∃ is last,
      Snapshot.indexes? first (indexes.map fun e => (Wide.ofString e.1, e.2.snapshot)) =
        some (is, last) ∧
      Keyed.mapValues Index.content is = Keyed.mapValues Index.content indexes := by
  induction indexes generalizing first with
  | nil => exact ⟨[], first, rfl, rfl⟩
  | cons e es ih =>
    obtain ⟨i, next, hi, hcontent⟩ := index?_snapshot first e.2
    obtain ⟨is, last, his, hcontents⟩ := ih next
    refine ⟨(e.1, i) :: is, last, ?_, ?_⟩
    · rw [List.map_cons, Snapshot.indexes?, hi]
      simp only [Option.bind_eq_bind, Option.bind_some, his, Wide.string?_ofString]
      rfl
    · change (e.1, i.content) :: Keyed.mapValues Index.content is = _
      rw [hcontents, hcontent]
      rfl

lemma database?_snapshot (db : Database) :
    ∃ db', db.snapshot.database? = some db' ∧ db'.content = db.content := by
  obtain ⟨tables, next, htables, hcontent⟩ := tables?_snapshot 0 db.tables
  obtain ⟨indexes, last, hindexes, hcontents⟩ := indexes?_snapshot next db.indexes
  refine ⟨⟨tables, indexes, last⟩, ?_, ?_⟩
  · rw [Database.snapshot, Snapshot.database?]
    simp only [htables, hindexes, Option.bind_eq_bind, Option.bind_some]
    rfl
  · rw [content, hcontent, hcontents]
    rfl

/-- An index that is written and read again has the same content. -/
lemma copyIndex?_content {i : Index}
    (hd : i.entries.Pairwise fun a b => a.1.sameKey b.1 = false)
    (hn : ∀ e ∈ i.entries, ∀ r ∈ e.2, r.row.Named) (first : Nat) :
    ∃ j, copyIndex? first i = some j ∧ j.content = i.content := by
  obtain ⟨j, last, hj, hcontent⟩ := index?_snapshot first i
  refine ⟨j, ?_, hcontent⟩
  rw [copyIndex?, readIndex_indexToJson hd hn]
  simp only [Except.toOption, Option.bind_eq_bind, Option.bind_some, hj]
  rfl

end Made

/-! ### Identities do not matter -/

lemma toJson_content (db : Database) : db.content.toJson = db.toJson := by
  have ht : ∀ t : Table, tableToJson t.content = tableToJson t := by
    intro t
    unfold tableToJson
    rw [t.rows_content]
    rfl
  have hi : ∀ i : Index, indexToJson i.content = indexToJson i := by
    intro i
    simp [indexToJson, Index.content, entryToJson, Function.comp_def]
  simp only [toJson, content, Keyed.mapValues, List.map_map, Function.comp_def, ht, hi]

lemma toJson_congr {a b : Database} (h : a.content = b.content) : a.toJson = b.toJson := by
  rw [← toJson_content a, h, toJson_content b]

end Database

end Tabula
