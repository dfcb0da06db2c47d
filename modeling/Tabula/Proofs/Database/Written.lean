import Tabula.Proofs.Database.Kept
import Tabula.Proofs.SnapshotFile
import Tabula.Proofs.Value.Typed

/-!
What has been written can be read.

A counter may have come so far that it cannot be written; then no snapshot is written. But where a
snapshot of plain values has been written, every whole number in it could be, and nothing else is in
the way of reading it.
-/

namespace Tabula

namespace Json

lemma isWritable_scalar {v : Value} :
    (scalar v).isWritable = true ↔ ∀ n, v = .int n → Writable n := by
  cases v <;> simp [isWritable, scalars]

lemma isWritable_array {items : List Json} :
    (array items).isWritable = true ↔ ∀ x ∈ items, x.isWritable = true := by
  induction items with
  | nil => simp [isWritable, scalars, scalars.ofItems]
  | cons x xs ih =>
    have hcons : (array (x :: xs)).isWritable = (x.isWritable && (array xs).isWritable) := by
      simp [isWritable, scalars, scalars.ofItems]
    rw [hcons, Bool.and_eq_true, ih, List.forall_mem_cons]

lemma isWritable_object {ms : List (String × Json)} :
    (object ms).isWritable = true ↔ ∀ m ∈ ms, m.2.isWritable = true := by
  induction ms with
  | nil => simp [isWritable, scalars, scalars.ofMembers]
  | cons m ms ih =>
    have hcons : (object (m :: ms)).isWritable = (m.2.isWritable && (object ms).isWritable) := by
      simp [isWritable, scalars, scalars.ofMembers]
    rw [hcons, Bool.and_eq_true, ih, List.forall_mem_cons]

end Json

lemma Value.storable_of_isWritable {v : Value} (h : v.Plain)
    (hw : (Json.scalar v).isWritable = true) : v.Storable := by
  rw [Json.isWritable_scalar] at hw
  cases v with
  | null | bool _ | text _ => trivial
  | int n => exact hw n rfl
  | real x =>
    cases x with
    | finite _ _ | infinite _ => trivial
    | nan _ => exact h

namespace Database

lemma formed_of_rowToJson {row : Row} (h : Row.Formed Value.Plain row)
    (hw : (rowToJson row).isWritable = true) : Row.Formed Value.Storable row := by
  rw [rowToJson, Json.isWritable_object, List.forall_mem_map] at hw
  exact ⟨h.named, h.distinct, fun c hc => Value.storable_of_isWritable (h.cells c hc) (hw c hc)⟩

lemma storable_of_tableToJson {t : Table} (h : t.Formed Value.Plain)
    (hw : (tableToJson t).isWritable = true) : t.Formed Value.Storable ∧ Writable t.counter := by
  rw [tableToJson, Json.isWritable_object] at hw
  simp only [List.forall_mem_cons, Json.isWritable_array, Table.rows, List.map_map,
    List.forall_mem_map, Function.comp_apply] at hw
  obtain ⟨-, -, hrows, hcounter, -⟩ := hw
  exact ⟨⟨h.columns, h.primaryKey, h.unique,
    fun r hr => formed_of_rowToJson (h.rows r hr) (hrows r hr)⟩,
    Json.isWritable_scalar.1 hcounter t.counter rfl⟩

lemma formed_of_indexToJson {i : Index} (h : i.Formed Value.Plain)
    (hw : (indexToJson i).isWritable = true) : i.Formed Value.Storable := by
  rw [indexToJson, Json.isWritable_object] at hw
  simp only [List.forall_mem_cons, Json.isWritable_array, List.forall_mem_map, entryToJson] at hw
  obtain ⟨-, -, -, hentries, -⟩ := hw
  exact ⟨h.name, h.table, h.column,
    fun e he => Value.storable_of_isWritable (h.keys e he) (hentries e he).1, h.distinct,
    fun e he r hr => formed_of_rowToJson (h.rows e he r hr) ((hentries e he).2.1 r hr)⟩

/-- **A database whose snapshot has been written can be stored.** -/
theorem storable_of_isWritable {db : Database} (h : db.Formed Value.Plain)
    (hw : db.toJson.isWritable = true) : db.Storable := by
  rw [toJson, Json.isWritable_object] at hw
  simp only [List.forall_mem_cons, Json.isWritable_object, List.forall_mem_map] at hw
  obtain ⟨htables, hindexes, -⟩ := hw
  exact storable_iff.2 ⟨⟨h.tableNames, h.indexKeys,
    fun e he => (storable_of_tableToJson (h.tables e he) (htables e he)).1,
    fun e he => formed_of_indexToJson (h.indexes e he) (hindexes e he)⟩,
    fun e he => (storable_of_tableToJson (h.tables e he) (htables e he)).2⟩

end Database

/-- A file that has been written holds a database that can be stored. -/
lemma SnapshotFile.holds_of_write {f : SnapshotFile} {files after : Files} {db : Database}
    (hw : f.write files db = .ok after) (h : db.Formed Value.Plain) :
    f.Holds after db ∧ db.Storable := by
  unfold write at hw
  split at hw
  · cases hw
  · obtain ⟨text, htext, hafter⟩ := bind_eq_ok.1 hw
    cases hafter
    rw [mapError_eq_ok] at htext
    refine ⟨⟨text, htext, bytes?_write _ _ _⟩, Database.storable_of_isWritable h ?_⟩
    unfold Json.write at htext
    split at htext
    · assumption
    · cases htext

end Tabula
