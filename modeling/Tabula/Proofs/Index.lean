import Tabula.Database.Execute
import Tabula.Proofs.Database.Stored

/-!
The records of an index, and what adding, building and refreshing make of them.
-/

namespace Tabula.Index

/-- All records, entry by entry. -/
def records (i : Index) : List Record := i.entries.flatMap (·.2)

lemma mem_records {i : Index} {r : Record} : r ∈ i.records ↔ ∃ e ∈ i.entries, r ∈ e.2 := by
  simp [records]

section Adding

variable {v : Value} {r : Record} {es : List (Value × List Record)}

/-- An entry after adding is an old one, or one that the record was added to. -/
lemma mem_addEntry {e : Value × List Record} (h : e ∈ addEntry v r es) :
    e ∈ es ∨ e = (v, [r]) ∨ ∃ d ∈ es, e = (d.1, d.2 ++ [r]) := by
  induction es with
  | nil => exact .inr (.inl (by simpa [addEntry] using h))
  | cons d es ih =>
    rw [addEntry] at h
    split at h
    · rcases List.mem_cons.1 h with rfl | h
      · exact .inr (.inr ⟨d, List.mem_cons_self, rfl⟩)
      · exact .inl (List.mem_cons_of_mem _ h)
    · rcases List.mem_cons.1 h with rfl | h
      · exact .inl List.mem_cons_self
      · rcases ih h with h | h | ⟨b, hb, h⟩
        · exact .inl (List.mem_cons_of_mem _ h)
        · exact .inr (.inl h)
        · exact .inr (.inr ⟨b, List.mem_cons_of_mem _ hb, h⟩)

/-- The keys after adding are the old ones, and perhaps the new one. -/
lemma keys_addEntry (v : Value) (r : Record) (es : List (Value × List Record)) :
    (addEntry v r es).map (·.1) =
      if (es.map (·.1)).any (·.sameKey v) then es.map (·.1) else es.map (·.1) ++ [v] := by
  induction es with
  | nil => rfl
  | cons d es ih =>
    rw [addEntry]
    by_cases h : d.1.sameKey v = true
    · simp [h]
    · rw [if_neg h, List.map_cons, List.map_cons, List.any_cons, ih]
      rw [Bool.not_eq_true] at h
      rw [h, Bool.false_or]
      split <;> rfl

lemma distinct_addEntry (h : es.Pairwise fun a b => a.1.sameKey b.1 = false) :
    (addEntry v r es).Pairwise fun a b => a.1.sameKey b.1 = false := by
  rw [← List.pairwise_map (f := Prod.fst) (R := fun a b : Value => a.sameKey b = false)] at h ⊢
  rw [keys_addEntry]
  split
  · exact h
  · rename_i hnew
    refine List.pairwise_append.2 ⟨h, List.pairwise_singleton _ _, fun w hw u hu => ?_⟩
    rw [List.mem_singleton] at hu
    subst hu
    rw [← Bool.not_eq_true]
    exact fun hs => hnew (List.any_eq_true.2 ⟨w, hw, hs⟩)

lemma mem_records_addUnder {l : Label} {i : Index} {q : Record} (h : q ∈ (i.addUnder l r).records) :
    q = r ∨ q ∈ i.records := by
  obtain ⟨e, he, hq⟩ := mem_records.1 h
  rcases mem_addEntry he with he | rfl | ⟨d, hd, rfl⟩
  · exact .inr (mem_records.2 ⟨e, he, hq⟩)
  · exact .inl (List.mem_singleton.1 hq)
  · rcases List.mem_append.1 hq with hq | hq
    · exact .inr (mem_records.2 ⟨d, hd, hq⟩)
    · exact .inl (List.mem_singleton.1 hq)

end Adding

/-- What adding keeps, building keeps. -/
lemma build_induction {P : Index → Prop} {name table column : String} {rs : List Record}
    (h : P (empty name table column))
    (ha : ∀ i, P i → ∀ r ∈ rs, P (i.addUnder (.name column) r)) :
    P (build name table column rs) := by
  have hfold : ∀ i, P i → P (rs.foldl (addUnder (.name column)) i) := by
    induction rs with
    | nil => exact fun i hi => hi
    | cons r rs ih =>
      intro i hi
      exact ih (fun j hj q hq => ha j hj q (List.mem_cons_of_mem _ hq)) _
        (ha i hi r List.mem_cons_self)
  exact hfold _ h

lemma mem_records_build {name table column : String} {rs : List Record} {q : Record}
    (h : q ∈ (build name table column rs).records) : q ∈ rs := by
  have hall : ∀ x ∈ (build name table column rs).records, x ∈ rs := by
    refine build_induction (P := fun i => ∀ x ∈ i.records, x ∈ rs) (by simp [records, empty]) ?_
    intro i hi r hr x hx
    rcases mem_records_addUnder hx with rfl | hx
    · exact hr
    · exact hi x hx
  exact hall q h

/-! ### Records in their places -/

/-- The index with what a function makes of its records. -/
def mapRecords (f : Record → Record) (i : Index) : Index :=
  { i with entries := i.entries.map fun e => (e.1, e.2.map f) }

section Maps

variable {f g : Record → Record} {r : Record} {i : Index}

lemma mapRecords_congr (h : ∀ q ∈ i.records, f q = g q) : i.mapRecords f = i.mapRecords g := by
  have hentries : ∀ e ∈ i.entries, (e.1, e.2.map f) = (e.1, e.2.map g) := fun e he =>
    congrArg (Prod.mk e.1) (List.map_congr_left fun q hq => h q (mem_records.2 ⟨e, he, hq⟩))
  rw [mapRecords, mapRecords, List.map_congr_left hentries]

lemma mapRecords_eq_self (h : ∀ q ∈ i.records, f q = q) : i.mapRecords f = i := by
  rw [mapRecords_congr (g := id) h]
  simp [mapRecords]

lemma mapRecords_mapRecords (f g : Record → Record) (i : Index) :
    (i.mapRecords f).mapRecords g = i.mapRecords (g ∘ f) := by
  simp [mapRecords, Function.comp_def]

/-- A record is added under the same value, whatever becomes of its identity. -/
lemma mapRecords_addUnder (hf : (f r).row = r.row) (l : Label) :
    (i.addUnder l r).mapRecords f = (i.mapRecords f).addUnder l (f r) := by
  have hentries : ∀ v es, (addEntry v r es).map (fun e => (e.1, e.2.map f)) =
      addEntry v (f r) (es.map fun e => (e.1, e.2.map f)) := by
    intro v es
    induction es with
    | nil => rfl
    | cons e es ih =>
      rw [addEntry, List.map_cons, addEntry]
      split
      · simp
      · rw [List.map_cons, ih]
  rw [mapRecords, addUnder, hentries, ← hf]
  rfl

end Maps

/-! ### Records that take new rows -/

/-- The record as it is among changed ones, if it is there. -/
def current (changed : List Record) (r : Record) : Record :=
  (changed.find? (·.id == r.id)).getD r

lemma refresh_eq (i : Index) (changed : List Record) :
    i.refresh changed =
      { i with entries := i.entries.map fun e => (e.1, e.2.map (current changed)) } :=
  rfl

lemma id_current (changed : List Record) (r : Record) : (current changed r).id = r.id := by
  unfold current
  cases h : changed.find? (·.id == r.id) with
  | none => rfl
  | some q => simpa using List.find?_some h

lemma current_mem_or_eq (changed : List Record) (r : Record) :
    current changed r ∈ changed ∨ current changed r = r := by
  unfold current
  cases h : changed.find? (·.id == r.id) with
  | none => exact .inr rfl
  | some q => exact .inl (List.mem_of_find?_eq_some h)

lemma mem_records_refresh {i : Index} {changed : List Record} {q : Record} :
    q ∈ (i.refresh changed).records ↔ ∃ r ∈ i.records, current changed r = q := by
  simp only [records, refresh_eq, List.flatMap_map, List.mem_flatMap, List.mem_map]
  constructor
  · rintro ⟨e, he, r, hr, rfl⟩
    exact ⟨r, ⟨e, he, hr⟩, rfl⟩
  · rintro ⟨r, ⟨e, he, hr⟩, rfl⟩
    exact ⟨e, he, r, hr, rfl⟩

lemma refresh_eq_self {i : Index} {changed : List Record}
    (h : ∀ q ∈ i.records, current changed q = q) : i.refresh changed = i :=
  mapRecords_eq_self h

/-! ### A new record of a table -/

/-- The index after a record was added to a table, if it is an index of the table. -/
def note (name : String) (r : Record) (i : Index) : Index :=
  if i.table.text? = some name then
    match i.add r with
    | .ok j => j
    | .error _ => i
  else i

/-- An index stays as it is, or the record is added under a label. -/
lemma note_cases (name : String) (r : Record) (i : Index) :
    i.note name r = i ∨ ∃ l, i.note name r = i.addUnder l r := by
  unfold note add
  split
  · cases i.column.label with
    | error fault => exact .inl rfl
    | ok l => exact .inr ⟨l, rfl⟩
  · exact .inl rfl

section Notes

variable {f : Record → Record} {name other : String} {r q : Record} {i : Index}

lemma mapRecords_note (hf : (f r).row = r.row) :
    (i.note name r).mapRecords f = (i.mapRecords f).note name (f r) := by
  unfold note
  change mapRecords f (if i.table.text? = some name then _ else i) =
    if i.table.text? = some name then _ else i.mapRecords f
  split
  · unfold add
    change _ = match Except.map _ i.column.label with
      | .ok j => j
      | .error _ => i.mapRecords f
    cases i.column.label with
    | error fault => rfl
    | ok l => exact mapRecords_addUnder hf l
  · rfl

lemma note_of_ne (h : i.table.text? ≠ some name) : i.note name r = i := by
  rw [note, if_neg h]

lemma table_note : (i.note name r).table = i.table := by
  rcases note_cases name r i with h | ⟨l, h⟩ <;> rw [h]
  rfl

lemma column_note : (i.note name r).column = i.column := by
  rcases note_cases name r i with h | ⟨l, h⟩ <;> rw [h]
  rfl

/-- No index belongs to two tables. -/
lemma note_comm (hne : name ≠ other) :
    (i.note name r).note other q = (i.note other q).note name r := by
  by_cases h : i.table.text? = some name
  · have hother : i.table.text? ≠ some other := by
      rw [h]
      simpa using hne
    have hnoted : (i.note name r).table.text? ≠ some other := by rwa [table_note]
    rw [note_of_ne hother, note_of_ne hnoted]
  · have hnoted : (i.note other q).table.text? ≠ some name := by rwa [table_note]
    rw [note_of_ne h, note_of_ne hnoted]

end Notes

end Tabula.Index

namespace Tabula.Database

/-- Where the columns of all indexes are names, a new record is added to all that it belongs to. -/
lemma addToIndexes_eq {name : String} {r : Record} {is : List (String × Index)}
    (h : ∀ e ∈ is, e.2.column.IsText) :
    addToIndexes name r is = (Keyed.mapValues (Index.note name r) is, .ok ()) := by
  induction is with
  | nil => rfl
  | cons e es ih =>
    obtain ⟨key, i⟩ := e
    have hes := ih fun d hd => h d (List.mem_cons_of_mem _ hd)
    obtain ⟨s, hs⟩ := h (key, i) List.mem_cons_self
    have hadd : i.add r = .ok (i.addUnder (.name s) r) := by
      rw [Index.add, hs]
      rfl
    change _ = ((key, i.note name r) :: Keyed.mapValues (Index.note name r) es, Except.ok ())
    rw [addToIndexes, hadd, hes, Index.note, hadd]
    split <;> rfl

end Tabula.Database
