import Mathlib.Data.List.Perm.Basic
import Tabula.Proofs.Index.Lookup

/-!
What is filed in an index.

An index files the identity of every record under a key. Records that take new rows stay where they
were filed, so two indexes may have the same filed in them and yet show different rows. In an index
that was built, every record is filed once, under a key that is the same as its cell.
-/

namespace Tabula.Index

/-- The keys of an index, and the identities of the records under each. -/
def filing (i : Index) : List (Value × List Nat) := i.entries.map fun e => (e.1, e.2.map (·.id))

variable {i j : Index}

lemma ids_records (i : Index) : i.records.map (·.id) = i.filing.flatMap (·.2) := by
  rw [records, List.map_flatMap, filing, List.flatMap_map]

lemma size_eq_filing (i : Index) : i.size = (i.filing.map (·.2.length)).sum := by
  rw [size, filing]
  induction i.entries with
  | nil => rfl
  | cons e es ih => simp [ih]

lemma mem_filing {v : Value} {ids : List Nat} (h : (v, ids) ∈ i.filing) :
    ∃ e ∈ i.entries, e.1 = v ∧ e.2.map (·.id) = ids := by
  obtain ⟨e, he, heq⟩ := List.mem_map.1 h
  exact ⟨e, he, congrArg Prod.fst heq, congrArg Prod.snd heq⟩

/-- Where a record is filed depends on what is filed already, and on nothing else. -/
lemma filing_addUnder (h : i.filing = j.filing) (l : Label) (r : Record) :
    (i.addUnder l r).filing = (j.addUnder l r).filing := by
  change (addEntry _ _ _).map _ = (addEntry _ _ _).map _
  have hes : i.entries.map (fun e => (e.1, e.2.map (·.id))) =
      j.entries.map fun e => (e.1, e.2.map (·.id)) := h
  generalize i.entries = es at hes ⊢
  generalize j.entries = ds at hes ⊢
  induction es generalizing ds with
  | nil =>
    rw [List.map_nil, eq_comm, List.map_eq_nil_iff] at hes
    rw [hes]
  | cons e es ih =>
    cases ds with
    | nil => cases hes
    | cons d ds =>
      obtain ⟨hed, hrest⟩ := List.cons_eq_cons.1 hes
      obtain ⟨hkey, hids⟩ := Prod.mk.inj hed
      rw [addEntry, addEntry, hkey]
      split
      · simp [hids, hrest]
      · exact List.cons_eq_cons.2 ⟨hed, ih ds hrest⟩

lemma filing_refresh (i : Index) (changed : List Record) :
    (i.refresh changed).filing = i.filing := by
  have hid : (fun r => (current changed r).id) = Record.id := funext (id_current changed)
  simp [filing, refresh_eq, Function.comp_def, hid]

/-! ### Indexes that were built -/

lemma records_addUnder_perm (i : Index) (l : Label) (r : Record) :
    (i.addUnder l r).records.Perm (i.records ++ [r]) := by
  change ((addEntry _ r i.entries).flatMap (·.2)).Perm (i.entries.flatMap (·.2) ++ [r])
  induction i.entries with
  | nil => simp [addEntry]
  | cons e es ih =>
    rw [addEntry]
    split
    · rw [List.flatMap_cons, List.flatMap_cons, List.append_assoc, List.append_assoc]
      exact List.perm_append_comm.append_left _
    · rw [List.flatMap_cons, List.flatMap_cons, List.append_assoc]
      exact ih.append_left _

section Building

variable {name table column : String} {rs : List Record}

/-- **Every record is filed once.** -/
theorem records_build_perm (name table column : String) (rs : List Record) :
    (build name table column rs).records.Perm rs := by
  induction rs using List.reverseRecOn with
  | nil => exact .nil
  | append_singleton rs r ih =>
    rw [build_concat]
    exact (records_addUnder_perm _ _ r).trans (ih.append_right [r])

lemma sameKey_addEntry {l : Label} {r : Record} {es : List (Value × List Record)}
    (h : ∀ e ∈ es, ∀ q ∈ e.2, e.1.sameKey (Row.at q.row l) = true) :
    ∀ e ∈ addEntry (Row.at r.row l) r es, ∀ q ∈ e.2, e.1.sameKey (Row.at q.row l) = true := by
  induction es with
  | nil => simp [addEntry, Value.sameKey]
  | cons d es ih =>
    obtain ⟨hd, hes⟩ := List.forall_mem_cons.1 h
    rw [addEntry]
    split
    · rename_i hkey
      refine List.forall_mem_cons.2 ⟨fun q hq => ?_, hes⟩
      rcases List.mem_append.1 hq with hq | hq
      · exact hd q hq
      · rwa [List.mem_singleton.1 hq]
    · exact List.forall_mem_cons.2 ⟨hd, ih hes⟩

/-- **Every record is filed under a key that is the same as its cell.** -/
theorem sameKey_build : ∀ e ∈ (build name table column rs).entries, ∀ q ∈ e.2,
    e.1.sameKey (Row.cell q.row column) = true :=
  build_induction (P := fun i => ∀ e ∈ i.entries, ∀ q ∈ e.2,
    e.1.sameKey (Row.cell q.row column) = true) (by simp [empty]) fun _ hi _ _ => sameKey_addEntry hi

/-- Where the same is filed as in an index that was built, a record is filed under the cell that it
was filed with. -/
lemma exists_filed (h : i.filing = (build name table column rs).filing)
    {e : Value × List Record} (he : e ∈ i.entries) {r : Record} (hr : r ∈ e.2) :
    ∃ q ∈ rs, q.id = r.id ∧ e.1.sameKey (Row.cell q.row column) = true := by
  have hmem : (e.1, e.2.map (·.id)) ∈ (build name table column rs).filing :=
    h ▸ List.mem_map_of_mem he
  obtain ⟨d, hd, hkey, hids⟩ := mem_filing hmem
  have hid : r.id ∈ d.2.map (·.id) := hids ▸ List.mem_map_of_mem hr
  obtain ⟨q, hq, hqr⟩ := List.mem_map.1 hid
  exact ⟨q, mem_records_build (mem_records.2 ⟨d, hd, hq⟩), hqr, hkey ▸ sameKey_build d hd q hq⟩

lemma ids_perm_of_filing (h : i.filing = (build name table column rs).filing) :
    (i.records.map (·.id)).Perm (rs.map (·.id)) := by
  rw [ids_records, h, ← ids_records]
  exact (records_build_perm name table column rs).map _

lemma size_of_filing (h : i.filing = (build name table column rs).filing) : i.size = rs.length := by
  rw [size_eq_filing, h, ← size_eq_filing, size_build]

end Building

end Tabula.Index
