import Mathlib.Data.List.Induction
import Tabula.Proofs.Index
import Tabula.Proofs.Value.Equal

/-!
An index that is built of the records of a table answers like the table.

It finds the records whose cell is the same key, in the order of the table; its values are the cells
that are different keys, as they first came; and it has as many records as the table. All this is
kept when a record is added to both.
-/

namespace Tabula

lemma Value.sameKey_congr {v w : Value} (h : v.sameKey w = true) (u : Value) :
    v.sameKey u = w.sameKey u := by
  rw [sameKey, beq_iff_eq] at h
  rw [sameKey, sameKey, h]

/-- Of a list with a new last item, the item comes last unless it is a double of another. -/
lemma eraseDupsBy_concat {α : Type} (same : α → α → Bool) (as : List α) (a : α) :
    (as ++ [a]).eraseDupsBy same =
      if (as.eraseDupsBy same).any (same a) then as.eraseDupsBy same
      else as.eraseDupsBy same ++ [a] := by
  have hloop : ∀ found, List.eraseDupsBy.loop same (as ++ [a]) found =
      if (List.eraseDupsBy.loop same as found).any (same a) then
        List.eraseDupsBy.loop same as found
      else List.eraseDupsBy.loop same as found ++ [a] := by
    induction as with
    | nil =>
      intro found
      by_cases h : found.any (same a) = true <;> simp [List.eraseDupsBy.loop, h]
    | cons b as ih =>
      intro found
      by_cases h : found.any (same b) = true <;> simp [List.eraseDupsBy.loop, h, ih]
  exact hloop []

lemma eraseDupsBy_congr {α : Type} {same equal : α → α → Bool} {as : List α}
    (h : ∀ a ∈ as, ∀ b, same a b = equal a b) : as.eraseDupsBy same = as.eraseDupsBy equal := by
  have hloop : ∀ found, List.eraseDupsBy.loop same as found =
      List.eraseDupsBy.loop equal as found := by
    induction as with
    | nil => exact fun _ => rfl
    | cons a as ih =>
      intro found
      obtain ⟨ha, has⟩ := List.forall_mem_cons.1 h
      rw [List.eraseDupsBy.loop, List.eraseDupsBy.loop, funext ha, ih has, ih has]
  exact hloop []

namespace Index

section Adding

variable (i : Index) (l : Label) (r : Record)

lemma search_addUnder (v : Value) :
    (i.addUnder l r).search v =
      i.search v ++ if (Row.at r.row l).sameKey v then [r] else [] := by
  change ((((addEntry _ r i.entries).find? _).map _).getD []) = _
  rw [search]
  induction i.entries with
  | nil => by_cases h : (Row.at r.row l).sameKey v = true <;> simp [addEntry, h]
  | cons e es ih =>
    rw [addEntry]
    by_cases he : e.1.sameKey (Row.at r.row l) = true
    · have hsame := Value.sameKey_congr he v
      by_cases h : (Row.at r.row l).sameKey v = true <;> simp [he, hsame, h]
    · rw [if_neg he]
      by_cases hv : e.1.sameKey v = true
      · have hnot : ¬ (Row.at r.row l).sameKey v = true := by
          intro h
          rw [Value.sameKey_symm, Value.sameKey_congr h, Value.sameKey_symm] at he
          exact he hv
        simp [hv, hnot]
      · simpa [hv] using ih

lemma values_addUnder :
    (i.addUnder l r).values =
      if i.values.any ((Row.at r.row l).sameKey ·) then i.values
      else i.values ++ [Row.at r.row l] := by
  simp only [Value.sameKey_symm (Row.at r.row l)]
  exact keys_addEntry (Row.at r.row l) r i.entries

lemma size_addUnder : (i.addUnder l r).size = i.size + 1 := by
  change (addEntry _ r i.entries).foldr _ _ = i.entries.foldr (fun e n => e.2.length + n) 0 + 1
  induction i.entries with
  | nil => rfl
  | cons e es ih =>
    rw [addEntry]
    split
    · simp only [List.foldr_cons, List.length_append, List.length_singleton]
      omega
    · simp only [List.foldr_cons, ih]
      omega

end Adding

section Building

variable (name table column : String) (rs : List Record)

lemma build_concat (r : Record) :
    build name table column (rs ++ [r]) =
      (build name table column rs).addUnder (.name column) r := by
  simp [build]

/-- **What is found are the records with the same key**, in order. -/
theorem search_build (v : Value) :
    (build name table column rs).search v =
      rs.filter fun r => (Row.cell r.row column).sameKey v := by
  induction rs using List.reverseRecOn with
  | nil => rfl
  | append_singleton rs r ih =>
    rw [build_concat, search_addUnder, ih, List.filter_append, List.filter_cons, List.filter_nil]
    rfl

/-- **The values are the cells that are different keys**, as they first came. -/
theorem values_build :
    (build name table column rs).values =
      (rs.map fun r => Row.cell r.row column).eraseDupsBy Value.sameKey := by
  induction rs using List.reverseRecOn with
  | nil => rfl
  | append_singleton rs r ih =>
    rw [build_concat, values_addUnder, ih, List.map_append, List.map_singleton,
      eraseDupsBy_concat]
    rfl

/-- **Every record is counted.** -/
theorem size_build : (build name table column rs).size = rs.length := by
  induction rs using List.reverseRecOn with
  | nil => rfl
  | append_singleton rs r ih =>
    rw [build_concat, size_addUnder, ih, List.length_append, List.length_singleton]

end Building

/-! ### Without identities -/

section Content

variable (i : Index)

lemma content_addUnder (l : Label) (r : Record) :
    (i.addUnder l r).content = i.content.addUnder l r.content :=
  mapRecords_addUnder rfl l

lemma content_build (name table column : String) (rs : List Record) :
    (build name table column rs).content =
      build name table column (rs.map Record.content) := by
  induction rs using List.reverseRecOn with
  | nil => rfl
  | append_singleton rs r ih =>
    rw [build_concat, content_addUnder, ih, List.map_append, List.map_singleton, build_concat]

lemma search_content (v : Value) : i.content.search v = (i.search v).map Record.content := by
  have hfind : i.content.entries.find? (fun e => e.1.sameKey v) =
      (i.entries.find? fun e => e.1.sameKey v).map fun e => (e.1, e.2.map Record.content) :=
    List.find?_map
  rw [search, search, hfind]
  cases i.entries.find? fun e => e.1.sameKey v <;> rfl

lemma values_content : i.content.values = i.values := by
  simp [values, content, Function.comp_def]

lemma size_content : i.content.size = i.size := by
  simp [size, content, List.foldr_map]

end Content

end Index

end Tabula
