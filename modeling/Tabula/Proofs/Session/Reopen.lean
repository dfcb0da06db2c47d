import Tabula.Proofs.Json.Ascii
import Tabula.Proofs.SnapshotFile

/-!
A database that is saved and opened again.

Not only a database that statements have made comes back from its file, but every database that can
be stored: with its tables, indexes, rows and cells in their order and of their kinds, and with its
constraints and counters.
-/

namespace Tabula.SnapshotFile

variable {f : SnapshotFile} {files : Files} {db : Database}

/-- Nothing is in the way of the draft, nor of the directory once the file has been written. -/
structure Saves (f : SnapshotFile) (files : Files) : Prop where
  draft : Files.fault? f.directory f.draftName = none
  directory : ∀ bytes, (files.write f.path bytes).directoryFault? f.directory = none

lemma Available.saves (h : f.Available files) : f.Saves files := ⟨h.draft, h.directory_written⟩

/-- **What is saved comes back.** A database that can be stored is written, in ASCII, and a session
that is started on the file has the same snapshot. -/
theorem start_written (hf : f.Saves files) (h : db.Storable) :
    ∃ text saved s,
      db.toJson.write = .ok text ∧ (∀ c ∈ text.toList, c.toNat < 0x80) ∧
      f.write files db = .ok saved ∧ saved = files.write f.path text.toUTF8 ∧
      (Session.start (some f) saved).2 = .ok s ∧ s.file = some f ∧
      s.database.toJson = db.toJson ∧ s.database.content = db.content := by
  have hfits := Database.fits_toJson 973 h
  obtain ⟨text, hwrite, -⟩ := Json.write_read hfits
  have hascii : Json.IsAscii text.toList := by
    rw [Json.write, if_pos (Json.isWritable_of_fits hfits)] at hwrite
    cases hwrite
    rw [String.toList_ofList]
    exact Json.isAscii_writeAt hfits 0
  have hsaved : f.write files db = .ok (files.write f.path text.toUTF8) := by
    rw [write, hf.draft, hwrite]
    rfl
  have hholds : f.Holds (files.write f.path text.toUTF8) db := ⟨text, hwrite, bytes?_write _ _ _⟩
  obtain ⟨db', hread, -, hcontent⟩ := read_of_holds (name_of_draft hf.draft) hholds h
  have hstart : (Session.start (some f) (files.write f.path text.toUTF8)).2 =
      .ok ⟨some f, db'⟩ := by
    rw [start_of_read (hf.directory _) hread]
  exact ⟨text, _, _, hwrite, hascii, hsaved, rfl, hstart, rfl,
    Database.toJson_congr hcontent, hcontent⟩

/-- A database with text of all kinds, numbers of both kinds, truth values and infinities. -/
def mixed : Database where
  tables :=
    [("t", {
      columns := [⟨.text "a", .text "TEXT"⟩, ⟨.text "b", .text ""⟩]
      constraints := ⟨.text "a", [.text "b"]⟩
      records :=
        [⟨0, [(.name "a", .text "\x22\\\x00\n\u2028😀"), (.name "b", .real (.zero true))]⟩,
          ⟨1, [(.name "b", .bool true), (.name "a", .int (-10))]⟩]
      counter := 3 })]
  indexes :=
    [("t.b", ⟨.text "i", .text "t", .text "b",
      [(.real (.zero true), [⟨0, [(.name "b", .real (.zero true))]⟩]),
        (.bool true, []), (.text "1", []), (.null, []), (.real (.infinite true), [])]⟩)]
  freshId := 2

lemma storable_mixed : mixed.Storable := by
  have hwritable : Writable (-10) ∧ Writable 3 := by decide +kernel
  have hsmall : Row.Storable [(.name "b", .real (.zero true))] :=
    ⟨by simp [Label.name], List.pairwise_singleton _ _, by simp [Value.Storable, Binary64.zero]⟩
  refine ⟨List.pairwise_singleton _ _, List.pairwise_singleton _ _, ?_, ?_⟩
  · simp only [mixed, List.forall_mem_singleton]
    refine ⟨?_, .inr ⟨_, rfl⟩, ?_, ?_, hwritable.2⟩
    · simp [Json.IsText, Json.text]
    · simp [Json.IsText, Json.text]
    · simp only [List.forall_mem_cons]
      refine ⟨⟨by simp [Label.name], ?_, by simp [Value.Storable, Binary64.zero]⟩,
        ⟨by simp [Label.name], ?_, by simp [Value.Storable, hwritable.1]⟩, by simp⟩
      · simp [Keyed.Distinct, Keyed.keys, Label.same_name]
      · simp [Keyed.Distinct, Keyed.keys, Label.same_name]
  · simp only [mixed, List.forall_mem_singleton]
    refine ⟨⟨_, rfl⟩, ⟨_, rfl⟩, ⟨_, rfl⟩, by simp [Value.Storable, Binary64.zero], ?_, by simpa⟩
    decide +kernel

theorem start_written_mixed :
    ∃ saved s, (SnapshotFile.mk "data" defaultKey).write [] mixed = .ok saved ∧
      (Session.start (some ⟨"data", defaultKey⟩) saved).2 = .ok s ∧
      s.database.toJson = mixed.toJson := by
  have hf : Saves ⟨"data", defaultKey⟩ [] := (available_of_isPlain
    ⟨by decide, by decide, by decide, by decide⟩ ⟨by decide, by decide, by decide, by decide⟩
    (by decide)).saves
  obtain ⟨-, saved, s, -, -, hsaved, -, hstart, -, hjson, -⟩ := start_written hf storable_mixed
  exact ⟨saved, s, hsaved, hstart, hjson⟩

end Tabula.SnapshotFile
