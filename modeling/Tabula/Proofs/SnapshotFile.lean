import Tabula.Proofs.Database.Stored
import Tabula.Proofs.Text.Encoding
import Tabula.Session

/-!
The file of a snapshot, written and read.

A file is available if nothing is in the way of it and of its directory. What is written to such a
file is read from it, up to the identities of records.
-/

namespace Tabula

namespace SnapshotFile

/-- Whether the file is that of the snapshot of a database. -/
def Holds (f : SnapshotFile) (files : Files) (db : Database) : Prop :=
  ∃ s, db.toJson.write = .ok s ∧ files.bytes? f.path = some s.toUTF8

lemma Holds.congr {f : SnapshotFile} {files : Files} {a b : Database} (h : f.Holds files a)
    (hab : a.content = b.content) : f.Holds files b := by
  unfold Holds at h ⊢
  rwa [← Database.toJson_congr hab]

/-- Nothing is in the way of the file, of its draft and of its directory, now and after it has been
written, and there is no file of the name yet. -/
structure Available (f : SnapshotFile) (files : Files) : Prop where
  name : Files.fault? f.directory f.name = none
  draft : Files.fault? f.directory f.draftName = none
  directory : files.directoryFault? f.directory = none
  directory_written : ∀ bytes, (files.write f.path bytes).directoryFault? f.directory = none
  fresh : files.bytes? f.path = none

/-- The database in the file. -/
def read (f : SnapshotFile) (files : Files) : Except OpenFault Database :=
  (f.load Json.deepest files).2 >>= database

variable {f : SnapshotFile} {files : Files} {db : Database}

lemma bytes?_write (files : Files) (path : String) (bytes : ByteArray) :
    (files.write path bytes).bytes? path = some bytes := by
  rw [Files.bytes?, Files.write, Keyed.find?_put, Key.same_refl]
  rfl

/-- A database that can be stored is written. -/
lemma write_storable (f : SnapshotFile) (files : Files)
    (hd : Files.fault? f.directory f.draftName = none) (h : db.Storable) :
    ∃ bytes, f.write files db = .ok (files.write f.path bytes) ∧
      f.Holds (files.write f.path bytes) db := by
  obtain ⟨s, hs, -⟩ := Json.write_read (Database.fits_toJson 973 h)
  refine ⟨s.toUTF8, ?_, s, hs, bytes?_write _ _ _⟩
  rw [write, hd, hs]
  rfl

/-- Without a file, the snapshot is empty. -/
lemma load_of_content?_none (limit : Nat) (h : f.content? files = .ok none) :
    f.load limit files = ([], .ok .empty) := by
  unfold load document?
  rw [h]

/-- Without a file, the database is empty. -/
lemma read_of_content?_none (h : f.content? files = .ok none) : f.read files = .ok .empty := by
  rw [read, load_of_content?_none _ h]
  rfl

lemma database_eq_ok {s : Snapshot} : database s = .ok db ↔ s.database? = some db := by
  unfold database
  cases s.database? <;> simp

lemma document?_of_holds (hn : Files.fault? f.directory f.name = none) (h : f.Holds files db)
    (hs : db.Storable) :
    f.document? Json.deepest files = ([], .ok (some db.toJson.document)) := by
  obtain ⟨s, hwrite, hbytes⟩ := h
  obtain ⟨t, ht, hread⟩ := Json.write_read (Database.fits_toJson 973 hs)
  obtain rfl : s = t := by
    rw [hwrite] at ht
    exact Except.ok.inj ht
  have hfile : f.content? files = .ok (some s.toUTF8) := by
    rw [content?, hn, hbytes]
  unfold document?
  rw [hfile, Json.deepest]
  simp only [Text.fromUTF8?_toUTF8, hread, Database.toJson, Json.document_object]

/-- What was written is loaded, and nothing but this is reported. -/
lemma load_of_holds (hn : Files.fault? f.directory f.name = none) (h : f.Holds files db)
    (hs : db.Storable) :
    f.load Json.deepest files = ([.loaded db.tables.length f.path], .ok db.snapshot) := by
  unfold load
  rw [document?_of_holds hn h hs]
  simp only [Database.ofDocument_toJson hs, Database.snapshot, List.length_map, List.nil_append]

/-- What was written is read. -/
lemma read_of_holds (hn : Files.fault? f.directory f.name = none) (h : f.Holds files db)
    (hs : db.Storable) :
    ∃ db', f.read files = .ok db' ∧ db.snapshot.database? = some db' ∧
      db'.content = db.content := by
  obtain ⟨db', hmade, hcontent⟩ := Database.database?_snapshot db
  refine ⟨db', ?_, hmade, hcontent⟩
  rw [read, load_of_holds hn h hs]
  exact database_eq_ok.2 hmade

/-- Where the directory can be made, a session starts with the database in the file. -/
lemma start_of_read {db : Database} (hd : files.directoryFault? f.directory = none)
    (h : f.read files = .ok db) :
    Session.start (some f) files = ((f.load Json.deepest files).1, .ok ⟨some f, db⟩) := by
  obtain ⟨snapshot, hload, hmade⟩ := bind_eq_ok.1 h
  unfold Session.start openWithin
  simp only [hd, hload, bind, Except.bind, hmade]
  rfl

end SnapshotFile

/-! ### Ordinary names -/

namespace Files

/-- A name that is no step of a path, but one part of it. -/
structure IsPlain (file : String) : Prop where
  slash : '/' ∉ file.toList
  zero : '\x00' ∉ file.toList
  step : isStep file.toList = false
  short : file.utf8ByteSize ≤ longestName

lemma IsPlain.split {file : String} (h : IsPlain file) :
    file.toList.splitOn '/' = [file.toList] := List.splitOn_eq_singleton h.slash

lemma IsPlain.length_pos {file : String} (h : IsPlain file) : 0 < file.toList.length := by
  have hstep := h.step
  rw [List.length_pos_iff]
  rintro he
  rw [he] at hstep
  exact absurd hstep (by decide)

lemma fault?_of_isPlain (directory : String) {file : String} (h : IsPlain file) :
    fault? directory file = none := by
  have hsize : isTooLong file.toList = false := by
    rw [isTooLong, String.ofList_toList, decide_eq_false_iff_not]
    exact Nat.not_lt.2 h.short
  unfold fault?
  dsimp only
  rw [h.split]
  simp [h.zero, hsize]

lemma parts_join (directory : String) {file : String} (h : IsPlain file) :
    parts (directory ++ "/" ++ file) = parts directory ++ [file.toList] := by
  have hsplit : (directory ++ "/" ++ file).toList.splitOn '/' =
      directory.toList.splitOn '/' ++ [file.toList] := by
    rw [String.toList_append, String.toList_append, List.append_assoc, ← h.split]
    exact List.splitOn_append_cons_self _ _
  have hstep := h.step
  rw [isStep] at hstep
  rw [parts, hsplit, List.foldl_append, List.foldl_cons, List.foldl_nil, follow]
  simp_all [parts]

lemma length_intercalate_concat (ps : List (List Char)) (p : List Char) :
    (['/'].intercalate ps).length + p.length ≤ (['/'].intercalate (ps ++ [p])).length := by
  induction ps with
  | nil => simp
  | cons q ps ih =>
    cases ps with
    | nil =>
      rw [List.singleton_append, List.intercalate_cons_cons]
      simp only [List.intercalate_singleton, List.length_append]
      omega
    | cons r ps =>
      rw [List.cons_append] at ih
      rw [List.cons_append, List.cons_append, List.intercalate_cons_cons,
        List.intercalate_cons_cons]
      simp only [List.length_append] at ih ⊢
      omega

/-- The path of a file is longer than that of its directory. -/
lemma length_simplify_lt (directory : String) {file : String} (h : IsPlain file) :
    (simplify directory).toList.length < (join directory file).toList.length := by
  have hhead : file.toList.head? ≠ some '/' := fun hc => h.slash (List.mem_of_mem_head? hc)
  have hroot : directory.toList.head? = some '/' →
      (directory ++ "/" ++ file).toList.head? = some '/' := by
    intro hd
    rw [String.toList_append, String.toList_append]
    cases hc : directory.toList with
    | nil => simp [hc] at hd
    | cons c cs => simpa [hc] using hd
  have hlength := length_intercalate_concat (parts directory) file.toList
  have hpos := h.length_pos
  rw [join, if_neg hhead, simplify, simplify, parts_join directory h, String.toList_ofList,
    String.toList_ofList, List.length_append, List.length_append]
  split_ifs with hd hj hj
  · omega
  · exact absurd (hroot hd) hj
  · rw [List.length_nil]
    omega
  · omega

lemma directoryFault?_write {directory file : String} {bytes : ByteArray} (h : IsPlain file)
    (hd : directoryFault? [] directory = none) :
    directoryFault? (write [] (join directory file) bytes) directory = none := by
  have hlength := length_simplify_lt directory h
  have hother : (join directory file == simplify directory) = false := by
    rw [beq_eq_false_iff_ne]
    rintro he
    rw [he] at hlength
    omega
  have hbelow : ((join directory file).toList ++ ['/']).isPrefixOf
      (simplify directory).toList = false := by
    rw [← Bool.not_eq_true, List.isPrefixOf_iff_prefix]
    intro hp
    have := hp.length_le
    simp only [List.length_append] at this
    omega
  unfold directoryFault? at hd ⊢
  dsimp only at hd ⊢
  simp only [write, Keyed.put, bytes?, Keyed.find?, List.find?_cons, Key.same_string, hother,
    List.find?_nil, Option.map_none, List.any_cons, hbelow] at hd ⊢
  exact hd

end Files

/-- Where nothing is yet, a plain key in a directory that can be made is enough. -/
theorem SnapshotFile.available_of_isPlain {f : SnapshotFile} (hn : Files.IsPlain f.name)
    (hd : Files.IsPlain f.draftName) (h : Files.directoryFault? [] f.directory = none) :
    f.Available [] where
  name := Files.fault?_of_isPlain _ hn
  draft := Files.fault?_of_isPlain _ hd
  directory := h
  directory_written := fun _ => Files.directoryFault?_write hn h
  fresh := rfl

/-! ### Drafts -/

namespace Files

lemma fault?_eq_none {directory file : String} (ps : List (List Char)) {p : List Char}
    (h : file.toList.splitOn '/' = ps ++ [p]) :
    fault? directory file = none ↔
      '\x00' ∉ file.toList ∧ (∀ q ∈ ps, isStep q = true) ∧ isTooLong p = false := by
  unfold fault?
  simp only [h, List.dropLast_concat, List.getLast?_concat, Option.map_some, Option.getD_some,
    List.contains_eq_mem, decide_eq_true_eq, Bool.not_eq_true', List.all_eq_false]
  split_ifs with hzero hsteps hlong
  · simp [hzero]
  · obtain ⟨q, hq, hstep⟩ := hsteps
    simp only [false_iff]
    exact fun hall => hstep (hall.2.1 q hq)
  · simp [hlong]
  · push Not at hsteps
    simpa [hzero, hlong] using hsteps

lemma isTooLong_append {p xs ys : List Char} (h : isTooLong (p ++ xs) = false)
    (hle : (String.ofList ys).utf8ByteSize ≤ (String.ofList xs).utf8ByteSize) :
    isTooLong (p ++ ys) = false := by
  simp only [isTooLong, String.ofList_append, String.utf8ByteSize_append,
    decide_eq_false_iff_not] at h ⊢
  omega

/-- What is written after a path, and has no slash, goes to its last part. -/
lemma splitOn_append (cs : List Char) :
    ∃ ps p, ∀ xs, '/' ∉ xs → (cs ++ xs).splitOn '/' = ps ++ [p ++ xs] := by
  by_cases hslash : '/' ∈ cs
  · obtain ⟨p, qs, hcs, hp⟩ := List.eq_append_cons_of_mem (List.mem_reverse.2 hslash)
    have hsplit : cs = qs.reverse ++ '/' :: p.reverse := by
      simpa using congrArg List.reverse hcs
    refine ⟨qs.reverse.splitOn '/', p.reverse, fun xs hxs => ?_⟩
    have hlast : '/' ∉ p.reverse ++ xs := by simp [hp, hxs]
    rw [hsplit, List.append_assoc, List.cons_append, List.splitOn_append_cons_self,
      List.splitOn_eq_singleton hlast]
  · exact ⟨[], cs, fun xs hxs => List.splitOn_eq_singleton (by simp [hslash, hxs])⟩

end Files

namespace SnapshotFile

/-- Where the draft can be written, so can the file. -/
lemma name_of_draft {f : SnapshotFile} (h : Files.fault? f.directory f.draftName = none) :
    Files.fault? f.directory f.name = none := by
  have hdraft : f.draftName.toList = '.' :: (f.key.toList ++ ".snapshot.tmp".toList) := by
    simp [draftName]
  have hname : f.name.toList = f.key.toList ++ ".json".toList := by
    simp [name]
  obtain ⟨ps, p, hsplit⟩ := Files.splitOn_append f.key.toList
  have hnamed := hsplit ".json".toList (by decide)
  have hdrafted : f.draftName.toList.splitOn '/' =
      (ps ++ [p ++ ".snapshot.tmp".toList]).modifyHead ('.' :: ·) := by
    rw [hdraft, List.splitOn, List.splitOnP_cons_eq_if_modifyHead, ← List.splitOn,
      hsplit ".snapshot.tmp".toList (by decide)]
    rfl
  rw [← hname] at hnamed
  have hshorter : (String.ofList ".json".toList).utf8ByteSize ≤
      (String.ofList ".snapshot.tmp".toList).utf8ByteSize := by decide
  have hzero : '\x00' ∉ f.draftName.toList → '\x00' ∉ f.name.toList := by
    rw [hdraft, hname]
    simp +contextual
  rw [Files.fault?_eq_none ps hnamed]
  -- the dot of the draft is at the head of its first part, which may be the last one
  cases ps with
  | nil =>
    obtain ⟨hdzero, -, hshort⟩ := (Files.fault?_eq_none [] hdrafted).1 h
    have hdot : Files.isTooLong ([] ++ (p ++ ".snapshot.tmp".toList)) = false :=
      Files.isTooLong_append hshort (by simp [String.utf8ByteSize_append, String.ofList_cons])
    exact ⟨hzero hdzero, by simp, Files.isTooLong_append hdot hshorter⟩
  | cons q ps =>
    obtain ⟨hdzero, hsteps, hshort⟩ :=
      (Files.fault?_eq_none (('.' :: q) :: ps) hdrafted).1 h
    obtain ⟨hq, hps⟩ := List.forall_mem_cons.1 hsteps
    have hstep : Files.isStep q = true := by
      simp_all [Files.isStep]
    exact ⟨hzero hdzero, List.forall_mem_cons.2 ⟨hstep, hps⟩,
      Files.isTooLong_append hshort hshorter⟩

end SnapshotFile
end Tabula
