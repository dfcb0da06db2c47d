import Mathlib
import Tabula.Proofs.Database.Update
import Tabula.Proofs.Session.Effect
import Tabula.Proofs.Token.Scan

/-!
What an update leaves behind when it fails.

The records that it has come to keep their new rows, in the database and in the file. So an update
that fails has changed nothing only if there was nothing for it to change on the way.
-/

namespace Tabula

namespace SnapshotFile

variable {f : SnapshotFile} {files saved : Files} {db : Database}

/-- The content of the database in the file. -/
def contentIn (f : SnapshotFile) (files : Files) : Except OpenFault Database :=
  (f.read files).map Database.content

lemma contentIn_of_content? (h : f.content? saved = f.content? files) :
    f.contentIn saved = f.contentIn files := by
  rw [contentIn, contentIn, read, read, load, load, document?, document?, h]

lemma contentIn_of_holds (hn : Files.fault? f.directory f.name = none) (hh : f.Holds files db)
    (hs : db.Storable) : f.contentIn files = .ok db.content := by
  obtain ⟨db', hread, -, hcontent⟩ := read_of_holds hn hh hs
  rw [contentIn, hread, ← hcontent]
  rfl

/-- A database that is written again is read as it was. -/
lemma Keeps.contentIn_eq (h : f.Keeps files db) (hs : db.Storable)
    (hd : Files.fault? f.directory f.draftName = none) (hh : f.Holds saved db) :
    f.contentIn saved = f.contentIn files := by
  cases hn : Files.fault? f.directory f.name with
  | some fault =>
    apply contentIn_of_content?
    rw [content?, content?, hn]
    cases fault <;> rfl
  | none =>
    rw [contentIn_of_holds hn hh hs]
    rcases h with ⟨ha, hempty⟩ | ⟨-, hh⟩
    · obtain hb : files.bytes? f.path = none := by
        cases hb : files.bytes? f.path with
        | none => rfl
        | some bytes => exact absurd (by rw [content?, hn, hb]) (ha bytes)
      have hc : f.content? files = .ok none := by rw [content?, hn, hb]
      rw [contentIn, read_of_content?_none hc, hempty hd]
      rfl
    · rw [contentIn_of_holds hn hh hs]

end SnapshotFile

namespace Stage

variable {file : Option SnapshotFile} {st : Stage} {n : Nat} {text name : String}
  {assignments : List (String × Value)} {c : Condition}

/-- Why an update has failed. -/
lemma Sound.update_failure (h : st.Sound file n) (hn : n + 1 < 10 ^ digitLimit)
    (hp : Statement.parse text = .ok (.update name assignments c)) {failure : Failure}
    (he : (st.reply text).outcome = .error failure) :
    st.database.table? name = none ∨
      (∃ t, st.database.table? name = some t ∧ Table.reached c t.records ≠ t.records) ∨
      ∃ f ∈ file, Files.fault? f.directory f.draftName ≠ none := by
  by_cases hd : ∀ f ∈ file, Files.fault? f.directory f.draftName = none
  · obtain ⟨saved, hsaved, -⟩ := h.save hd hn hp
    rw [Stage.reply, Session.execute_saved hp rfl hsaved] at he
    cases ht : st.database.table? name with
    | none => exact .inl rfl
    | some t =>
      refine .inr (.inl ⟨t, rfl, fun hr => ?_⟩)
      have hok := (Table.isOk_updateRecords assignments c t.records).2 hr
      change (st.database.update name assignments c).outcome = .error failure at he
      rw [Database.update, Database.table_eq_ok.2 ht] at he
      cases hcount : (Table.updateRecords assignments c t.records).2 with
      | ok count =>
        simp only [Table.update, hcount] at he
        cases he
      | error fault =>
        rw [hcount] at hok
        cases hok
  · simp only [not_forall] at hd
    obtain ⟨f, hf, hd⟩ := hd
    exact .inr (.inr ⟨f, hf, hd⟩)

/-- Where there is nothing to change, neither the rows nor the file are changed. -/
lemma Sound.update_idle (h : st.Sound file n)
    (hp : Statement.parse text = .ok (.update name assignments c))
    (hi : ∀ t, st.database.table? name = some t → Table.Idle assignments c t.records) :
    (st.reply text).session = st.session ∧
      ∀ f ∈ file, f.contentIn (st.reply text).files =
        f.contentIn st.files := by
  have hsame : (st.database.execute (.update name assignments c)).database = st.database :=
    h.coherent.update_idle hi
  have hafter : st.session.after (.update name assignments c) = st.session := by
    rw [Session.after, hsame]
  cases hs : (st.session.after (.update name assignments c)).save st.files with
  | error failure =>
    rw [Stage.reply, Session.execute_unsaved hp rfl hs]
    exact ⟨hafter, fun f hf => rfl⟩
  | ok saved =>
    rw [Stage.reply, Session.execute_saved hp rfl hs]
    refine ⟨hafter, fun f hf => ?_⟩
    rw [Session.save_after (h.same_file.trans hf)] at hs
    cases hd : Files.fault? f.directory f.draftName with
    | some fault =>
      rw [SnapshotFile.write, hd] at hs
      cases hs
    | none =>
      rw [hsame] at hs
      obtain ⟨bytes, hwrite, hholds⟩ := f.write_storable st.files hd h.within.storable
      rw [hwrite] at hs
      cases hs
      exact (h.saved f hf).contentIn_eq h.within.storable hd hholds

end Stage

open Text Token

/-! ### A text with too many digits -/

lemma Text.digits_ones (n : Nat) : digits (List.replicate n '1') = (List.replicate n 1, []) := by
  induction n with
  | zero => rfl
  | succ n ih =>
    rw [List.replicate_succ, digits, ih]
    rfl

/-- A number with too many digits is not read. -/
lemma Numeral.read?_ones {n : Nat} (h : digitLimit < n) :
    read? (List.replicate n '1') = .error (.tooManyDigits n) := by
  obtain ⟨k, rfl⟩ : ∃ k, n = k + 1 := ⟨n - 1, by omega⟩
  have htrim : trim (List.replicate (k + 1) '1') = List.replicate (k + 1) '1' :=
    trim_eq_self rfl (by rw [List.getLast?_replicate]; rfl)
  have hscan : scan? (List.replicate (k + 1) '1') =
      some (⟨false, List.replicate (k + 1) 1, none, none⟩, []) := by
    have hsign : sign (List.replicate (k + 1) '1') = (false, List.replicate (k + 1) '1') := rfl
    rw [scan?, hsign, digits_ones]
    rfl
  rw [read?, htrim, hscan]
  simp only [value, readInt, List.length_replicate, if_neg (Nat.not_le.2 h)]
  rfl

/-- A command that inserts a row with one text. -/
def insertion (inner : List Char) : List Char :=
  ['I', 'N', 'S', 'E', 'R', 'T', ' ', 'I', 'N', 'T', 'O', ' ', 't', ' ', '(', 'a', ')', ' ',
    'V', 'A', 'L', 'U', 'E', 'S', ' ', '('] ++ singleQuote :: (inner ++ [singleQuote, ')'])

example : String.ofList (insertion ['1']) = "INSERT INTO t (a) VALUES ('1')" := rfl

lemma scans_insertion {inner : List Char} (h : singleQuote ∉ inner) :
    ∃ lexeme, Scans (insertion inner)
      [.word "INSERT", .word "INTO", .word "t", .symbol .opening, .word "a", .symbol .closing,
        .word "VALUES", .symbol .opening, .quoted lexeme (String.ofList inner),
        .symbol .closing] := by
  have hclosing : Scans [')'] [.symbol .closing] := Scans.nil.token rfl rfl
  have hquoted : Scans (singleQuote :: (inner ++ [singleQuote, ')'])) _ :=
    hclosing.token (by decide) (readToken_singleQuote h (by decide))
  refine ⟨lexeme (singleQuote :: (inner ++ [singleQuote, ')'])) [')'], ?_⟩
  have hvalues : Scans ('V' :: 'A' :: 'L' :: 'U' :: 'E' :: 'S' :: ' ' :: '(' :: _) _ :=
    .token rfl rfl (.blank rfl (.token rfl rfl hquoted))
  have hcolumns : Scans ('t' :: ' ' :: '(' :: 'a' :: ')' :: ' ' :: _) _ :=
    .token rfl rfl (.blank rfl (.token rfl rfl (.token rfl rfl (.token rfl rfl
      (.blank rfl hvalues)))))
  exact .token rfl rfl (.blank rfl (.token rfl rfl (.blank rfl hcolumns)))

lemma Statement.parse_insertion {inner : List Char} (h : singleQuote ∉ inner) :
    parse (String.ofList (insertion inner)) =
      .ok (.insert "t" ["a"] [.text (String.ofList inner)]) := by
  obtain ⟨lexeme, hts⟩ := scans_insertion h
  have htrim : trim (insertion inner) = insertion inner :=
    trim_eq_self rfl (by
      rw [insertion, List.getLast?_append, List.getLast?_cons, List.getLast?_append]
      rfl)
  have hkind : Kind.ofText? (insertion inner) = some .insert := rfl
  rw [parse_eq_ofTokens (by rwa [String.toList_ofList]) hkind hts]
  generalize String.ofList inner = s
  cbv

lemma Statement.parse_update : parse "UPDATE t SET a = 2 WHERE a = 1" =
    .ok (.update "t" [("a", .int 2)] ⟨⟨none, "a"⟩, .equal, .int 1⟩) := by
  cbv

namespace History

/-- A table with one column, into which two texts are inserted. -/
def twoTexts (inner : List Char) : History :=
  [.command "CREATE TABLE t (a)", .command (String.ofList (insertion ['1'])),
    .command (String.ofList (insertion inner))]

/-- The table after this, but for the first text. -/
def twoRows (v : Value) (inner : List Char) : Table where
  columns := [⟨.text "a", .text ""⟩]
  constraints := ⟨.null, []⟩
  records := [⟨0, [(.name "a", v)]⟩, ⟨1, [(.name "a", .text (String.ofList inner))]⟩]
  counter := 1

lemma run_twoTexts {inner : List Char} (hq : singleQuote ∉ inner) :
    ∃ st, run none [] (twoTexts inner) = .ok st ∧
      st.session = ⟨none, ⟨[("t", twoRows (.text "1") inner)], [], 2⟩⟩ := by
  have hone : Statement.parse (String.ofList (insertion ['1'])) = _ :=
    Statement.parse_insertion (by decide)
  have hcreated := run_inMemory run_inMemory_nil Statement.parse_createTable
  exact run_inMemory (run_inMemory hcreated hone) (Statement.parse_insertion hq)

/-- The condition that a cell is one. -/
def isOne : Condition := ⟨⟨none, "a"⟩, .equal, .int 1⟩

lemma isOne_text_one : isOne.holds [(.name "a", .text "1")] = .ok true := by
  decide +kernel

lemma isOne_unreadable {inner : List Char} {fault : NumberFault}
    (h : Numeral.read? inner = .error fault) :
    isOne.holds [(.name "a", .text (String.ofList inner))] = .error fault := by
  have hpair : Value.pair (.text (String.ofList inner)) (.int 1) = .error fault := by
    simp only [Value.pair, Value.number?, String.toList_ofList, h]
    rfl
  have hnull : ¬ (Value.text (String.ofList inner) = .null ∨ Value.int 1 = .null) := by simp
  change Value.looselyEqual (.text (String.ofList inner)) (.int 1) = _
  rw [Value.looselyEqual, if_neg hnull, hpair]
  rfl

/-- The first text is assigned to before the second one is found to be too long. -/
lemma update_twoRows {inner : List Char} {fault : NumberFault}
    (h : Numeral.read? inner = .error fault) :
    (twoRows (.text "1") inner).update [("a", .int 2)] isOne =
      (twoRows (.int 2) inner, .error fault) := by
  rw [Table.update, twoRows, Table.updateRecords, isOne_text_one, Table.updateRecords,
    isOne_unreadable h]
  rfl

lemma execute_twoTexts {inner : List Char} {fault : NumberFault} {st : Stage}
    (hsession : st.session = ⟨none, ⟨[("t", twoRows (.text "1") inner)], [], 2⟩⟩)
    (h : Numeral.read? inner = .error fault) :
    st.reply "UPDATE t SET a = 2 WHERE a = 1" =
      ⟨⟨none, ⟨[("t", twoRows (.int 2) inner)], [], 2⟩⟩, st.files, [], .error (.number fault)⟩ := by
  have hupdate : Database.execute ⟨[("t", twoRows (.text "1") inner)], [], 2⟩
      (.update "t" [("a", .int 2)] isOne) =
        ⟨⟨[("t", twoRows (.int 2) inner)], [], 2⟩, [], .error (.number fault)⟩ := by
    rw [Database.execute, Database.update, Database.table_eq_ok.2 rfl]
    simp only [update_twoRows h]
    rfl
  rw [Stage.reply, hsession, Session.execute_saved Statement.parse_update rfl rfl, Session.after]
  simp only [isOne] at hupdate
  rw [hupdate]

/-- The digits of a number that is too long to be read. -/
def longDigits : List Char := List.replicate 4301 '1'

lemma singleQuote_notMem_longDigits : singleQuote ∉ longDigits := by
  intro hm
  rw [longDigits] at hm
  cases List.eq_of_mem_replicate hm

lemma read?_longDigits : Numeral.read? longDigits = .error (.tooManyDigits 4301) := by
  rw [longDigits]
  exact Numeral.read?_ones (by decide)

/-- **An update that fails is not undone.** The records that it has come to and that match keep the
assigned values; so it has changed nothing, in memory and in the file, exactly if they had them
before. -/
theorem update_failed {file : Option SnapshotFile} {files : Files} {h : History} {st : Stage}
    (ha : ∀ f ∈ file, f.Absent files) (hrun : h.run file files = .ok st) {text : String}
    (hn : (h.commands ++ [text]).length < 10 ^ digitLimit) {name : String}
    {assignments : List (String × Value)} {c : Condition}
    (hp : Statement.parse text = .ok (.update name assignments c)) {failure : Failure}
    (he : (st.reply text).outcome = .error failure) :
    let reply := st.reply text
    (st.database.table? name = none ∨
      (∃ t, st.database.table? name = some t ∧ Table.reached c t.records ≠ t.records) ∨
      ∃ f ∈ file, Files.fault? f.directory f.draftName ≠ none) ∧
    (∀ t, st.database.table? name = some t → reply.session.database.rows? name =
      some (((Table.reached c t.records).map (Table.assigned assignments c) ++
        t.records.drop (Table.reached c t.records).length).map (·.row))) ∧
    (((∀ u, reply.session.database.rows? u = st.database.rows? u) ∧
        ∀ f ∈ file, f.contentIn reply.files = f.contentIn st.files) ↔
      ∀ t, st.database.table? name = some t → ∀ r ∈ Table.reached c t.records,
        c.holds r.row = .ok true → Row.assign r.row assignments = r.row) := by
  rw [List.length_append, List.length_singleton] at hn
  have hst := sound_run ha (by omega) hrun
  have hdatabase : (st.reply text).session.database =
      (st.database.update name assignments c).database := Session.database_execute hp
  refine ⟨hst.update_failure hn hp he, fun t ht => ?_, fun hsame => ?_, fun hi => ?_⟩
  · rw [hdatabase, Database.rows?_update ht, Table.updateRecords_eq]
  · obtain ⟨hrows, -⟩ := hsame
    have hname := hrows name
    rw [hdatabase] at hname
    exact Database.rows?_update_eq_iff.1 hname
  · obtain ⟨hsession, hfiles⟩ := hst.update_idle hp hi
    exact ⟨fun u => by rw [hsession], hfiles⟩

theorem update_failed_twoTexts :
    ∃ st, run none [] (twoTexts longDigits) = .ok st ∧
      ¬ ∀ u, (st.reply "UPDATE t SET a = 2 WHERE a = 1").session.database.rows? u =
        st.database.rows? u := by
  obtain ⟨st, hrun, hsession⟩ := run_twoTexts singleQuote_notMem_longDigits
  have hexecute := execute_twoTexts hsession read?_longDigits
  have hshort : (commands (twoTexts longDigits) ++ ["UPDATE t SET a = 2 WHERE a = 1"]).length <
      10 ^ digitLimit := lt_pow_digitLimit (by decide)
  obtain ⟨-, -, hiff⟩ := update_failed (by simp) hrun hshort Statement.parse_update
    (congrArg Reply.outcome hexecute)
  refine ⟨st, hrun, fun hsame => ?_⟩
  have htable : st.database.table? "t" = some (twoRows (.text "1") longDigits) := by
    rw [Stage.database, hsession]
    rfl
  have hreached : (⟨0, [(.name "a", .text "1")]⟩ : Record) ∈
      Table.reached isOne (twoRows (.text "1") longDigits).records := by
    rw [twoRows, Table.reached_cons_of_ok isOne_text_one]
    exact List.mem_cons_self
  have hassign := hiff.1 ⟨hsame, by simp⟩ _ htable _ hreached isOne_text_one
  exact absurd hassign (by decide)

/-- **An update may fail after it has changed a row.** -/
theorem update_failed_longDigits :
    ∃ st, run none [] (twoTexts longDigits) = .ok st ∧
      st.database.rows? "t" = some (twoRows (.text "1") longDigits).rows ∧
      (st.reply "UPDATE t SET a = 2 WHERE a = 1").outcome =
        .error (.number (.tooManyDigits 4301)) ∧
      (st.reply "UPDATE t SET a = 2 WHERE a = 1").session.database.rows? "t" =
        some (twoRows (.int 2) longDigits).rows := by
  obtain ⟨st, hrun, hsession⟩ := run_twoTexts singleQuote_notMem_longDigits
  have hexecute := execute_twoTexts hsession read?_longDigits
  generalize longDigits = inner at *
  refine ⟨st, hrun, ?_, ?_, ?_⟩
  · rw [Stage.database, hsession]
    rfl
  · rw [hexecute]
  · rw [hexecute]
    rfl

end History

end Tabula
