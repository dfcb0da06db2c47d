import Mathlib
import Tabula.Proofs.Json.Depth
import Tabula.Proofs.Snapshot
import Tabula.Proofs.SnapshotFile

/-!
What is found in a file.

Whatever bytes a file has, opening it gives the snapshot that they describe, or reports them once and
gives an empty one. There are two exceptions: a text with lists and objects nested deeper than the
limit, whatever that is, and a table whose counter is infinite.
-/

namespace Tabula

namespace SnapshotFile

/-- Bytes describe a snapshot if they are the text of a document that does. -/
def Describes (bytes : ByteArray) (s : Snapshot) : Prop :=
  ∃ text limit d, String.fromUTF8? bytes = some text ∧ Json.readDocument limit text = .ok d ∧
    s.DescribedBy d

/-- The file has this content, and nothing is in the way of it and of its directory. -/
structure HasContent (f : SnapshotFile) (files : Files) (bytes : ByteArray) : Prop where
  name : Files.fault? f.directory f.name = none
  directory : files.directoryFault? f.directory = none
  bytes : files.bytes? f.path = some bytes

variable {f : SnapshotFile} {files : Files} {bytes : ByteArray} {limit : Nat} {text : String}

/-- The bytes are a text whose lists and objects are nested deeper than this. -/
def NestsDeeper (limit : Nat) (bytes : ByteArray) : Prop :=
  ∃ text, String.fromUTF8? bytes = some text ∧ limit < Json.nesting text

/-- The bytes are the text of a document with a table whose counter is infinite. -/
def CountsToInfinity (bytes : ByteArray) : Prop :=
  ∃ text limit d, String.fromUTF8? bytes = some text ∧ Json.readDocument limit text = .ok d ∧
    Snapshot.HasInfiniteCounter d

/-- Whatever is read from the text under another limit is the same document. -/
lemma readDocument_unique {x : Except Json.Fault Document} {other : Nat} {d : Document}
    {text' : String} (ht : String.fromUTF8? bytes = some text)
    (hx : Json.readDocument limit text = x) (hne : x ≠ .error .tooDeep)
    (ht' : String.fromUTF8? bytes = some text') (hd : Json.readDocument other text' = .ok d) :
    x = .ok d := by
  obtain rfl : text = text' := Option.some.inj (ht.symm.trans ht')
  rw [← hx, ← hd]
  exact Json.readDocument_eq (hx ▸ hne) (by simp [hd])

/-- A text that is a document describes what the document does. -/
lemma describes_iff {d : Document} {s : Snapshot} (ht : String.fromUTF8? bytes = some text)
    (hd : Json.readDocument limit text = .ok d) : Describes bytes s ↔ s.DescribedBy d := by
  constructor
  · rintro ⟨text', other, d', ht', hd', h⟩
    rwa [Except.ok.inj (readDocument_unique ht hd (by simp) ht' hd')]
  · exact fun h => ⟨text, limit, d, ht, hd, h⟩

/-- A text that is no document, under a limit that it is not too deep for, describes nothing. -/
lemma not_describes_of_error {fault : Json.Fault} (ht : String.fromUTF8? bytes = some text)
    (hd : Json.readDocument limit text = .error fault) (hfault : fault ≠ .tooDeep) (s : Snapshot) :
    ¬ Describes bytes s := by
  rintro ⟨text', other, d', ht', hd', -⟩
  cases readDocument_unique ht hd (by simp [hfault]) ht' hd'

lemma not_nestsDeeper {d : Document} (ht : String.fromUTF8? bytes = some text)
    (hd : Json.readDocument limit text = .ok d) : ¬ NestsDeeper limit bytes := by
  rintro ⟨text', ht', hlt⟩
  rw [ht] at ht'
  cases ht'
  exact absurd (Json.nesting_le_of_readDocument hd) (Nat.not_le.2 hlt)

/-- **What is found in a file**: exactly the snapshot that it describes, or nothing after one
warning. Only a text that is nested too deep for the limit and an infinite counter are beyond that,
and what is loaded is nested no deeper. -/
theorem start_content (h : f.HasContent files bytes) (limit : Nat) :
    (∃ s, f.openWithin limit files = ([.loaded s.tables.length f.path], .ok s) ∧
      Describes bytes s ∧ (∀ other, Describes bytes other → other = s) ∧
      ¬ NestsDeeper limit bytes) ∨
    (∃ notice, f.openWithin limit files = ([notice], .ok .empty) ∧
      notice.level = .warning ∧ ∀ s, ¬ Describes bytes s) ∨
    (f.openWithin limit files = ([], .error .tooDeep) ∧ NestsDeeper limit bytes) ∨
    (f.openWithin limit files = ([], .error .infiniteCounter) ∧ CountsToInfinity bytes) := by
  have hcontent : f.content? files = .ok (some bytes) := by
    rw [content?, h.name, h.bytes]
  unfold openWithin load document?
  simp only [h.directory, hcontent]
  cases ht : String.fromUTF8? bytes with
  | none =>
    refine .inr (.inl ⟨_, rfl, rfl, ?_⟩)
    rintro s ⟨text, _, _, ht', -⟩
    rw [ht] at ht'
    cases ht'
  | some text =>
    simp only
    cases hd : Json.readDocument limit text with
    | error fault =>
      cases fault with
      | tooDeep => exact .inr (.inr (.inl ⟨rfl, text, ht, Json.lt_nesting_of_tooDeep hd⟩))
      | unexpected _ | number _ =>
        exact .inr (.inl ⟨_, rfl, rfl, not_describes_of_error ht hd (by simp)⟩)
    | ok d =>
      simp only [describes_iff ht hd]
      cases d with
      | atom _ | array _ =>
        refine .inr (.inl ⟨_, rfl, rfl, fun s hs => ?_⟩)
        obtain ⟨ms, hms⟩ := hs.isObject
        cases hms
      | object members =>
        simp only [← Snapshot.ofDocument_eq_ok]
        cases hs : Snapshot.ofDocument (.object members) with
        | ok s =>
          refine .inl ⟨s, rfl, rfl, fun other hother => ?_, not_nestsDeeper ht hd⟩
          exact (Except.ok.inj hother).symm
        | error fault =>
          cases fault with
          | missing part | wrong part => exact .inr (.inl ⟨_, rfl, rfl, by simp⟩)
          | infiniteCounter =>
            exact .inr (.inr (.inr ⟨rfl, text, limit, _, ht, hd, Snapshot.ofDocument_infinite hs⟩))

/-! ### Three files -/

/-- One file, under the usual key in an ordinary directory. -/
def kept (bytes : ByteArray) : Files := Files.write [] (path ⟨"data", defaultKey⟩) bytes

lemma hasContent_kept (bytes : ByteArray) :
    HasContent ⟨"data", defaultKey⟩ (kept bytes) bytes where
  name := by decide
  directory := Files.directoryFault?_write ⟨by decide, by decide, by decide, by decide⟩ (by decide)
  bytes := bytes?_write _ _ _

/-- A snapshot of one table, with a list in its only cell. -/
def listInCell : String :=
  "\x7b\x22tables\x22:\x7b\x22t\x22:\x7b\x22columns\x22:[],\x22constraints\x22:\x7b\x7d," ++
    "\x22rows\x22:[\x7b\x22a\x22:[1]\x7d],\x22next_id\x22:1\x7d\x7d\x7d"

/-- The document that the text is. -/
def listInCellDocument : Document :=
  .object [(.ofString "tables", .object [(.ofString "t", .object [(.ofString "columns", .array []),
    (.ofString "constraints", .object []),
    (.ofString "rows", .array [.object [(.ofString "a", .array [.atom (.int 1)])]]),
    (.ofString "next_id", .atom (.int 1))])])]

lemma readDocument_listInCell : Json.readDocument 10 listInCell = .ok listInCellDocument := by
  cbv

lemma not_hasInfiniteCounter_listInCell : ¬ Snapshot.HasInfiniteCounter listInCellDocument := by
  rintro ⟨tables, htables, m, hm, x, hx, negative, rfl⟩
  cases htables
  obtain rfl := List.mem_singleton.1 hm
  cases hx

/-- A byte that starts no character. -/
def noText : ByteArray := ⟨#[0xff]⟩

theorem start_content_listAndNoText :
    HasContent ⟨"data", defaultKey⟩ (kept listInCell.toUTF8) listInCell.toUTF8 ∧
      (∃ s, openWithin 10 ⟨"data", defaultKey⟩ (kept listInCell.toUTF8) =
        ([.loaded 1 (path ⟨"data", defaultKey⟩)], .ok s)) ∧
      HasContent ⟨"data", defaultKey⟩ (kept noText) noText ∧
      ∃ notice, openWithin 10 ⟨"data", defaultKey⟩ (kept noText) = ([notice], .ok .empty) ∧
        notice.level = .warning := by
  have hlist := Text.fromUTF8?_toUTF8 listInCell
  have hnone : String.fromUTF8? noText = none := by decide
  refine ⟨hasContent_kept _, ?_, hasContent_kept noText, ?_⟩
  · obtain ⟨s, hs⟩ : ∃ s, Snapshot.ofDocument listInCellDocument = .ok s ∧ s.tables.length = 1 :=
      ⟨_, rfl, rfl⟩
    have hdescribes : Describes listInCell.toUTF8 s :=
      ⟨_, _, _, hlist, readDocument_listInCell, Snapshot.ofDocument_eq_ok.1 hs.1⟩
    rcases start_content (hasContent_kept listInCell.toUTF8) 10 with
      ⟨other, hopen, -, hunique, -⟩ | ⟨-, -, -, h⟩ | ⟨-, h⟩ | ⟨-, h⟩
    · exact ⟨other, by rw [hopen, ← hunique s hdescribes, hs.2]⟩
    · exact absurd hdescribes (h s)
    · exact absurd h (not_nestsDeeper hlist readDocument_listInCell)
    · obtain ⟨text, other, d, ht, hd, hinfinite⟩ := h
      cases readDocument_unique hlist readDocument_listInCell (by simp) ht hd
      exact absurd hinfinite not_hasInfiniteCounter_listInCell
  · rcases start_content (hasContent_kept noText) 10 with
      ⟨_, -, h, -⟩ | ⟨notice, h, hlevel, -⟩ | ⟨-, h⟩ | ⟨-, h⟩
    · obtain ⟨_, _, _, hs, -⟩ := h
      rw [hnone] at hs
      cases hs
    · exact ⟨notice, h, hlevel⟩
    · obtain ⟨_, hs, -⟩ := h
      rw [hnone] at hs
      cases hs
    · obtain ⟨_, _, _, hs, -⟩ := h
      rw [hnone] at hs
      cases hs

/-- A snapshot of one table whose counter is infinite. -/
def infinite : String :=
  "\x7b\x22tables\x22:\x7b\x22t\x22:\x7b\x22columns\x22:[],\x22constraints\x22:\x7b\x7d," ++
    "\x22rows\x22:[],\x22next_id\x22:Infinity\x7d\x7d,\x22indexes\x22:\x7b\x7d\x7d"

/-- The document that the text is. -/
def infiniteDocument : Document :=
  .object [(.ofString "tables", .object [(.ofString "t", .object [(.ofString "columns", .array []),
    (.ofString "constraints", .object []), (.ofString "rows", .array []),
    (.ofString "next_id", .atom (.real (.infinite false)))])]),
    (.ofString "indexes", .object [])]

lemma readDocument_infinite : Json.readDocument 10 infinite = .ok infiniteDocument := by
  cbv

/-- **A snapshot can keep a file from being opened**, though nothing is in the way of it. -/
theorem start_infinite :
    HasContent ⟨"data", defaultKey⟩ (kept infinite.toUTF8) infinite.toUTF8 ∧
      openWithin 10 ⟨"data", defaultKey⟩ (kept infinite.toUTF8) = ([], .error .infiniteCounter) := by
  have hkept := hasContent_kept infinite.toUTF8
  refine ⟨hkept, ?_⟩
  unfold openWithin load document? content?
  simp only [hkept.directory, hkept.name, hkept.bytes, Text.fromUTF8?_toUTF8, readDocument_infinite]
  rfl

end SnapshotFile

end Tabula
