import Tabula.Proofs.Except
import Tabula.Snapshot

/-!
What a document describes.

A document describes a snapshot if its parts describe the parts of the snapshot: names, types,
constraints and cells as they stand there, rows by their cells in order, counters by what they
count. Main statements: a snapshot is read exactly if it is described by the document, and only an
infinite counter is beyond what is reported as malformed.
-/

namespace Tabula

lemma Wide.string?_eq_some {w : Wide} {s : String} : w.string? = some s ↔ w = ofString s := by
  have hchars : ∀ cs : List Char, w.mapM CodePoint.char? = some cs ↔ w = cs.map .char := by
    induction w with
    | nil => intro cs; cases cs <;> simp
    | cons c w ih =>
      intro cs
      cases c with
      | half unit => cases cs <;> simp [CodePoint.char?]
      | char c => cases cs <;> simp [CodePoint.char?, Option.bind_eq_some_iff, ih, and_comm]
  rw [string?, Option.map_eq_some_iff, ofString]
  constructor
  · rintro ⟨cs, hcs, rfl⟩
    rw [String.toList_ofList]
    exact (hchars cs).1 hcs
  · exact fun h => ⟨s.toList, (hchars _).2 h, String.ofList_toList⟩

namespace Document

/-- What a document lists: its items, the names of its members, or its characters. -/
inductive Lists : Document → List Document → Prop
  | items (xs : List Document) : Lists (.array xs) xs
  | names (ms : List (Wide × Document)) : Lists (.object ms) (ms.map fun m => .text m.1)
  | characters (s : Wide) : Lists (.text s) (s.map fun c => .text [c])

/-- The whole number that a document stands for. -/
inductive Counts : Document → Int → Prop
  | int (n : Int) : Counts (.atom (.int n)) n
  | bool (b : Bool) : Counts (.atom (.bool b)) (if b then 1 else 0)
  | real {x : Binary64} {n : Int} (h : x.truncate? = some n) : Counts (.atom (.real x)) n
  | text {s : String} {n : Int} (h : Numeral.readInt? s.toList = some (.ok n)) :
    Counts (.text (Wide.ofString s)) n

def IsInfinite (d : Document) : Prop := ∃ negative, d = .atom (.real (.infinite negative))

end Document

namespace Snapshot

/-- A row is described by an object, or by a list of pairs of which later ones of a label count. -/
inductive Row.DescribedBy : Row → Document → Prop
  | members (ms : List (Wide × Document)) :
    DescribedBy (ms.map fun m => (.text m.1, m.2)) (.object ms)
  | pairs {d : Document} {items : List Document} {cells : List (Atom × Document)}
    (hd : ∀ ms, d ≠ .object ms) (hl : d.Lists items)
    (h : List.Forall₂ (fun x c => x.Lists [.atom c.1, c.2]) items cells) :
    DescribedBy (Keyed.ofList cells) d

def Row.AllDescribedBy (rows : List Row) (d : Document) : Prop :=
  ∃ items, d.Lists items ∧ List.Forall₂ (fun x row => Row.DescribedBy row x) items rows

structure Column.DescribedBy (c : Column) (d : Document) : Prop where
  name : d.member? "name" = some c.name
  declared : d.member? "type" = some c.declared

/-- Without a primary key there is none, and without a list no column is unique. -/
structure ConstraintsDescribedBy (primaryKey : Document) (unique : List Document)
    (ms : List (Wide × Document)) : Prop where
  primaryKey : primaryKey = (Keyed.find? ms (Wide.ofString "primary_key")).getD .null
  unique : (Keyed.find? ms (Wide.ofString "unique") = none ∧ unique = []) ∨
    ∃ x, Keyed.find? ms (Wide.ofString "unique") = some x ∧ x.Lists unique

structure Table.DescribedBy (t : Table) (d : Document) : Prop where
  columns : ∃ x items, d.member? "columns" = some x ∧ x.Lists items ∧
    List.Forall₂ (fun y c => Column.DescribedBy c y) items t.columns
  constraints : ∃ ms, d.member? "constraints" = some (.object ms) ∧
    ConstraintsDescribedBy t.primaryKey t.unique ms
  rows : ∃ x, d.member? "rows" = some x ∧ Row.AllDescribedBy t.rows x
  counter : ∃ x, d.member? "next_id" = some x ∧ x.Counts t.counter

/-- An entry is described by a pair of its value and its rows. -/
def EntryDescribedBy (e : Atom × List Row) (d : Document) : Prop :=
  ∃ rows, d.Lists [.atom e.1, rows] ∧ Row.AllDescribedBy e.2 rows

/-- Of the entries of one value the last one counts. -/
structure Index.DescribedBy (i : Index) (d : Document) : Prop where
  name : d.member? "name" = some i.name
  table : d.member? "table" = some i.table
  column : d.member? "column" = some i.column
  entries : ∃ x items es, d.member? "entries" = some x ∧ x.Lists items ∧
    List.Forall₂ (fun y e => EntryDescribedBy e y) items es ∧ i.entries = Keyed.ofList es

/-- What is described under the names of a member, which need not be there. -/
def NamesDescribedBy {α : Type} (P : α → Document → Prop) (xs : List (Wide × α))
    (member : Option Document) : Prop :=
  (member = none ∧ xs = []) ∨
    ∃ ms, member = some (.object ms) ∧ List.Forall₂ (fun m x => x.1 = m.1 ∧ P x.2 m.2) ms xs

structure DescribedBy (s : Snapshot) (d : Document) : Prop where
  isObject : ∃ ms, d = .object ms
  tables : NamesDescribedBy Table.DescribedBy s.tables (d.member? "tables")
  indexes : NamesDescribedBy Index.DescribedBy s.indexes (d.member? "indexes")

/-- A table of the document has a counter that is infinite. -/
def HasInfiniteCounter (d : Document) : Prop :=
  ∃ tables, d.member? "tables" = some (.object tables) ∧
    ∃ m ∈ tables, ∃ x, m.2.member? "next_id" = some x ∧ x.IsInfinite

variable {part name : String} {d : Document} {items : List Document}

/-! ### What each reader reads -/

lemma member_eq_ok {x : Document} : member name d = .ok x ↔ d.member? name = some x := by
  unfold member
  cases d.member? name <;> simp

lemma members_eq_ok {ms : List (Wide × Document)} : members part d = .ok ms ↔ d = .object ms := by
  cases d <;> simp [members]

lemma readAtom_eq_ok {a : Atom} : readAtom part d = .ok a ↔ d = .atom a := by
  cases d <;> simp [readAtom]

lemma listed_eq_ok : listed part d = .ok items ↔ d.Lists items := by
  constructor
  · intro h
    unfold listed at h
    split at h
    · cases h
      exact .items _
    · cases h
      exact .names _
    · cases h
      exact .characters _
    · cases h
  · rintro (_ | _ | _) <;> rfl

lemma readPair_eq_ok {x y : Document} : readPair part d = .ok (x, y) ↔ d.Lists [x, y] := by
  rw [readPair, bind_eq_ok]
  constructor
  · rintro ⟨items, hl, h⟩
    split at h
    · cases h
      exact listed_eq_ok.1 hl
    · cases h
  · exact fun h => ⟨_, listed_eq_ok.2 h, rfl⟩

lemma readCell_eq_ok {c : Atom × Document} :
    readCell d = .ok c ↔ d.Lists [.atom c.1, c.2] := by
  simp only [readCell, bind_eq_ok, Prod.exists, readPair_eq_ok, readAtom_eq_ok]
  constructor
  · rintro ⟨x, y, hl, a, rfl, h⟩
    cases h
    exact hl
  · exact fun hl => ⟨_, _, hl, _, rfl, rfl⟩

lemma readRow_eq_ok {row : Row} : readRow d = .ok row ↔ row.DescribedBy d := by
  constructor
  · intro h
    unfold readRow at h
    split at h
    · cases h
      exact .members _
    · rename_i hd
      obtain ⟨items, hl, h⟩ := bind_eq_ok.1 h
      obtain ⟨cells, hcells, h⟩ := bind_eq_ok.1 h
      cases h
      exact .pairs hd (listed_eq_ok.1 hl)
        ((mapM_eq_ok.1 hcells).imp fun x c hc => readCell_eq_ok.1 hc)
  · rintro (_ | ⟨hd, hl, h⟩)
    · rfl
    · have hcells := mapM_eq_ok.2 (h.imp fun x c hc => readCell_eq_ok.2 hc)
      unfold readRow
      split
      · exact absurd rfl (hd _)
      · exact bind_eq_ok.2 ⟨_, listed_eq_ok.2 hl, bind_eq_ok.2 ⟨_, hcells, rfl⟩⟩

lemma readRows_eq_ok {rows : List Row} : readRows d = .ok rows ↔ Row.AllDescribedBy rows d := by
  simp only [readRows, bind_eq_ok, listed_eq_ok, mapM_eq_ok, readRow_eq_ok, Row.AllDescribedBy]

lemma readColumn_eq_ok {c : Column} : readColumn d = .ok c ↔ c.DescribedBy d := by
  simp only [readColumn, bind_eq_ok, member_eq_ok]
  constructor
  · rintro ⟨n, hn, x, hx, h⟩
    cases h
    exact ⟨hn, hx⟩
  · exact fun h => ⟨_, h.name, _, h.declared, rfl⟩

lemma readConstraints_eq_ok {primaryKey : Document} {unique : List Document} :
    readConstraints d = .ok (primaryKey, unique) ↔
      ∃ ms, d = .object ms ∧ ConstraintsDescribedBy primaryKey unique ms := by
  rw [readConstraints, bind_eq_ok]
  simp only [members_eq_ok]
  refine exists_congr fun ms => and_congr_right fun _ => ?_
  cases hx : Keyed.find? ms (Wide.ofString "unique") with
  | none =>
    constructor
    · intro h
      cases h
      exact ⟨rfl, .inl ⟨hx, rfl⟩⟩
    · rintro ⟨rfl, ⟨-, rfl⟩ | ⟨x, hu, -⟩⟩
      · rfl
      · rw [hx] at hu
        cases hu
  | some x =>
    constructor
    · intro h
      obtain ⟨found, hu, h⟩ := bind_eq_ok.1 h
      cases h
      exact ⟨rfl, .inr ⟨x, hx, listed_eq_ok.1 hu⟩⟩
    · rintro ⟨rfl, ⟨hu, -⟩ | ⟨y, hy, hu⟩⟩
      · rw [hx] at hu
        cases hu
      · rw [hx] at hy
        cases hy
        exact bind_eq_ok.2 ⟨_, listed_eq_ok.2 hu, rfl⟩

lemma readCounter_eq_ok {n : Int} : readCounter d = .ok n ↔ d.Counts n := by
  constructor
  · intro h
    unfold readCounter at h
    split at h
    · cases h
      exact .int n
    · cases h
      exact .bool _
    · cases h
    · split at h
      · cases h
        exact .real ‹_›
      · cases h
    · split at h
      · rename_i hread
        cases h
        obtain ⟨s, hs, hread⟩ := Option.bind_eq_some_iff.1 hread
        rw [Wide.string?_eq_some.1 hs]
        exact .text hread
      · cases h
    · cases h
  · rintro (_ | _ | hx | hs)
    · rfl
    · rfl
    · rename_i x
      cases x with
      | infinite negative => cases hx
      | finite _ _ | nan _ => simp only [readCounter, hx]
    · simp only [Document.text, readCounter, Wide.string?_ofString, Option.bind_some, hs]

lemma readTable_eq_ok {t : Table} : readTable d = .ok t ↔ t.DescribedBy d := by
  simp only [readTable, bind_eq_ok, member_eq_ok, listed_eq_ok, mapM_eq_ok, readColumn_eq_ok,
    Prod.exists, readConstraints_eq_ok, readRows_eq_ok, readCounter_eq_ok]
  constructor
  · rintro ⟨_, hk, x, hx, items, hl, columns, hcolumns, primaryKey, unique, ⟨ms, rfl, hms⟩, y, hy,
      rows, hrows, z, hz, counter, hcounter, h⟩
    cases h
    exact ⟨⟨x, items, hx, hl, hcolumns⟩, ⟨ms, hk, hms⟩, ⟨y, hy, hrows⟩, ⟨z, hz, hcounter⟩⟩
  · rintro ⟨⟨x, items, hx, hl, hcolumns⟩, ⟨ms, hk, hms⟩, ⟨y, hy, hrows⟩, ⟨z, hz, hcounter⟩⟩
    exact ⟨_, hk, x, hx, items, hl, _, hcolumns, _, _, ⟨ms, rfl, hms⟩, y, hy, _, hrows, z, hz, _,
      hcounter, rfl⟩

lemma readEntry_eq_ok {e : Atom × List Row} : readEntry d = .ok e ↔ EntryDescribedBy e d := by
  simp only [readEntry, bind_eq_ok, Prod.exists, readPair_eq_ok, readAtom_eq_ok, readRows_eq_ok]
  constructor
  · rintro ⟨_, x, hl, a, rfl, rows, hrows, h⟩
    cases h
    exact ⟨x, hl, hrows⟩
  · exact fun ⟨x, hl, hrows⟩ => ⟨_, x, hl, _, rfl, _, hrows, rfl⟩

lemma readIndex_eq_ok {i : Index} : readIndex d = .ok i ↔ i.DescribedBy d := by
  simp only [readIndex, bind_eq_ok, member_eq_ok, listed_eq_ok, mapM_eq_ok, readEntry_eq_ok]
  constructor
  · rintro ⟨_, hname, _, htable, _, hcolumn, x, hx, items, hl, es, hes, h⟩
    cases h
    exact ⟨hname, htable, hcolumn, x, items, es, hx, hl, hes, rfl⟩
  · rintro ⟨hname, htable, hcolumn, x, items, es, hx, hl, hes, hentries⟩
    refine ⟨_, hname, _, htable, _, hcolumn, x, hx, items, hl, es, hes, ?_⟩
    rw [← hentries]
    rfl

lemma readAll_eq_ok {α : Type} {read : Document → Result α} {P : α → Document → Prop}
    {ms : List (Wide × Document)} {xs : List (Wide × α)}
    (hread : ∀ {d a}, read d = .ok a ↔ P a d) :
    readAll read ms name = .ok xs ↔ NamesDescribedBy P xs ((Document.object ms).member? name) := by
  unfold readAll NamesDescribedBy
  change _ ↔ (Keyed.find? ms (Wide.ofString name) = none ∧ _) ∨
    ∃ found, Keyed.find? ms (Wide.ofString name) = _ ∧ _
  cases Keyed.find? ms (Wide.ofString name) with
  | none => simp [eq_comm]
  | some d =>
    have hitem : ∀ (m : Wide × Document) (x : Wide × α),
        (do return (m.1, ← read m.2) : Result (Wide × α)) = .ok x ↔ x.1 = m.1 ∧ P x.2 m.2 := by
      intro m x
      rw [bind_eq_ok]
      constructor
      · rintro ⟨a, ha, h⟩
        cases h
        exact ⟨rfl, hread.1 ha⟩
      · rintro ⟨hname, hx⟩
        exact ⟨x.2, hread.2 hx, congrArg Except.ok (Prod.ext hname.symm rfl)⟩
    simp only [bind_eq_ok, members_eq_ok, mapM_eq_ok, hitem, reduceCtorEq, false_and, false_or,
      Option.some.injEq]

/-- **A snapshot is read exactly if it is described.** So a document describes one at most. -/
theorem ofDocument_eq_ok {s : Snapshot} : ofDocument d = .ok s ↔ s.DescribedBy d := by
  simp only [ofDocument, bind_eq_ok, members_eq_ok, readAll_eq_ok readTable_eq_ok,
    readAll_eq_ok readIndex_eq_ok]
  constructor
  · rintro ⟨ms, rfl, tables, htables, indexes, hindexes, h⟩
    cases h
    exact ⟨⟨ms, rfl⟩, htables, hindexes⟩
  · rintro ⟨⟨ms, rfl⟩, htables, hindexes⟩
    exact ⟨ms, rfl, _, htables, _, hindexes, rfl⟩

/-! ### Infinite counters -/

lemma readCounter_infinite (h : readCounter d = .error .infiniteCounter) : d.IsInfinite := by
  unfold readCounter at h
  split at h
  · cases h
  · cases h
  · exact ⟨_, rfl⟩
  · split at h <;> cases h
  · split at h <;> cases h
  · cases h

/-- The readers that never come to a counter. -/
def Spares {α : Type} (x : Result α) : Prop := x ≠ .error .infiniteCounter

section Spares

variable {α β : Type}

lemma Spares.bind {x : Result α} {f : α → Result β} (hx : Spares x) (hf : ∀ a, Spares (f a)) :
    Spares (x >>= f) := by
  intro h
  rcases bind_eq_error.1 h with h | ⟨a, -, h⟩
  · exact hx h
  · exact hf a h

/-- Where a reader that spares counters stands first, it is not the one that fails. -/
lemma Spares.bind_infinite {x : Result α} {f : α → Result β} (hx : Spares x)
    (h : x >>= f = .error .infiniteCounter) : ∃ a, x = .ok a ∧ f a = .error .infiniteCounter :=
  (bind_eq_error.1 h).resolve_left hx

lemma spares_pure (a : α) : Spares (pure a : Result α) := by simp [Spares, pure, Except.pure]

lemma Spares.mapM {f : α → Result β} (h : ∀ a, Spares (f a)) (xs : List α) : Spares (xs.mapM f) :=
  fun he => let ⟨x, _, hx⟩ := mapM_eq_error he; h x hx

end Spares

lemma spares_member (name : String) (d : Document) : Spares (member name d) := by
  unfold member
  split <;> simp [Spares]

lemma spares_members (part : String) (d : Document) : Spares (members part d) := by
  unfold members
  split <;> simp [Spares]

lemma spares_listed (part : String) (d : Document) : Spares (listed part d) := by
  unfold listed
  split <;> simp [Spares]

lemma spares_readAtom (part : String) (d : Document) : Spares (readAtom part d) := by
  unfold readAtom
  split <;> simp [Spares]

lemma spares_readPair (part : String) (d : Document) : Spares (readPair part d) := by
  refine (spares_listed part d).bind fun items => ?_
  split
  · exact spares_pure _
  · simp [Spares, throw, throwThe, MonadExceptOf.throw]

lemma spares_readCell (d : Document) : Spares (readCell d) :=
  (spares_readPair _ d).bind fun _ => (spares_readAtom _ _).bind fun _ => spares_pure _

lemma spares_readRow (d : Document) : Spares (readRow d) := by
  unfold readRow
  split
  · simp [Spares]
  · exact (spares_listed _ d).bind fun _ => (Spares.mapM spares_readCell _).bind fun _ =>
      spares_pure _

lemma spares_readRows (d : Document) : Spares (readRows d) :=
  (spares_listed _ d).bind fun _ => .mapM spares_readRow _

lemma spares_readColumn (d : Document) : Spares (readColumn d) :=
  (spares_member _ d).bind fun _ => (spares_member _ d).bind fun _ => spares_pure _

lemma spares_readConstraints (d : Document) : Spares (readConstraints d) := by
  refine (spares_members _ d).bind fun ms => ?_
  split
  · exact (spares_listed _ _).bind fun _ => spares_pure _
  · exact (spares_pure _).bind fun _ => spares_pure _

lemma spares_readEntry (d : Document) : Spares (readEntry d) :=
  (spares_readPair _ d).bind fun _ => (spares_readAtom _ _).bind fun _ =>
    (spares_readRows _).bind fun _ => spares_pure _

lemma spares_readIndex (d : Document) : Spares (readIndex d) :=
  (spares_member _ _).bind fun _ => (spares_member _ _).bind fun _ =>
    (spares_member _ _).bind fun _ => (spares_member _ _).bind fun _ =>
      (spares_listed _ _).bind fun _ => (Spares.mapM spares_readEntry _).bind fun _ => spares_pure _

lemma readTable_infinite (h : readTable d = .error .infiniteCounter) :
    ∃ x, d.member? "next_id" = some x ∧ x.IsInfinite := by
  obtain ⟨_, -, h⟩ := (spares_member _ _).bind_infinite h
  obtain ⟨_, -, h⟩ := (spares_member _ _).bind_infinite h
  obtain ⟨_, -, h⟩ := (spares_listed _ _).bind_infinite h
  obtain ⟨_, -, h⟩ := (Spares.mapM spares_readColumn _).bind_infinite h
  obtain ⟨_, -, h⟩ := (spares_readConstraints _).bind_infinite h
  obtain ⟨_, -, h⟩ := (spares_member _ _).bind_infinite h
  obtain ⟨_, -, h⟩ := (spares_readRows _).bind_infinite h
  obtain ⟨x, hx, h⟩ := (spares_member _ _).bind_infinite h
  rcases bind_eq_error.1 h with h | ⟨_, -, h⟩
  · exact ⟨x, member_eq_ok.1 hx, readCounter_infinite h⟩
  · cases h

/-- What fails under the names of a member fails under one of them. -/
lemma readAll_infinite {α : Type} {read : Document → Result α} {ms : List (Wide × Document)}
    (h : readAll read ms name = .error .infiniteCounter) :
    ∃ found, (Document.object ms).member? name = some (.object found) ∧
      ∃ m ∈ found, read m.2 = .error .infiniteCounter := by
  unfold readAll at h
  change ∃ found, Keyed.find? ms (Wide.ofString name) = _ ∧ _
  split at h
  · cases h
  · rename_i d hd
    obtain ⟨found, hfound, h⟩ := (spares_members _ _).bind_infinite h
    obtain ⟨m, hm, h⟩ := mapM_eq_error h
    refine ⟨found, by rw [hd, members_eq_ok.1 hfound], m, hm, ?_⟩
    rcases bind_eq_error.1 h with h | ⟨_, -, h⟩
    · exact h
    · cases h

/-- **Only an infinite counter is beyond what is reported as malformed.** -/
theorem ofDocument_infinite (h : ofDocument d = .error .infiniteCounter) :
    HasInfiniteCounter d := by
  obtain ⟨ms, hms, h⟩ := (spares_members _ d).bind_infinite h
  rw [members_eq_ok.1 hms]
  rcases bind_eq_error.1 h with h | ⟨_, -, h⟩
  · obtain ⟨found, hfound, m, hm, h⟩ := readAll_infinite h
    exact ⟨found, hfound, m, hm, readTable_infinite h⟩
  · rcases bind_eq_error.1 h with h | ⟨_, -, h⟩
    · obtain ⟨_, -, m, -, h⟩ := readAll_infinite h
      exact absurd h (spares_readIndex m.2)
    · cases h

end Snapshot

end Tabula
