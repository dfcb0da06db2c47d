import Mathlib.Data.List.ProdSigma
import Mathlib.Data.Multiset.Bind
import Tabula.Proofs.Database.Formed
import Tabula.Proofs.Value.Order

/-!
Joins.

A join is made of the pairs of a left and a right row whose operands are loosely equal. In the row
of a pair every cell is found under the name of its table and its own, and since names of tables
have no points both rows can be read off it again.
-/

namespace Tabula

/-! ### Qualified labels -/

namespace Label

/-- The label without the name of a table before it. -/
def unqualified? (table : String) (l : Label) : Option Label :=
  l.name?.bind fun s =>
    (s.toList.dropPrefix? (table ++ ".").toList).map fun rest => .name (String.ofList rest)

lemma unqualified?_same (table s : String) :
    unqualified? table (.name (table ++ "." ++ s)) = some (.name s) := by
  have hdrop : (table ++ "." ++ s).toList.dropPrefix? (table ++ ".").toList = some s.toList := by
    rw [String.toList_append]
    exact List.dropPrefix?_append_of_beq _ (beq_self_eq_true _)
  rw [unqualified?, name?, name]
  dsimp only
  rw [Option.bind_some, hdrop, Option.map_some, String.ofList_toList]

/-- Names without points are told apart by what stands before the first point. -/
lemma eq_of_point {xs ys as bs : List Char} (hx : '.' ∉ xs) (hy : '.' ∉ ys)
    (h : xs ++ '.' :: as = ys ++ '.' :: bs) : xs = ys := by
  have htake : ∀ {zs cs : List Char}, '.' ∉ zs → (zs ++ '.' :: cs).takeWhile (· != '.') = zs := by
    intro zs cs hz
    rw [List.takeWhile_append_of_pos fun c hc => by simpa using ne_of_mem_of_not_mem hc hz]
    simp
  rw [← @htake xs as hx, h, htake hy]

lemma unqualified?_other {table other : String} (ht : '.' ∉ table.toList)
    (ho : '.' ∉ other.toList) (h : table ≠ other) (s : String) :
    unqualified? other (.name (table ++ "." ++ s)) = none := by
  rw [unqualified?, name?, name]
  dsimp only
  rw [Option.bind_some, Option.map_eq_none_iff, Option.eq_none_iff_forall_ne_some]
  intro rest hrest
  obtain ⟨front, happend, hfront⟩ := List.dropPrefix?_eq_some_iff.1 hrest
  rw [beq_iff_eq] at hfront
  rw [hfront] at happend
  refine h (String.toList_injective (@eq_of_point _ _ s.toList rest ht ho ?_))
  simpa using happend

end Label

/-! ### Joined rows -/

namespace Row

variable {left right table other : String} {row : Row}

/-- The row of a pair. -/
def joined (left right : String) (p : Row × Row) : Row :=
  Database.qualified left p.1 ++ Database.qualified right p.2

/-- The cells of a table, under their own names again. -/
def ofTable (table : String) (row : Row) : Row :=
  row.filterMap fun c => (c.1.unqualified? table).map (·, c.2)

lemma qualified_cons (table s : String) (v : Value) (row : Row) :
    Database.qualified table ((.name s, v) :: row) =
      (.name (table ++ "." ++ s), v) :: Database.qualified table row := rfl

lemma ofTable_append (table : String) (row more : Row) :
    ofTable table (row ++ more) = ofTable table row ++ ofTable table more :=
  List.filterMap_append

lemma ofTable_same (table : String) (h : row.Named) :
    ofTable table (Database.qualified table row) = row := by
  induction row with
  | nil => rfl
  | cons c row ih =>
    obtain ⟨l, v⟩ := c
    obtain ⟨⟨s, hs⟩, hrow⟩ := List.forall_mem_cons.1 h
    dsimp only at hs
    rw [hs, qualified_cons, ofTable, List.filterMap_cons, Label.unqualified?_same]
    exact congrArg _ (ih hrow)

lemma ofTable_other (ht : '.' ∉ table.toList) (ho : '.' ∉ other.toList) (h : table ≠ other)
    (hn : row.Named) : ofTable other (Database.qualified table row) = [] := by
  induction row with
  | nil => rfl
  | cons c row ih =>
    obtain ⟨l, v⟩ := c
    obtain ⟨⟨s, hs⟩, hrow⟩ := List.forall_mem_cons.1 hn
    dsimp only at hs
    rw [hs, qualified_cons, ofTable, List.filterMap_cons, Label.unqualified?_other ht ho h]
    exact ih hrow

/-- What a joined row is made of: the cells of the left table are the left row, those of the right
table are the right row, there are no others, and none is there twice. -/
structure JoinOf (left right : String) (p : Row × Row) (row : Row) : Prop where
  ofLeft : ofTable left row = p.1
  ofRight : ofTable right row = p.2
  ofBoth : ∀ c ∈ row, (c.1.unqualified? left).isSome ≠ (c.1.unqualified? right).isSome
  distinct : Keyed.Distinct (Keyed.keys row)

lemma exists_of_mem_qualified {c : Label × Value}
    (hc : c ∈ Database.qualified table row) : ∃ s, c.1 = .name (table ++ "." ++ s) := by
  obtain ⟨d, -, rfl⟩ := List.mem_map.1 hc
  exact ⟨d.1.plain, rfl⟩

lemma distinct_qualified (table : String) (hn : row.Named) (hd : Keyed.Distinct (Keyed.keys row)) :
    Keyed.Distinct (Keyed.keys (Database.qualified table row)) := by
  unfold Keyed.Distinct Keyed.keys Database.qualified at *
  rw [List.map_map, List.pairwise_map]
  refine (List.pairwise_map.1 hd).imp_of_mem fun {c d} hc hd hne => ?_
  obtain ⟨s, hs⟩ := hn c hc
  obtain ⟨u, hu⟩ := hn d hd
  rw [hs, hu, Label.same_name, beq_eq_false_iff_ne] at hne
  rw [Function.comp, Function.comp, hs, hu, Label.same_name, beq_eq_false_iff_ne]
  intro heq
  exact hne (by simpa [Label.plain, Label.name, Value.plain] using heq)

/-- **Nothing is lost and nothing is mixed up** in the row of a pair. -/
theorem joinOf_joined {p : Row × Row} (hl : '.' ∉ left.toList) (hr : '.' ∉ right.toList)
    (hne : left ≠ right) (hleft : p.1.Named) (hright : p.2.Named)
    (hdl : Keyed.Distinct (Keyed.keys p.1)) (hdr : Keyed.Distinct (Keyed.keys p.2)) :
    JoinOf left right p (joined left right p) where
  ofLeft := by
    rw [joined, ofTable_append, ofTable_same left hleft, ofTable_other hr hl hne.symm hright,
      List.append_nil]
  ofRight := by
    rw [joined, ofTable_append, ofTable_other hl hr hne hleft, ofTable_same right hright,
      List.nil_append]
  ofBoth := by
    intro c hc
    rcases List.mem_append.1 hc with hc | hc
    · obtain ⟨s, hs⟩ := exists_of_mem_qualified hc
      rw [hs, Label.unqualified?_same, Label.unqualified?_other hl hr hne]
      simp
    · obtain ⟨s, hs⟩ := exists_of_mem_qualified hc
      rw [hs, Label.unqualified?_same, Label.unqualified?_other hr hl hne.symm]
      simp
  distinct := by
    unfold joined Keyed.Distinct Keyed.keys
    rw [List.map_append, List.pairwise_append]
    refine ⟨distinct_qualified left hleft hdl, distinct_qualified right hright hdr, ?_⟩
    intro k hk m hm
    obtain ⟨c, hc, rfl⟩ := List.mem_map.1 hk
    obtain ⟨d, hd, rfl⟩ := List.mem_map.1 hm
    obtain ⟨s, hs⟩ := exists_of_mem_qualified hc
    obtain ⟨u, hu⟩ := exists_of_mem_qualified hd
    rw [hs, hu, Label.same_name, beq_eq_false_iff_ne]
    intro heq
    have hsame := Label.unqualified?_same left s
    rw [heq, Label.unqualified?_other hr hl hne.symm] at hsame
    cases hsame

end Row

/-! ### The pairs of a join -/

/-- The pairs of rows whose cells are loosely equal, by the left row and then by the right one. -/
def matching (a b : String) (lefts rights : List Row) : List (Row × Row) :=
  (lefts ×ˢ rights).filter fun p => (Row.cell p.1 a).looselyEqual (Row.cell p.2 b) = .ok true

/-- Whether the cells of any two rows can be compared. -/
def Comparable (a b : String) (lefts rights : List Row) : Prop :=
  ∀ l ∈ lefts, ∀ r ∈ rights, ∃ equal, (Row.cell l a).looselyEqual (Row.cell r b) = .ok equal

/-- The same rows, up to their order and that of their cells. -/
def SameRows (rows others : List Row) : Prop :=
  ∃ between, rows.Perm between ∧ List.Forall₂ List.Perm between others

section Matching

variable {left right a b : String} {l : Row} {lefts rights : List Row}

lemma matching_cons (a b : String) (l : Row) (lefts rights : List Row) :
    matching a b (l :: lefts) rights =
      matching a b [l] rights ++ matching a b lefts rights := by
  simp [matching, List.product_cons]

lemma matching_singleton_cons {r : Row} {equal : Bool}
    (h : (Row.cell l a).looselyEqual (Row.cell r b) = .ok equal) (rights : List Row) :
    matching a b [l] (r :: rights) =
      if equal then (l, r) :: matching a b [l] rights else matching a b [l] rights := by
  cases equal <;> simp [matching, List.product_cons, h]

lemma mem_of_mem_matching {p : Row × Row} (h : p ∈ matching a b lefts rights) :
    p.1 ∈ lefts ∧ p.2 ∈ rights :=
  List.pair_mem_product.1 (List.mem_filter.1 h).1

lemma Comparable.swap (h : Comparable a b lefts rights) : Comparable b a rights lefts := by
  intro r hr l hl
  rw [Value.looselyEqual_comm]
  exact h l hl r hr

/-- Exchanging the tables exchanges the rows of each pair. -/
lemma matching_swap (a b : String) (lefts rights : List Row) :
    (matching b a rights lefts).Perm ((matching a b lefts rights).map Prod.swap) := by
  have hproduct : (rights ×ˢ lefts).Perm ((lefts ×ˢ rights).map Prod.swap) := by
    rw [← Multiset.coe_eq_coe, ← Multiset.map_coe, ← Multiset.coe_product, ← Multiset.coe_product,
      Multiset.map_swap_product]
  have hfilter := hproduct.filter fun p =>
    (Row.cell p.1 b).looselyEqual (Row.cell p.2 a) = .ok true
  rw [List.filter_map] at hfilter
  have hsame : ∀ p : Row × Row, (Row.cell p.2 b).looselyEqual (Row.cell p.1 a) =
      (Row.cell p.1 a).looselyEqual (Row.cell p.2 b) := fun p => Value.looselyEqual_comm _ _
  simpa [matching, Function.comp_def, hsame] using hfilter

/-- **Exchanging the tables of a join changes nothing but the order.** -/
theorem sameRows_swap (left right a b : String) (lefts rights : List Row) :
    SameRows ((matching b a rights lefts).map (Row.joined right left))
      ((matching a b lefts rights).map (Row.joined left right)) := by
  refine ⟨_, (matching_swap a b lefts rights).map _, ?_⟩
  rw [List.map_map, List.forall₂_map_left_iff, List.forall₂_map_right_iff]
  exact List.forall₂_same.2 fun p _ => List.perm_append_comm

end Matching

namespace Database

variable {left right a b : String} {l : Row} {lefts rights : List Row}

/-- One left row is paired with each right row that matches. -/
lemma pairUp_eq (hc : ∀ r ∈ rights, ∃ equal,
      (Row.cell l a).looselyEqual (Row.cell r b) = .ok equal) :
    joinRows.pairUp left right a b l rights =
      .ok ((matching a b [l] rights).map fun p =>
        Keyed.ofList (Row.joined left right p)) := by
  induction rights with
  | nil => rfl
  | cons r rights ih =>
    obtain ⟨⟨equal, hequal⟩, hrest⟩ := List.forall_mem_cons.1 hc
    rw [joinRows.pairUp, ih hrest, hequal, matching_singleton_cons hequal]
    cases equal <;> rfl

lemma joinRows_eq (hc : Comparable a b lefts rights) :
    joinRows left right a b rights lefts =
      .ok ((matching a b lefts rights).map fun p =>
        Keyed.ofList (Row.joined left right p)) := by
  induction lefts with
  | nil => rfl
  | cons l lefts ih =>
    obtain ⟨hl, hlefts⟩ := List.forall_mem_cons.1 hc
    rw [joinRows, pairUp_eq hl, ih hlefts, matching_cons a b l lefts, List.map_append]
    rfl

end Database

/-! ### Statements -/

/-- A query for all columns of two tables, whose operands stand in either order. -/
inductive Statement.Joins (left right a b : String) : Statement → Prop
  | inOrder : Joins left right a b
    (.select left none (some ⟨right, ⟨some left, a⟩, ⟨some right, b⟩⟩) none)
  | exchanged : Joins left right a b
    (.select left none (some ⟨right, ⟨some right, b⟩, ⟨some left, a⟩⟩) none)

lemma Statement.Joins.isQuery {s : Statement} {left right a b : String}
    (h : s.Joins left right a b) : s.kind.isQuery = true := by
  cases h <;> rfl

namespace Database

variable {P : Value → Prop} {db : Database} {left right a b : String} {t u : Table} {s : Statement}

/-- The rows of a pair have no cell twice, so putting the cells in changes nothing. -/
lemma joinOf_of_mem (hl : '.' ∉ left.toList) (hr : '.' ∉ right.toList) (hne : left ≠ right)
    (ht : t.Formed P) (hu : u.Formed P) {p : Row × Row} (hp : p ∈ matching a b t.rows u.rows) :
    Row.JoinOf left right p (Row.joined left right p) := by
  obtain ⟨hleft, hright⟩ := mem_of_mem_matching hp
  have hfl := ht.row p.1 hleft
  have hfr := hu.row p.2 hright
  exact Row.joinOf_joined hl hr hne hfl.named hfr.named hfl.distinct
    hfr.distinct

/-- **A join answers with the rows of its pairs**, in whatever order its operands are. -/
theorem execute_joins (hs : s.Joins left right a b) (hl : '.' ∉ left.toList) (hr : '.' ∉ right.toList)
    (hne : left ≠ right) (ht : db.table? left = some t) (hu : db.table? right = some u)
    (hft : t.Formed P) (hfu : u.Formed P) (hc : Comparable a b t.rows u.rows) :
    (db.execute s).outcome =
      .ok (.rows ((matching a b t.rows u.rows).map (Row.joined left right))) := by
  have hdistinct : ∀ p ∈ matching a b t.rows u.rows,
      Keyed.ofList (Row.joined left right p) = Row.joined left right p := fun p hp =>
    Keyed.ofList_of_distinct (joinOf_of_mem hl hr hne hft hfu hp).distinct
  have hrows : joinRows left right a b u.rows t.rows =
      .ok ((matching a b t.rows u.rows).map (Row.joined left right)) := by
    rw [joinRows_eq hc, List.map_congr_left hdistinct]
  cases hs with
  | inOrder =>
    rw [execute, selectJoined, table_eq_ok.2 ht, table_eq_ok.2 hu]
    simp [hne, hrows, project, Except.mapError]
  | exchanged =>
    rw [execute, selectJoined, table_eq_ok.2 ht, table_eq_ok.2 hu]
    simp [hrows, project, Except.mapError]

end Database

end Tabula
