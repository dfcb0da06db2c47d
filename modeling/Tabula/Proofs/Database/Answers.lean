import Tabula.Proofs.Database.Joined

/-!
The rows of answers.

An answer has rows, be they those of a table, of a join, of the list of tables or of a description.
Where a database is of the right form, so is every answer, and so are its rows.
-/

namespace Tabula

/-! ### Rows -/

namespace Row

variable {P : Value → Prop} {row : Row}

lemma formed_ofList {cells : List (Label × Value)} (hn : Row.Named cells)
    (hc : ∀ c ∈ cells, P c.2) : Formed P (Keyed.ofList cells) where
  named := by
    have hkeys : ∀ k ∈ Keyed.keys (Keyed.ofList cells), ∃ s, k = Label.name s :=
      Keyed.forall_keys_putAll (List.forall_mem_map.2 hn) (by simp [Keyed.keys])
    exact fun c hc => hkeys c.1 (List.mem_map_of_mem hc)
  distinct := Keyed.distinct_keys_ofList cells
  cells := Keyed.forall_putAll hc (by simp)

lemma Formed.project (h : Formed P row) (hnull : P .null) (columns : List String) :
    Formed P (Row.project row columns) := by
  refine formed_ofList (fun c hc => ?_) fun c hc => ?_
  · obtain ⟨column, -, rfl⟩ := List.mem_map.1 hc
    exact ⟨column, rfl⟩
  · obtain ⟨column, -, rfl⟩ := List.mem_map.1 hc
    exact h.at hnull (.name column)

/-- The row of a pair is formed, even where the names of the tables have points in them. -/
lemma Formed.joined {left right : String} {p : Row × Row} (hl : Formed P p.1)
    (hr : Formed P p.2) : Formed P (Keyed.ofList (Row.joined left right p)) := by
  refine formed_ofList (fun c hc => ?_) fun c hc => ?_
  · rcases List.mem_append.1 hc with hc | hc
    · obtain ⟨s, hs⟩ := exists_of_mem_qualified hc
      exact ⟨_, hs⟩
    · obtain ⟨s, hs⟩ := exists_of_mem_qualified hc
      exact ⟨_, hs⟩
  · rcases List.mem_append.1 hc with hc | hc
    · obtain ⟨d, hd, rfl⟩ := List.mem_map.1 hc
      exact hl.cells d hd
    · obtain ⟨d, hd, rfl⟩ := List.mem_map.1 hc
      exact hr.cells d hd

end Row

/-! ### Answers -/

/-- A part of a description as a cell; the names and types that statements give are text. -/
def Json.cell (j : Json) : Value := if j = .null then .null else .text j.plain

lemma Json.IsText.cell {j : Json} (h : j.IsText) : ∃ s, j.cell = .text s := by
  obtain ⟨s, rfl⟩ := h
  exact ⟨s, if_neg nofun⟩

def ColumnInfo.row (c : ColumnInfo) : Row :=
  [(.name "column", c.name.cell), (.name "type", c.declared.cell), (.name "key", .text c.mark)]

/-- The rows of an answer. A description has one for each column. -/
def Answer.table : Answer → List Row
  | .rows found => found
  | .description columns => columns.map ColumnInfo.row
  | .done _ => []

/-- What an answer has is of the form that it has in a database. -/
def Answer.Formed (P : Value → Prop) : Answer → Prop
  | .rows found => ∀ row ∈ found, Row.Formed P row
  | .description columns => ∀ c ∈ columns, c.name.IsText ∧ c.declared.IsText
  | .done _ => True

variable {P : Value → Prop}

lemma Row.formed_row (htext : ∀ s, P (.text s)) {c : ColumnInfo} (hn : c.name.IsText)
    (hd : c.declared.IsText) : Row.Formed P c.row := by
  obtain ⟨name, hname⟩ := hn.cell
  obtain ⟨declared, hdeclared⟩ := hd.cell
  have hrow : c.row = Keyed.ofList [(.name "column", .text name), (.name "type", .text declared),
      (.name "key", .text c.mark)] := by
    rw [ColumnInfo.row, hname, hdeclared]
    rfl
  rw [hrow]
  refine Row.formed_ofList ?_ ?_
  · simp [Row.Named]
  · simp [htext]

lemma Answer.Formed.table {answer : Answer} (h : answer.Formed P) (htext : ∀ s, P (.text s)) :
    ∀ row ∈ answer.table, Row.Formed P row := by
  cases answer with
  | rows found => exact h
  | description columns =>
    exact List.forall_mem_map.2 fun c hc => Row.formed_row htext (h c hc).1 (h c hc).2
  | done effect => exact fun _ hrow => nomatch hrow

namespace Database

variable {db : Database} {name : String} {left right a b : String}
  {lefts rights rows : List Row} {given : Answer}

/-- Rows that are joined can be compared. -/
lemma comparable_of_joinRows (h : joinRows left right a b rights lefts = .ok rows) :
    Comparable a b lefts rights := by
  have hpair : ∀ {l : Row} {rights found : List Row},
      joinRows.pairUp left right a b l rights = .ok found →
      ∀ r ∈ rights, ∃ equal, (Row.cell l a).looselyEqual (Row.cell r b) = .ok equal := by
    intro l rights
    induction rights with
    | nil => simp
    | cons r rights ih =>
      intro found hfound
      obtain ⟨equal, hequal, hfound⟩ := bind_eq_ok.1 hfound
      obtain ⟨rest, hrest, -⟩ := bind_eq_ok.1 hfound
      exact List.forall_mem_cons.2 ⟨⟨equal, hequal⟩, ih hrest⟩
  induction lefts generalizing rows with
  | nil => exact fun l hl => nomatch hl
  | cons l lefts ih =>
    obtain ⟨found, hfound, h⟩ := bind_eq_ok.1 h
    obtain ⟨rest, hrest, -⟩ := bind_eq_ok.1 h
    exact List.forall_mem_cons.2 ⟨hpair hfound, ih hrest⟩

lemma formed_joinRows (h : joinRows left right a b rights lefts = .ok rows)
    (hl : ∀ row ∈ lefts, Row.Formed P row) (hr : ∀ row ∈ rights, Row.Formed P row) :
    ∀ row ∈ rows, Row.Formed P row := by
  rw [joinRows_eq (comparable_of_joinRows h)] at h
  cases h
  intro row hrow
  obtain ⟨p, hp, rfl⟩ := List.mem_map.1 hrow
  obtain ⟨hleft, hright⟩ := mem_of_mem_matching hp
  exact (hl _ hleft).joined (hr _ hright)

lemma formed_project (hnull : P .null) (columns : Option (List ColumnName))
    (h : ∀ row ∈ rows, Row.Formed P row) : ∀ row ∈ project columns rows, Row.Formed P row := by
  cases columns with
  | none => exact h
  | some refs =>
    intro row hrow
    obtain ⟨found, hfound, rfl⟩ := List.mem_map.1 hrow
    exact (h found hfound).project hnull _

lemma Formed.select (h : db.Formed P) (hnull : P .null) {columns : Option (List ColumnName)}
    {c : Option Condition} (ha : db.select name columns c = .ok given) : given.Formed P := by
  obtain ⟨t, ht, ha⟩ := bind_eq_ok.1 ha
  obtain ⟨rows, hrows, ha⟩ := bind_eq_ok.1 ha
  have hformed := (h.table (table_eq_ok.1 ht)).row
  have hsub : ∀ row ∈ rows, row ∈ t.rows := by
    cases c with
    | none =>
      cases mapError_eq_ok.1 hrows
      exact fun _ => id
    | some c =>
      obtain ⟨⟨yes, no⟩, hpartition, rfl⟩ := map_eq_ok.1 (mapError_eq_ok.1 hrows)
      exact fun row hrow => (Condition.sublist_partition hpartition).1.subset hrow
  cases ha
  exact formed_project hnull columns fun row hrow => hformed row (hsub row hrow)

lemma Formed.selectJoined (h : db.Formed P) (hnull : P .null) {columns : Option (List ColumnName)}
    {j : Join} {c : Option Condition} (ha : (db.selectJoined name columns j c).2 = .ok given) :
    given.Formed P := by
  unfold Database.selectJoined at ha
  split at ha
  · cases ha
  · cases ha
  · rename_i t u ht hu
    generalize (if j.left.table = some j.table ∧ j.right.table = some name then (j.right, j.left)
      else (j.left, j.right)) = operands at ha
    dsimp only at ha
    split at ha
    · obtain ⟨rows, hrows, ha⟩ := bind_eq_ok.1 ha
      cases ha
      exact formed_project hnull columns (formed_joinRows (mapError_eq_ok.1 hrows)
        (h.table (table_eq_ok.1 ht)).row (h.table (table_eq_ok.1 hu)).row)
    · cases ha

lemma exists_of_insert {columns : List String} {values : List Value}
    (ha : (db.insert name columns values).outcome = .ok given) : ∃ effect, given = .done effect := by
  unfold insert at ha
  split at ha
  · cases ha
  · dsimp only at ha
    split at ha
    · cases ha
    · split at ha
      · cases ha
        exact ⟨_, rfl⟩
      · cases ha

lemma exists_of_update {assignments : List (String × Value)} {c : Condition}
    (ha : (db.update name assignments c).outcome = .ok given) : ∃ effect, given = .done effect := by
  unfold update at ha
  split at ha
  · cases ha
  · dsimp only at ha
    split at ha
    · cases ha
      exact ⟨_, rfl⟩
    · cases ha

/-- **Answers are formed** as the tables are. -/
theorem Formed.answer (h : db.Formed P) (hnull : P .null) (htext : ∀ s, P (.text s))
    {s : Statement} (ha : (db.execute s).outcome = .ok given) : given.Formed P := by
  have hdone : (∃ effect, given = .done effect) → given.Formed P := by
    rintro ⟨effect, rfl⟩
    exact trivial
  cases s with
  | createTable name defs =>
    cases ha
    exact trivial
  | insert name columns values => exact hdone (exists_of_insert ha)
  | update name assignments c => exact hdone (exists_of_update ha)
  | delete name c =>
    rw [Database.execute, delete] at ha
    split at ha
    · cases ha
    · split at ha
      · cases ha
      · cases ha
        exact trivial
  | createIndex index name column =>
    rw [Database.execute, createIndex] at ha
    split at ha
    · cases ha
    · cases ha
      exact trivial
  | select name columns join c =>
    cases join with
    | none => exact h.select hnull ha
    | some j => exact h.selectJoined hnull ha
  | showTables =>
    cases ha
    exact List.forall_mem_map.2 fun name _ => Row.Formed.nil.put (htext name)
  | describe name =>
    obtain ⟨t, ht, ha⟩ := bind_eq_ok.1 ha
    cases ha
    exact List.forall_mem_map.2 (h.table (table_eq_ok.1 ht)).columns

end Database

end Tabula
