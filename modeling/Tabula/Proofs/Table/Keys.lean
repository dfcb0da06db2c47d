import Tabula.Proofs.Database.Kept

/-!
Keys and unique columns.

The check of a new row is exact: where the rows so far meet the constraints of a table, it passes
just the rows that can be appended without breaking them, and it tells a broken key from a broken
unique column.
-/

namespace Tabula

/-- The cells of a column are all there, and no two are the same. -/
structure KeysDistinct (l : Label) (rows : List Row) : Prop where
  present : ∀ row ∈ rows, Row.at row l ≠ .null
  distinct : rows.Pairwise fun a b => (Row.at a l).same (Row.at b l) = false

/-- No two cells of a column are the same, NULL aside. -/
def ValuesDistinct (l : Label) (rows : List Row) : Prop :=
  rows.Pairwise fun a b => Row.at b l ≠ .null → (Row.at a l).same (Row.at b l) = false

section Rows

variable {l : Label} {rows kept : List Row}

lemma KeysDistinct.nil : KeysDistinct l [] := ⟨by simp, List.Pairwise.nil⟩

lemma ValuesDistinct.nil : ValuesDistinct l [] := List.Pairwise.nil

lemma KeysDistinct.sublist (h : KeysDistinct l rows) (hs : kept.Sublist rows) :
    KeysDistinct l kept :=
  ⟨fun row hr => h.present row (hs.subset hr), h.distinct.sublist hs⟩

lemma ValuesDistinct.sublist (h : ValuesDistinct l rows) (hs : kept.Sublist rows) :
    ValuesDistinct l kept := List.Pairwise.sublist hs h

lemma keysDistinct_concat (h : KeysDistinct l rows) (row : Row) :
    KeysDistinct l (rows ++ [row]) ↔
      Row.at row l ≠ .null ∧ ∀ a ∈ rows, (Row.at a l).same (Row.at row l) = false := by
  constructor
  · intro hc
    have hlast := (List.pairwise_append.1 hc.distinct).2.2
    exact ⟨hc.present row (by simp), fun a ha => hlast a ha row (by simp)⟩
  · rintro ⟨hrow, hother⟩
    refine ⟨?_, List.pairwise_append.2 ⟨h.distinct, List.pairwise_singleton _ _, ?_⟩⟩
    · intro a ha
      rcases List.mem_append.1 ha with ha | ha
      · exact h.present a ha
      · rwa [List.mem_singleton.1 ha]
    · intro a ha b hb
      rw [List.mem_singleton.1 hb]
      exact hother a ha

lemma valuesDistinct_concat (h : ValuesDistinct l rows) (row : Row) :
    ValuesDistinct l (rows ++ [row]) ↔
      (Row.at row l ≠ .null → ∀ a ∈ rows, (Row.at a l).same (Row.at row l) = false) := by
  unfold ValuesDistinct
  rw [List.pairwise_append]
  constructor
  · rintro ⟨-, -, hlast⟩ hrow a ha
    exact hlast a ha row (by simp) hrow
  · refine fun hother => ⟨h, List.pairwise_singleton _ _, fun a ha b hb hrow => ?_⟩
    rw [List.mem_singleton.1 hb] at hrow ⊢
    exact hother hrow a ha

/-- Only the cells of the column count. -/
lemma KeysDistinct.congr (h : KeysDistinct l rows)
    (hc : kept.map (Row.at · l) = rows.map (Row.at · l)) : KeysDistinct l kept := by
  have hpresent : ∀ v ∈ rows.map (Row.at · l), v ≠ .null := by simpa using h.present
  have hdistinct : (rows.map (Row.at · l)).Pairwise fun v w => v.same w = false :=
    List.pairwise_map.2 h.distinct
  rw [← hc] at hpresent hdistinct
  exact ⟨by simpa using hpresent, List.pairwise_map.1 hdistinct⟩

lemma ValuesDistinct.congr (h : ValuesDistinct l rows)
    (hc : kept.map (Row.at · l) = rows.map (Row.at · l)) : ValuesDistinct l kept := by
  have hdistinct : (rows.map (Row.at · l)).Pairwise fun v w => w ≠ .null → v.same w = false :=
    List.pairwise_map.2 h
  rw [← hc] at hdistinct
  exact List.pairwise_map.1 hdistinct

end Rows

/-! ### Constraints -/

namespace Constraints

/-- The rows meet the primary key, if there is one. -/
def KeyMet (c : Constraints) (rows : List Row) : Prop :=
  ∀ l, c.key = .ok (some l) → KeysDistinct l rows

/-- The rows meet all unique columns. -/
def UniqueMet (c : Constraints) (rows : List Row) : Prop :=
  ∀ column ∈ c.unique, ∀ l, column.label = .ok l → ValuesDistinct l rows

structure Met (c : Constraints) (rows : List Row) : Prop where
  key : c.KeyMet rows
  unique : c.UniqueMet rows

variable {c : Constraints} {rows kept : List Row}

lemma Met.nil : c.Met [] := ⟨fun _ _ => .nil, fun _ _ _ _ => .nil⟩

lemma Met.sublist (h : c.Met rows) (hs : kept.Sublist rows) : c.Met kept :=
  ⟨fun l hl => (h.key l hl).sublist hs, fun j hj l hl => (h.unique j hj l hl).sublist hs⟩

/-- Whether a column is the primary key or a unique one. -/
def Guards (c : Constraints) (column : String) : Prop :=
  c.primaryKey = .text column ∨ .text column ∈ c.unique

end Constraints

/-! ### The check of a new row -/

namespace Table

variable {t : Table} {key : Option Label} {row : Row}

lemma holds_eq_false {l : Label} {v : Value} :
    t.holds l v = false ↔ ∀ a ∈ t.rows, (Row.at a l).same v = false := by
  simp [holds, rows]

lemma keyFault?_eq_none (hk : t.constraints.key = .ok key) (h : t.constraints.KeyMet t.rows)
    (row : Row) :
    t.keyFault? key row = none ↔ t.constraints.KeyMet (t.rows ++ [row]) := by
  cases key with
  | none =>
    refine ⟨fun _ l hl => ?_, fun _ => rfl⟩
    rw [hk] at hl
    cases hl
  | some l =>
    have hmet : t.constraints.KeyMet (t.rows ++ [row]) ↔ KeysDistinct l (t.rows ++ [row]) := by
      refine ⟨fun hm => hm l hk, fun hd m hm => ?_⟩
      rw [hk] at hm
      cases hm
      exact hd
    rw [hmet, keysDistinct_concat (h l hk) row, ← holds_eq_false, keyFault?, Option.bind_some]
    by_cases hrow : Row.at row l = .null
    · simp [hrow]
    · cases t.holds l (Row.at row l) <;> simp [hrow]

lemma keyFault?_eq_some {failure : Failure} (h : t.keyFault? key row = some failure) :
    ∃ l fault, failure = .primaryKey l fault := by
  obtain ⟨l, -, hl⟩ := Option.bind_eq_some_iff.1 h
  split at hl
  · cases hl
    exact ⟨l, .missing, rfl⟩
  · split at hl
    · cases hl
      exact ⟨l, .duplicate, rfl⟩
    · cases hl

/-- Where unique columns are given by name, only their values can be at fault. -/
lemma uniqueFault?_eq_none (hu : ∀ j ∈ t.constraints.unique, j.IsText)
    (h : t.constraints.UniqueMet t.rows) (row : Row) :
    t.uniqueFault? row = none ↔ t.constraints.UniqueMet (t.rows ++ [row]) := by
  rw [uniqueFault?, List.findSome?_eq_none_iff]
  refine forall₂_congr fun j hj => ?_
  obtain ⟨s, rfl⟩ := hu j hj
  have hlabel : (Json.text s).label = .ok (.name s) := rfl
  have hconcat := valuesDistinct_concat (h _ hj _ hlabel) row
  rw [hlabel]
  constructor
  · intro hn l hl
    cases hl
    rw [hconcat, ← holds_eq_false]
    intro hrow
    by_contra hh
    simp [hrow, hh] at hn
  · intro hd
    have hd := hconcat.1 (hd _ rfl)
    rw [← holds_eq_false] at hd
    by_cases hrow : Row.at row (.name s) = .null
    · simp [hrow]
    · simp [hrow, hd hrow]

lemma uniqueFault?_eq_some (hu : ∀ j ∈ t.constraints.unique, j.IsText) {failure : Failure}
    (h : t.uniqueFault? row = some failure) : ∃ l, failure = .unique l := by
  obtain ⟨j, hj, hf⟩ := List.exists_of_findSome?_eq_some h
  obtain ⟨s, rfl⟩ := hu j hj
  change (if _ then some (Failure.unique (.name s)) else none) = some failure at hf
  split at hf
  · cases hf
    exact ⟨_, rfl⟩
  · cases hf

/-- The primary key is looked at first. -/
lemma fault?_eq (key : Option Label) (row : Row) :
    t.fault? key row = (t.keyFault? key row).or (t.uniqueFault? row) := by
  rw [fault?]
  cases t.keyFault? key row <;> rfl

/-- A row that can be appended is not refused. -/
lemma met_of_fault? (hk : t.constraints.key = .ok key)
    (hu : ∀ j ∈ t.constraints.unique, j.IsText) (h : t.constraints.Met t.rows)
    (hf : t.fault? key row = none) : t.constraints.Met (t.rows ++ [row]) := by
  rw [fault?_eq, Option.or_eq_none_iff] at hf
  exact ⟨(keyFault?_eq_none hk h.key row).1 hf.1, (uniqueFault?_eq_none hu h.unique row).1 hf.2⟩

/-- **The check of a new row is exact.** -/
theorem fault?_exact (hk : t.constraints.key = .ok key)
    (hu : ∀ j ∈ t.constraints.unique, j.IsText) (h : t.constraints.Met t.rows) :
    ((∃ l fault, t.fault? key row = some (.primaryKey l fault)) ↔
      ¬ t.constraints.KeyMet (t.rows ++ [row])) ∧
    ((∃ l fault, t.fault? key row = some (.primaryKey l fault)) ∨
        (∃ l, t.fault? key row = some (.unique l)) ↔
      ¬ t.constraints.Met (t.rows ++ [row])) := by
  have hkey := keyFault?_eq_none hk h.key row
  have hunique := uniqueFault?_eq_none hu h.unique row
  have hmet : t.constraints.Met (t.rows ++ [row]) ↔
      t.keyFault? key row = none ∧ t.uniqueFault? row = none := by
    rw [hkey, hunique]
    exact ⟨fun hm => ⟨hm.key, hm.unique⟩, fun hm => ⟨hm.1, hm.2⟩⟩
  rw [hmet, ← hkey, fault?_eq]
  cases hkf : t.keyFault? key row with
  | some failure =>
    obtain ⟨l, fault, rfl⟩ := keyFault?_eq_some hkf
    simp
  | none =>
    cases huf : t.uniqueFault? row with
    | some failure =>
      obtain ⟨l, rfl⟩ := uniqueFault?_eq_some hu huf
      simp
    | none => simp

/-- An insertion that comes to the check ends as the check does. -/
lemma insert_outcome (hk : t.constraints.key = .ok key) (id : Nat) {columns : List String}
    {values : List Value}
    (hrow : (t.fill (t.startRow key columns).1 (columns.zip values)).2 = .ok row) :
    (t.insert id columns values).outcome =
      match t.fault? key row with
      | some failure => .error failure
      | none => .ok ⟨id, row⟩ := by
  rw [insert_eq hk]
  cases hfill : t.fill (t.startRow key columns).1 (columns.zip values) with
  | mk notices result =>
    rw [hfill] at hrow
    subst hrow
    dsimp only
    cases t.fault? key row <;> rfl

lemma rows_concat (t u : Table) (r : Record) :
    Table.rows { u with records := t.records ++ [r] } = t.rows ++ [r.row] := by
  simp [rows]

/-! ### Updates -/

lemma at_assign {row : Row} {assignments : List (String × Value)} {s : String}
    (h : ∀ a ∈ assignments, a.1 ≠ s) :
    Row.at (Row.assign row assignments) (.name s) = Row.at row (.name s) := by
  unfold Row.assign Keyed.putAll
  induction assignments generalizing row with
  | nil => rfl
  | cons a as ih =>
    have hother : Key.same (Label.name a.1) (.name s) = false := by
      rw [Label.same_name, beq_eq_false_iff_ne]
      exact h a List.mem_cons_self
    rw [List.map_cons, List.foldl_cons, ih fun b hb => h b (List.mem_cons_of_mem _ hb), Row.at,
      Row.at, Keyed.find?_put, hother]
    rfl

/-- The cells of a column that is not assigned to are the same after an update. -/
lemma cells_updateRecords {assignments : List (String × Value)} {c : Condition} {s : String}
    (h : ∀ a ∈ assignments, a.1 ≠ s) (rs : List Record) :
    (updateRecords assignments c rs).1.map (fun r => Row.at r.row (.name s)) =
      rs.map (fun r => Row.at r.row (.name s)) :=
  map_updateRecords _ (fun _ => at_assign h) c rs

/-- The label of the primary key is that of its column. -/
lemma primaryKey_of_key {c : Constraints} {l : Label}
    (hp : c.primaryKey = .null ∨ c.primaryKey.IsText) (h : c.key = .ok (some l)) :
    ∃ s, c.primaryKey = .text s ∧ l = .name s := by
  unfold Constraints.key at h
  rcases hp with hp | ⟨s, hp⟩
  · rw [hp] at h
    cases h
  · rw [hp] at h
    split at h
    · cases h
    · cases h
      exact ⟨s, hp, rfl⟩

/-- An update that assigns to neither the primary key nor a unique column keeps both. -/
lemma met_update {assignments : List (String × Value)} (c : Condition) (hs : t.Storable)
    (h : t.constraints.Met t.rows) (ha : ∀ a ∈ assignments, ¬ t.constraints.Guards a.1) :
    t.constraints.Met (t.update assignments c).1.rows := by
  have hcells : ∀ s, t.constraints.Guards s →
      (t.update assignments c).1.rows.map (Row.at · (.name s)) =
        t.rows.map (Row.at · (.name s)) := by
    intro s hg
    have hother : ∀ a ∈ assignments, a.1 ≠ s := fun a hm he => ha a hm (he ▸ hg)
    simpa [rows, update, Function.comp_def] using cells_updateRecords hother t.records
  constructor
  · intro l hl
    obtain ⟨s, hp, rfl⟩ := primaryKey_of_key hs.primaryKey hl
    exact (h.key _ hl).congr (hcells s (.inl hp))
  · intro j hj l hl
    obtain ⟨s, rfl⟩ := hs.unique j hj
    cases hl
    exact (h.unique _ hj _ rfl).congr (hcells s (.inr hj))

end Table

end Tabula
