import Tabula.Proofs.Index.Lookup

/-!
An index by itself, whatever is done with it.

Records are added to an index, it is filled anew, and it is copied by way of its document. After any
steps of this kind, in any order and with searches between them, it answers like the list of the
rows that it was filled with last and of those that were added since.
-/

namespace Tabula

namespace Index

/-- The index with the given records in place of its own. -/
def refill (i : Index) (rs : List Record) : Except ShapeFault Index :=
  rs.foldlM add { i with entries := [] }

/-- What is done with an index. -/
inductive Step where
  | add (r : Record)
  | refill (rs : List Record)
  /-- the index is written and read again; its records have identities from `first` -/
  | copy (first : Nat)
  | search (v : Value)

/-- The index after a step. A search leaves it as it is. -/
def step (i : Index) : Step → Option Index
  | .add r => (i.add r).toOption
  | .refill rs => (i.refill rs).toOption
  | .copy first => Database.copyIndex? first i
  | .search _ => some i

def run (i : Index) (steps : List Step) : Option Index := steps.foldlM step i

/-- The rows that are in an index after a step, if it has had these. -/
def Step.rows (known : List Row) : Step → List Row
  | .add r => known ++ [r.row]
  | .refill rs => rs.map (·.row)
  | .copy _ | .search _ => known

/-- The rows that steps leave in an index that was empty, in the order in which they came. -/
def rowsOf (steps : List Step) : List Row := steps.foldl Step.rows []

/-- A row for an index of a column: its labels are names, and its cell is not one of those that are
no number. -/
def Suits (column : String) (row : Row) : Prop := row.Named ∧ ¬ (Row.cell row column).IsNaN

def Step.Suits (column : String) : Step → Prop
  | .add r => Index.Suits column r.row
  | .refill rs => ∀ r ∈ rs, Index.Suits column r.row
  | .copy _ | .search _ => True

/-- An index answers like a list of rows: a search finds those whose cell is equal, in order; the
values are the different cells, each as it first came; and every row is counted. -/
structure AnswersLike (i : Index) (column : String) (rows : List Row) : Prop where
  search : ∀ v, (i.search v).map (·.row) = rows.filter fun row => (Row.cell row column).equals v
  values : i.values = (rows.map (Row.cell · column)).eraseDupsBy Value.equals
  size : i.size = rows.length

variable {name table column : String} {i : Index} {rows : List Row} {s : Step}
  {steps : List Step}

/-! ### Indexes with the content of one that was built -/

/-- The index of a column that is built of rows, without identities. -/
def ofRows (name table column : String) (rows : List Row) : Index :=
  build name table column (rows.map (⟨0, ·⟩))

lemma content_build_rows (name table column : String) (rs : List Record) :
    (build name table column rs).content = ofRows name table column (rs.map (·.row)) := by
  rw [content_build, ofRows, List.map_map]
  rfl

lemma column_build (name table column : String) (rs : List Record) :
    (build name table column rs).name = .text name ∧
      (build name table column rs).table = .text table ∧
      (build name table column rs).column = .text column :=
  build_induction (P := fun i => i.name = .text name ∧ i.table = .text table ∧
    i.column = .text column) ⟨rfl, rfl, rfl⟩ fun _ hi _ _ => hi

lemma distinct_build (name table column : String) (rs : List Record) :
    (build name table column rs).entries.Pairwise fun a b => a.1.sameKey b.1 = false :=
  build_induction (P := fun i => i.entries.Pairwise fun a b => a.1.sameKey b.1 = false) .nil
    fun _ hi _ _ => distinct_addEntry hi

/-- What it answers follows from its content. -/
lemma answersLike_of_content (h : i.content = ofRows name table column rows)
    (hrows : ∀ row ∈ rows, Suits column row) : i.AnswersLike column rows where
  search v := by
    have hsearch : (i.search v).map (·.row) = (i.content.search v).map (·.row) := by
      rw [search_content, List.map_map]
      rfl
    rw [hsearch, h, ofRows, search_build, List.filter_map, List.map_map]
    refine (List.map_id' _).trans (List.filter_congr fun row hrow => ?_)
    exact Value.sameKey_eq_equals (hrows row hrow).2 v
  values := by
    rw [← values_content, h, ofRows, values_build, List.map_map]
    refine eraseDupsBy_congr fun v hv w => ?_
    obtain ⟨row, hrow, rfl⟩ := List.mem_map.1 hv
    exact Value.sameKey_eq_equals (hrows row hrow).2 w
  size := by rw [← size_content, h, ofRows, size_build, List.length_map]

/-! ### Steps -/

lemma add_eq (hc : i.column = .text column) (r : Record) :
    i.add r = .ok (i.addUnder (.name column) r) := by
  rw [add, hc]
  rfl

lemma refill_eq (hn : i.name = .text name) (ht : i.table = .text table)
    (hc : i.column = .text column) (rs : List Record) :
    i.refill rs = .ok (build name table column rs) := by
  have hempty : { i with entries := [] } = empty name table column := by
    rw [hn, ht, hc]
    rfl
  have hfold : ∀ j : Index, j.column = .text column →
      rs.foldlM add j = .ok (rs.foldl (addUnder (.name column)) j) := by
    induction rs with
    | nil => exact fun _ _ => rfl
    | cons r rs ih =>
      intro j hj
      rw [List.foldlM_cons, add_eq hj]
      exact ih _ hj
  rw [refill, hempty]
  exact hfold _ rfl

/-- A copy has the content of the index. -/
lemma copy_eq (h : i.content = ofRows name table column rows) (hrows : ∀ row ∈ rows, row.Named)
    (first : Nat) : ∃ j, i.step (.copy first) = some j ∧ j.content = i.content := by
  have hd : i.entries.Pairwise fun a b => a.1.sameKey b.1 = false := by
    have hbuilt := distinct_build name table column (rows.map (⟨0, ·⟩))
    rw [← ofRows, ← h] at hbuilt
    exact List.pairwise_map.1 hbuilt
  have hn : ∀ e ∈ i.entries, ∀ r ∈ e.2, r.row.Named := by
    intro e he r hr
    have hmem : r.content ∈ i.content.records :=
      mem_records.2 ⟨_, List.mem_map_of_mem he, List.mem_map_of_mem hr⟩
    rw [h] at hmem
    obtain ⟨row, hrow, heq⟩ := List.mem_map.1 (mem_records_build hmem)
    rw [← show row = r.row from congrArg Record.row heq]
    exact hrows row hrow
  exact Database.copyIndex?_content hd hn first

/-- **A step does to the content of an index what it does to the rows.** -/
lemma content_step (h : i.content = ofRows name table column rows)
    (hrows : ∀ row ∈ rows, row.Named) (s : Step) :
    ∃ j, i.step s = some j ∧ j.content = ofRows name table column (s.rows rows) := by
  obtain ⟨hn, ht, hc⟩ := column_build name table column (rows.map (⟨0, ·⟩))
  rw [← ofRows, ← h] at hn ht hc
  change i.name = _ at hn
  change i.table = _ at ht
  change i.column = _ at hc
  cases s with
  | add r =>
    refine ⟨_, by rw [step, add_eq hc]; rfl, ?_⟩
    rw [content_addUnder, h, Step.rows, ofRows, ofRows, List.map_append, List.map_singleton,
      build_concat]
    rfl
  | refill rs =>
    refine ⟨_, ?_, content_build_rows name table column rs⟩
    rw [step, refill_eq hn ht hc]
    rfl
  | copy first =>
    obtain ⟨j, hj, hcontent⟩ := copy_eq h hrows first
    exact ⟨j, hj, hcontent.trans h⟩
  | search v => exact ⟨i, rfl, h⟩

lemma suits_rows (hrows : ∀ row ∈ rows, Suits column row) (hs : s.Suits column) :
    ∀ row ∈ s.rows rows, Suits column row := by
  cases s with
  | add r => exact List.forall_mem_append.2 ⟨hrows, List.forall_mem_singleton.2 hs⟩
  | refill rs => exact List.forall_mem_map.2 hs
  | copy _ | search _ => exact hrows

/-- What steps leave in an index is what they leave in the list of its rows. -/
lemma content_run (name table : String) (hs : ∀ s ∈ steps, s.Suits column) :
    (∀ row ∈ rowsOf steps, Suits column row) ∧
      ∃ i, (empty name table column).run steps = some i ∧
        i.content = ofRows name table column (rowsOf steps) := by
  induction steps using List.reverseRecOn with
  | nil => exact ⟨List.forall_mem_nil _, _, rfl, rfl⟩
  | append_singleton steps s ih =>
    obtain ⟨hsteps, hlast⟩ := List.forall_mem_append.1 hs
    obtain ⟨hrows, i, hi, hcontent⟩ := ih hsteps
    have hrowsOf : rowsOf (steps ++ [s]) = s.rows (rowsOf steps) := List.foldl_concat ..
    rw [List.forall_mem_singleton] at hlast
    obtain ⟨j, hj, hjcontent⟩ := content_step hcontent (fun row hrow => (hrows row hrow).1) s
    rw [hrowsOf]
    refine ⟨suits_rows hrows hlast, j, ?_, hjcontent⟩
    rw [run] at hi ⊢
    rw [List.foldlM_append, hi]
    change List.foldlM step i [s] = some j
    rw [List.foldlM_cons, hj]
    rfl

/-- **An index is a list of rows, told apart by one of their cells.** No step fails, the index keeps
its names, and it answers like the rows that the steps leave in it; copies and searches leave them
as they are. -/
theorem run_answers (name table : String) (hs : ∀ s ∈ steps, s.Suits column) :
    ∃ i, (empty name table column).run steps = some i ∧ i.name = .text name ∧
      i.table = .text table ∧ i.column = .text column ∧ i.AnswersLike column (rowsOf steps) := by
  obtain ⟨hrows, i, hi, hcontent⟩ := content_run name table hs
  obtain ⟨hn, ht, hc⟩ := column_build name table column ((rowsOf steps).map (⟨0, ·⟩))
  rw [← ofRows, ← hcontent] at hn ht hc
  exact ⟨i, hi, hn, ht, hc, answersLike_of_content hcontent hrows⟩

/-- The floating-point number one. -/
def realOne : Binary64 := .finite false ⟨1023 * 2 ^ 52, by decide⟩

/-- The number one in all its kinds, and as text. What was there before is gone, and a copy files
the later ones with the first. -/
def onesAndText : List Step :=
  [.add ⟨0, [(.name "c", .int 7)]⟩,
    .refill [⟨1, [(.name "c", .int 1)]⟩, ⟨2, [(.name "c", .text "1")]⟩], .copy 3,
    .add ⟨5, [(.name "c", .real realOne)]⟩, .search (.bool true),
    .add ⟨6, [(.name "d", .int 1)]⟩, .add ⟨7, [(.name "c", .bool true)]⟩]

theorem run_answers_onesAndText :
    ∃ i, (empty "i" "t" "c").run onesAndText = some i ∧
      i.values = [.int 1, .text "1", .null] ∧ i.size = 5 ∧
      (i.search (.real realOne)).map (·.row) =
        [[(.name "c", .int 1)], [(.name "c", .real realOne)], [(.name "c", .bool true)]] := by
  have hsuits {v : Value} (hv : ¬ v.IsNaN) : Suits "c" [(.name "c", v)] := by
    refine ⟨List.forall_mem_singleton.2 ⟨"c", rfl⟩, ?_⟩
    rwa [show Row.cell [(.name "c", v)] "c" = v from rfl]
  have hother : Suits "c" [(.name "d", .int 1)] := ⟨List.forall_mem_singleton.2 ⟨"d", rfl⟩, id⟩
  have hsteps : ∀ s ∈ onesAndText, s.Suits "c" := by
    simp only [onesAndText, List.forall_mem_cons, Step.Suits, hother, true_and]
    exact ⟨hsuits id, ⟨hsuits id, hsuits id, List.forall_mem_nil _⟩, hsuits id, hsuits id,
      List.forall_mem_nil _⟩
  obtain ⟨i, hi, -, -, -, hanswers⟩ := run_answers "i" "t" hsteps
  exact ⟨i, hi, hanswers.values.trans (by decide +kernel), hanswers.size.trans (by decide +kernel),
    (hanswers.search _).trans (by decide +kernel)⟩

end Index

end Tabula
