import Tabula.Proofs.Database.Answers
import Tabula.Proofs.Except
import Tabula.Service

/-!
The bodies of responses.

What is sent for an answer has all that is in the answer: every row with its cells in order, every
column of a description with its parts, and what was done to how many rows. An answer can be sent if
its numbers are finite and its integers are not too long.
-/

namespace Tabula

/-! ### Encoding -/

namespace Web.Content

variable {key : Label → String}

@[simp] lemma json?_text (s : String) : (text s).json? key = some (.text s) := rfl

@[simp] lemma json?_count (n : Nat) : (count n).json? key = some (.int n) := rfl

lemma json?_value {v : Value} (h : encodes v = true) :
    (value v).json? key = some (.scalar v) := by
  rw [value, json?, Json.scalars, if_pos (by simpa using h)]

lemma json?_document {j : Json} (h : ∀ v ∈ j.scalars, encodes v = true) :
    (document j).json? key = some j := by
  rw [json?, if_pos (List.all_eq_true.2 h)]

lemma json?_list {items : List Content} {js : List Json}
    (h : items.mapM (json? key) = some js) : (list items).json? key = some (.array js) := by
  have hitems : ∀ items : List Content, json?.ofItems key items = items.mapM (json? key) := by
    intro items
    induction items with
    | nil => rfl
    | cons x xs ih => rw [json?.ofItems, ih, List.mapM_cons]
  rw [json?, hitems, h]
  rfl

lemma json?_dict {members : List (Label × Content)} {ms : List (String × Json)}
    (hl : ∀ m ∈ members, encodes m.1.value = true)
    (h : members.mapM (fun m => do return (key m.1, ← m.2.json? key)) = some ms) :
    (dict members).json? key = some (.object ms) := by
  have hmembers : ∀ members : List (Label × Content),
      (∀ m ∈ members, encodes m.1.value = true) →
        json?.ofMembers key members =
          members.mapM fun m => do return (key m.1, ← m.2.json? key) := by
    intro members hl
    induction members with
    | nil => rfl
    | cons m ms ih =>
      obtain ⟨hm, hms⟩ := List.forall_mem_cons.1 hl
      rw [json?.ofMembers, if_pos hm, ih hms, List.mapM_cons]
      cases m.2.json? key <;> rfl
  rw [json?, hmembers members hl, h]
  rfl

/-- An object whose members have names. -/
lemma json?_named (hkey : ∀ s, key (.name s) = s) (members : List (String × Content))
    {ms : List (String × Json)}
    (h : members.mapM (fun m => do return (m.1, ← m.2.json? key)) = some ms) :
    (dict (members.map fun m => (Label.name m.1, m.2))).json? key = some (.object ms) := by
  refine json?_dict (List.forall_mem_map.2 fun _ _ => rfl) ?_
  simpa only [List.mapM_map, Function.comp_def, hkey] using h

end Web.Content

/-! ### Answers -/

/-- The cells of an answer, and the parts of a description. -/
def Answer.cells : Answer → List Value
  | .rows rs => rs.flatMap (·.map (·.2))
  | .description columns => columns.flatMap fun c => c.name.scalars ++ c.declared.scalars
  | .done _ => []

/-- What the cells of an answer are found under. -/
def Answer.labels : Answer → List Label
  | .rows rs => rs.flatMap (·.map (·.1))
  | .description _ | .done _ => []

/-- No floating-point number among the cells is infinite, and none is NaN. -/
def Answer.Finite (answer : Answer) : Prop := ∀ x, .real x ∈ answer.cells → x.isFinite = true

/-- Integers among the cells are not too long to be written, and numbers that cells are found under
can be written as well. -/
structure Answer.Encodable (answer : Answer) : Prop where
  integers : ∀ n, .int n ∈ answer.cells → Writable n
  labels : ∀ l ∈ answer.labels, Web.Content.encodes l.value = true

/-- Where a database can be stored, its answers can be sent. -/
lemma Answer.Formed.encodable {answer : Answer} (h : answer.Formed Value.Storable) :
    answer.Encodable where
  integers n hn := by
    cases answer with
    | rows rows =>
      obtain ⟨row, hrow, hn⟩ := List.mem_flatMap.1 hn
      obtain ⟨c, hc, hn⟩ := List.mem_map.1 hn
      have hcell := (h row hrow).cells c hc
      rwa [hn] at hcell
    | description columns =>
      obtain ⟨c, hc, hn⟩ := List.mem_flatMap.1 hn
      obtain ⟨⟨name, hname⟩, declared, hdeclared⟩ := h c hc
      rw [hname, hdeclared] at hn
      simp [Json.text, Json.scalars] at hn
    | done effect => cases hn
  labels l hl := by
    cases answer with
    | rows rows =>
      obtain ⟨row, hrow, hl⟩ := List.mem_flatMap.1 hl
      obtain ⟨c, hc, rfl⟩ := List.mem_map.1 hl
      obtain ⟨name, hname⟩ := (h row hrow).named c hc
      rw [hname]
      rfl
    | description _ | done _ => cases hl

/-- What is told of a column. -/
def ColumnInfo.entry (c : ColumnInfo) : Json :=
  .object [("column", c.name), ("type", c.declared), ("key", .text c.mark)]

/-- The body that an answer is sent as. Of a row it has the cells in order, each under the key of
its label. -/
inductive Answer.SentAs (key : Label → String) : Answer → Json → Prop
  | rows (rows : List Row) :
    SentAs key (.rows rows) (.object [("success", .scalar (.bool true)),
      ("data", .array (rows.map fun row => .object (row.map fun c => (key c.1, .scalar c.2)))),
      ("row_count", .int rows.length)])
  | description (columns : List ColumnInfo) :
    SentAs key (.description columns) (.object [("success", .scalar (.bool true)),
      ("data", .array (columns.map ColumnInfo.entry)), ("row_count", .int columns.length)])
  | done {effect : Effect} (h : effect.affected? = none) :
    SentAs key (.done effect) (.object [("success", .scalar (.bool true)),
      ("message", .text effect.message)])
  | affecting {effect : Effect} {n : Nat} (h : effect.affected? = some n) :
    SentAs key (.done effect) (.object [("success", .scalar (.bool true)),
      ("message", .text effect.message), ("rows_affected", .int n)])

namespace Service

open Web

variable {answer : Answer} {key : Label → String}

lemma encodes_cell (hf : answer.Finite) (he : answer.Encodable) {v : Value}
    (hv : v ∈ answer.cells) : Content.encodes v = true := by
  cases v with
  | null | bool _ | text _ => rfl
  | int n =>
    have hn := he.integers n hv
    simpa [Content.encodes] using hn
  | real x => exact hf x hv

lemma json?_rowContent {row : Row} (hl : ∀ c ∈ row, Content.encodes c.1.value = true)
    (hc : ∀ c ∈ row, Content.encodes c.2 = true) :
    (rowContent row).json? key = some (.object (row.map fun c => (key c.1, .scalar c.2))) := by
  refine Content.json?_dict (List.forall_mem_map.2 hl) (mapM_map fun c hcell => ?_)
  simp only [Content.json?_value (hc c hcell)]
  rfl

variable (hkey : ∀ s, key (.name s) = s)

include hkey

lemma json?_columnContent {c : ColumnInfo} (hn : ∀ v ∈ c.name.scalars, Content.encodes v = true)
    (hd : ∀ v ∈ c.declared.scalars, Content.encodes v = true) :
    (columnContent c).json? key = some c.entry := by
  refine Content.json?_named hkey
    [("column", .document c.name), ("type", .document c.declared), ("key", .text c.mark)] ?_
  simp only [List.mapM_cons, Content.json?_document hn, Content.json?_document hd,
    Content.json?_text]
  rfl

lemma json?_listContent {items : List Content} {js : List Json}
    (h : items.mapM (Content.json? key) = some js) :
    (listContent items).json? key = some (.object [("success", .scalar (.bool true)),
      ("data", .array js), ("row_count", .int items.length)]) := by
  have htrue : (Content.value (.bool true)).json? key = some (.scalar (.bool true)) :=
    Content.json?_value rfl
  refine Content.json?_named hkey [("success", .value (.bool true)), ("data", .list items),
    ("row_count", .count items.length)] ?_
  simp only [List.mapM_cons, htrue, Content.json?_list h, Content.json?_count]
  rfl

/-- **An answer is sent as it is**, if its numbers can be. -/
theorem json?_answerContent (hf : answer.Finite) (he : answer.Encodable) :
    ∃ body, answer.SentAs key body ∧ (answerContent answer).json? key = some body := by
  have hcell : ∀ v ∈ answer.cells, Content.encodes v = true := fun v => encodes_cell hf he
  cases answer with
  | rows rows =>
    have hitems : (rows.map rowContent).mapM (Content.json? key) =
        some (rows.map fun row => .object (row.map fun c => (key c.1, .scalar c.2))) :=
      mapM_map fun row hrow => json?_rowContent
        (fun c hc => he.labels _ (List.mem_flatMap.2 ⟨row, hrow, List.mem_map_of_mem hc⟩))
        fun c hc => hcell _ (List.mem_flatMap.2 ⟨row, hrow, List.mem_map_of_mem hc⟩)
    refine ⟨_, .rows rows, ?_⟩
    rw [answerContent, json?_listContent hkey hitems, List.length_map]
  | description columns =>
    have hcolumns : (columns.map columnContent).mapM (Content.json? key) =
        some (columns.map ColumnInfo.entry) := mapM_map fun c hc => by
      have hparts : ∀ v ∈ c.name.scalars ++ c.declared.scalars, Content.encodes v = true :=
        fun v hv => hcell v (List.mem_flatMap.2 ⟨c, hc, hv⟩)
      exact json?_columnContent hkey (List.forall_mem_append.1 hparts).1
        (List.forall_mem_append.1 hparts).2
    refine ⟨_, .description columns, ?_⟩
    rw [answerContent, json?_listContent hkey hcolumns, List.length_map]
  | done effect =>
    cases ha : effect.affected? with
    | none =>
      refine ⟨_, .done ha, ?_⟩
      rw [answerContent, ha]
      exact Content.json?_named hkey
        [("success", .value (.bool true)), ("message", .text effect.message)] rfl
    | some n =>
      refine ⟨_, .affecting ha, ?_⟩
      rw [answerContent, ha]
      exact Content.json?_named hkey [("success", .value (.bool true)),
        ("message", .text effect.message), ("rows_affected", .count n)] rfl

/-- A list of the names of tables is sent as it is. -/
lemma json?_tablesContent (db : Database) :
    (tablesContent db).json? key = some (.object [("tables", .array (db.names.map .text))]) := by
  have hnames : (db.names.map Content.text).mapM (Content.json? key) =
      some (db.names.map .text) := mapM_map fun _ _ => rfl
  refine Content.json?_named hkey [("tables", .list (db.names.map .text))] ?_
  simp only [List.mapM_cons, Content.json?_list hnames]
  rfl

/-- So is a table whose columns are named and typed by text. -/
lemma json?_tableContent {t : Table} (h : ∀ c ∈ t.columns, c.name.IsText ∧ c.declared.IsText) :
    (tableContent t).json? key =
      some (.object [("schema", .array (t.describe.map ColumnInfo.entry)),
        ("row_count", .int t.records.length)]) := by
  have hcolumns : (t.describe.map columnContent).mapM (Content.json? key) =
      some (t.describe.map ColumnInfo.entry) := mapM_map fun c hc => by
    obtain ⟨d, hd, rfl⟩ := List.mem_map.1 hc
    obtain ⟨⟨n, hn⟩, w, hw⟩ := h d hd
    refine json?_columnContent hkey (fun v hv => ?_) fun v hv => ?_
    · obtain rfl : v = .text n := by simpa [hn, Json.text, Json.scalars] using hv
      rfl
    · obtain rfl : v = .text w := by simpa [hw, Json.text, Json.scalars] using hv
      rfl
  refine Content.json?_named hkey
    [("schema", .list (t.describe.map columnContent)), ("row_count", .count t.records.length)] ?_
  simp only [List.mapM_cons, Content.json?_list hcolumns, Content.json?_count]
  rfl

/-- The message of a failure can always be sent. -/
lemma json?_failureContent (f : Failure) :
    (failureContent f).json? key = some (.object [("success", .scalar (.bool false)),
      ("error", .text f.message)]) :=
  Content.json?_named hkey
    [("success", .value (.bool false)), ("error", .text f.message)] rfl

end Service

end Tabula
