import Tabula.Console
import Tabula.Proofs.Console.Layout
import Tabula.Proofs.Database.Answers

/-!
Answers as tables.

The headings of a table are the names of all cells of its rows, and each row has a text under each
of them. Only where a cell is a whole number with too many digits there is no table.
-/

namespace Tabula

/-- There is a text for a value: for a whole number only if it has not too many digits. -/
def Value.Showable : Value → Prop
  | .int n => Writable n
  | _ => True

lemma Value.Storable.showable {v : Value} (h : v.Storable) : v.Showable := by
  cases v with
  | int n => exact h
  | null | bool _ | real _ | text _ => trivial

namespace Console

/-- The text of a value. -/
def displayed : Value → String
  | .null => "NULL"
  | v => v.plain

/-- The names of all cells, each once, in the order in which they first come. -/
def headings (rows : List Row) : List String :=
  (rows.flatMap fun row => (Keyed.keys row).map Label.plain).eraseDups

/-- The texts of rows, one for each heading. -/
def texts (rows : List Row) : List (List String) :=
  rows.map fun row => (headings rows).map fun heading => displayed (Row.cell row heading)

/-! ### Cells -/

lemma cellText_of_showable {v : Value} (h : v.Showable) : cellText v = .ok (displayed v) := by
  cases v with
  | int n =>
    change Writable n at h
    change writeInt n = _
    rw [writeInt, if_pos h]
    rfl
  | null | bool _ | real _ | text _ => rfl

lemma cellText_of_not_showable {v : Value} (h : ¬ v.Showable) :
    cellText v = .error .tooLongToWrite := by
  cases v with
  | int n =>
    change ¬ Writable n at h
    change writeInt n = _
    rw [writeInt, if_neg h]
  | null | bool _ | real _ | text _ => exact absurd trivial h

lemma eq_of_cellText_error {v : Value} {fault : NumberFault} (h : cellText v = .error fault) :
    fault = .tooLongToWrite := by
  by_cases hv : v.Showable
  · rw [cellText_of_showable hv] at h
    cases h
  · rw [cellText_of_not_showable hv] at h
    exact (Except.error.inj h).symm

lemma documentText_eq (j : Json) : documentText j = displayed j.cell := by
  unfold documentText Json.cell
  split <;> rfl

/-! ### Headings -/

lemma eraseDups_of_nodup {α : Type} [BEq α] [LawfulBEq α] {as : List α} (h : as.Nodup) :
    as.eraseDups = as := by
  induction as with
  | nil => rfl
  | cons a as ih =>
    obtain ⟨ha, has⟩ := List.nodup_cons.1 h
    have hother : as.filter (fun b => !b == a) = as :=
      List.filter_eq_self.2 fun b hb => by simpa using ne_of_mem_of_not_mem hb ha
    rw [List.eraseDups_cons, hother, ih has]

variable {P : Value → Prop} {rows : List Row}

lemma names_of_formed {row : Row} (h : Row.Formed P row) :
    Keyed.keys row = ((Keyed.keys row).map Label.plain).map Label.name ∧
      ((Keyed.keys row).map Label.plain).Nodup := by
  have hnames : Keyed.keys row = ((Keyed.keys row).map Label.plain).map Label.name := by
    rw [Keyed.keys, List.map_map, List.map_map]
    refine List.map_congr_left fun c hc => ?_
    obtain ⟨s, hs⟩ := h.named c hc
    rw [Function.comp_apply, Function.comp_apply, hs]
    rfl
  refine ⟨hnames, ?_⟩
  have hdistinct := h.distinct
  rw [hnames, Keyed.Distinct, List.pairwise_map] at hdistinct
  exact hdistinct.imp fun hab => by rwa [Label.same_name, beq_eq_false_iff_ne] at hab

/-- A further row adds its names that are not among the headings yet. -/
lemma headings_concat {row : Row} (h : Row.Formed P row) :
    headings (rows ++ [row]) = headings rows ++
      ((Keyed.keys row).map Label.plain).filter fun s => !(headings rows).elem s := by
  have hnodup := (names_of_formed h).2
  rw [headings, List.flatMap_append, List.flatMap_singleton, List.eraseDups_append, ← headings,
    List.removeAll, eraseDups_of_nodup (hnodup.filter _)]
  refine congrArg _ (List.filter_congr fun s _ => ?_)
  rw [headings, Bool.eq_iff_iff]
  simp [List.mem_eraseDups]

/-- The labels of rows whose labels are names are the headings. -/
lemma labels_eq (h : ∀ row ∈ rows, Row.Formed P row) :
    labels rows = (headings rows).map Label.name := by
  induction rows using List.reverseRecOn with
  | nil => rfl
  | append_singleton rows row ih =>
    obtain ⟨hrows, hrow⟩ := List.forall_mem_append.1 h
    have hformed := hrow row List.mem_cons_self
    have hlabels : labels (rows ++ [row]) = labels rows ++
        (Keyed.keys row).filter fun l => !(labels rows).any (Key.same l) := by
      rw [labels, List.foldl_concat]
      rfl
    have hsame : ∀ s, ((headings rows).map Label.name).any (Key.same (Label.name s)) =
        (headings rows).elem s := by
      intro s
      rw [List.any_map, List.elem_eq_contains, List.contains_eq_any_beq]
      exact congrArg _ (funext fun other => Label.same_name s other)
    rw [hlabels, ih hrows, headings_concat hformed, List.map_append]
    conv_lhs => rw [(names_of_formed hformed).1]
    rw [List.filter_map]
    refine congrArg _ (congrArg _ (List.filter_congr fun s _ => ?_))
    rw [Function.comp_apply, hsame]

lemma mem_headings {row : Row} (hrow : row ∈ rows) {c : Label × Value} (hc : c ∈ row)
    {s : String} (hs : c.1 = .name s) : s ∈ headings rows := by
  refine List.mem_eraseDups.2 (List.mem_flatMap.2 ⟨row, hrow, List.mem_map.2 ⟨c.1, ?_, ?_⟩⟩)
  · exact List.mem_map_of_mem hc
  · rw [hs]
    rfl

/-- Where all rows have the same names, these are the headings. -/
lemma headings_eq {names : List String} (hnodup : names.Nodup) (hne : rows ≠ [])
    (h : ∀ row ∈ rows, (Keyed.keys row).map Label.plain = names) : headings rows = names := by
  cases rows with
  | nil => exact absurd rfl hne
  | cons row rows =>
    obtain ⟨hrow, hrows⟩ := List.forall_mem_cons.1 h
    have hnone :
        (rows.flatMap fun row => (Keyed.keys row).map Label.plain).removeAll names = [] := by
      rw [List.removeAll, List.filter_eq_nil_iff]
      intro s hs
      obtain ⟨other, hother, hs⟩ := List.mem_flatMap.1 hs
      rw [hrows other hother] at hs
      simpa using hs
    rw [headings, List.flatMap_cons, hrow, List.eraseDups_append, hnone, eraseDups_of_nodup hnodup]
    exact List.append_nil _

/-! ### Tables -/

lemma headings_labels (names : List String) :
    ((names.map Label.name).mapM Label.heading).mapError Failure.shape = .ok names := by
  have hmap : (names.map Label.name).mapM Label.heading = .ok (names.map id) :=
    mapM_map fun _ _ => rfl
  rw [hmap, List.map_id]
  rfl

/-- Rows are shown if all their cells can be. -/
lemma rowsText_eq (h : ∀ row ∈ rows, Row.Formed Value.Showable row) (hne : rows ≠ []) :
    rowsText rows = .ok (tableText (headings rows) (texts rows)) := by
  have hcells : rows.mapM (cellTexts (labels rows)) = .ok (texts rows) := by
    have hrow : ∀ row ∈ rows, cellTexts (labels rows) row =
        .ok ((headings rows).map fun heading => displayed (Row.cell row heading)) := by
      intro row hrow
      rw [labels_eq h]
      refine mapM_map fun s _ => cellText_of_showable ?_
      exact (h row hrow).at trivial (.name s)
    have hmap := mapM_map (f := id) hrow
    rwa [List.map_id] at hmap
  rw [rowsText, if_neg (by simpa using hne), hcells, labels_eq h, headings_labels]
  rfl

/-- Rows are not shown if there is a cell that cannot be. -/
lemma rowsText_error (h : ∀ row ∈ rows, Row.Formed P row) {row : Row} (hrow : row ∈ rows)
    {c : Label × Value} (hc : c ∈ row) (hlong : ¬ c.2.Showable) :
    rowsText rows = .error (.number .tooLongToWrite) := by
  have hcells : rows.mapM (cellTexts (labels rows)) = .error .tooLongToWrite := by
    cases hcells : rows.mapM (cellTexts (labels rows)) with
    | ok found =>
      obtain ⟨s, hs, hcell⟩ := (h row hrow).cell_of_mem hc
      obtain ⟨found, hfound⟩ := exists_of_mapM_eq_ok hcells row hrow
      have hl : Label.name s ∈ labels rows := by
        rw [labels_eq h]
        exact List.mem_map_of_mem (mem_headings hrow hc hs)
      obtain ⟨text, htext⟩ := exists_of_mapM_eq_ok hfound _ hl
      rw [← Row.cell, hcell, cellText_of_not_showable hlong] at htext
      cases htext
    | error fault =>
      obtain ⟨other, -, hother⟩ := mapM_eq_error hcells
      obtain ⟨l, -, hl⟩ := mapM_eq_error hother
      rw [eq_of_cellText_error hl]
  have hne : ¬ rows.isEmpty = true := by
    simpa using List.ne_nil_of_mem hrow
  rw [rowsText, if_neg hne, hcells, labels_eq h, headings_labels]
  rfl

lemma descriptionText_eq {columns : List ColumnInfo} (hne : columns ≠ []) :
    descriptionText columns =
      tableText (headings (columns.map ColumnInfo.row)) (texts (columns.map ColumnInfo.row)) := by
  have hheadings : headings (columns.map ColumnInfo.row) = ["column", "type", "key"] :=
    headings_eq (by decide) (by simpa using hne)
      (List.forall_mem_map.2 fun _ _ => rfl)
  have htexts : texts (columns.map ColumnInfo.row) =
      columns.map fun c => [documentText c.name, documentText c.declared, c.mark] := by
    rw [texts, hheadings, List.map_map]
    refine List.map_congr_left fun c _ => ?_
    rw [documentText_eq, documentText_eq]
    rfl
  rw [descriptionText, if_neg (by simpa using hne), hheadings, htexts]

/-- **An answer with rows is shown as a table**, if all its cells can be shown. -/
theorem answerText_table {answer : Answer}
    (h : ∀ row ∈ answer.table, Row.Formed Value.Showable row) (hne : answer.table ≠ []) :
    ∃ shown, answerText answer = .ok shown ∧
      Tabulates (headings answer.table) (texts answer.table) shown := by
  have hlength : ∀ row ∈ texts answer.table, row.length = (headings answer.table).length := by
    intro row hrow
    obtain ⟨found, -, rfl⟩ := List.mem_map.1 hrow
    exact List.length_map _
  refine ⟨_, ?_, tabulates_tableText hlength⟩
  cases answer with
  | rows rows => exact rowsText_eq h hne
  | description columns => exact congrArg _ (descriptionText_eq (by simpa [Answer.table] using hne))
  | done effect => exact absurd rfl hne

lemma showable_cell (j : Json) : j.cell.Showable := by
  unfold Json.cell
  split <;> trivial

/-- An answer with a cell that cannot be shown is not shown. -/
lemma answerText_error {answer : Answer} (h : ∀ row ∈ answer.table, Row.Formed P row) {row : Row}
    (hrow : row ∈ answer.table) {c : Label × Value} (hc : c ∈ row) (hlong : ¬ c.2.Showable) :
    answerText answer = .error (.number .tooLongToWrite) := by
  cases answer with
  | rows rows => exact rowsText_error h hrow hc hlong
  | description columns =>
    obtain ⟨info, -, rfl⟩ := List.mem_map.1 hrow
    simp only [ColumnInfo.row, List.mem_cons, List.not_mem_nil, or_false] at hc
    rcases hc with rfl | rfl | rfl
    · exact absurd (showable_cell _) hlong
    · exact absurd (showable_cell _) hlong
    · exact absurd trivial hlong
  | done effect => cases hrow

/-- A table ends with the number of its rows. -/
lemma Tabulates.suffix {names : List String} {cells : List (List String)} {shown : String}
    (h : Tabulates names cells shown) : " row(s) returned\n".toList <:+ shown.toList := by
  obtain ⟨g, header, body, rfl, -⟩ := h
  have hend : line ("\n" ++ toString body.length ++ " row(s) returned") =
      "\n" ++ toString body.length ++ " row(s) returned\n" := by
    rw [line, String.append_assoc]
    rfl
  rw [hend, String.toList_append, String.toList_append]
  exact (List.suffix_append _ _).trans (List.suffix_append _ _)

/-- What is shown instead of a table that cannot be shown is not a table. -/
lemma not_tabulates_failure (names : List String) (cells : List (List String)) :
    ¬ Tabulates names cells (failureText (.number .tooLongToWrite)) :=
  fun h => absurd h.suffix (by decide +kernel)

/-- The table that a command is answered with. -/
lemma run_shown {c : Console} {text : String} {answer : Answer}
    (h : (c.session.execute c.files text).outcome = .ok answer) :
    (c.run text).shown = match answerText answer with
      | .ok shown => shown
      | .error failure => failureText failure := by
  rw [run]
  dsimp only
  rw [h]
  rfl

end Console

end Tabula
