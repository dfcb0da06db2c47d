import Mathlib.Data.List.Forall2
import Mathlib.Data.List.GetD
import Mathlib.Tactic.Lemma
import Tabula.Console.Display

/-!
Where the cells of a table stand.

`Tabulates` tells what a table looks like from the offsets of its columns, which are the same in
every line, and says nothing about how wide a column is to be. Whatever the texts of the headings
and of the cells are, what `tableText` makes of them is such a table.
-/

namespace Tabula.Console

/-- So many characters of a text, from an offset on. -/
def slice (s : String) (start length : Nat) : String :=
  String.ofList ((s.toList.drop start).take length)

def blanks (n : Nat) : String := String.ofList (List.replicate n ' ')

def dashes (n : Nat) : String := String.ofList (List.replicate n '-')

/-- The columns of a table: where each of them starts, and how wide it is. -/
structure Grid where
  start : Nat → Nat
  width : Nat → Nat

namespace Grid

/-- The columns go from the first character of a line to its last, with three characters between
one column and the next. -/
structure Spans (g : Grid) (columns length : Nat) : Prop where
  first : g.start 0 = 0
  next : ∀ j, j + 1 < columns → g.start (j + 1) = g.start j + g.width j + 3
  last : ∀ j, j + 1 = columns → g.start j + g.width j = length

/-- A line has these texts in the columns. Each is there as a whole, with nothing but spaces after
it, and a bar stands between one column and the next. -/
structure Places (g : Grid) (texts : List String) (s : String) : Prop where
  cell : ∀ (j : Nat) (h : j < texts.length),
    ∃ n, slice s (g.start j) (g.width j) = texts[j] ++ blanks n
  bar : ∀ j, j + 1 < texts.length → slice s (g.start j + g.width j) 3 = " | "

end Grid

/-- What is shown is a table with these headings and these cells: a line of headings, a line of
dashes, a line for each row, all of one length and with the columns at the same offsets, and at the
end the number of rows. -/
def Tabulates (headings : List String) (cells : List (List String)) (shown : String) : Prop :=
  ∃ (g : Grid) (header : String) (body : List String),
    shown = String.join ((header :: dashes header.length :: body).map line) ++
      line ("\n" ++ toString body.length ++ " row(s) returned") ∧
    g.Spans headings.length header.length ∧ g.Places headings header ∧
    List.Forall₂ (fun texts s => g.Places texts s ∧ s.length = header.length) cells body

/-! ### Lines -/

@[simp] lemma length_blanks (n : Nat) : (blanks n).length = n := by simp [blanks]

lemma slice_append (before middle after : String) :
    slice (before ++ (middle ++ after)) before.length middle.length = middle := by
  simp [slice, ← String.length_toList]

/-- Each text fits into the column of its width. -/
abbrev Fit (widths : List Nat) (texts : List String) : Prop :=
  List.Forall₂ (fun w s => s.length ≤ w) widths texts

/-- Where a column starts, after the columns before it. -/
def offset : List Nat → Nat → Nat
  | w :: widths, j + 1 => w + 3 + offset widths j
  | _, _ => 0

lemma offset_zero (widths : List Nat) : offset widths 0 = 0 := by cases widths <;> rfl

lemma offset_succ {widths : List Nat} {j : Nat} (h : j < widths.length) :
    offset widths (j + 1) = offset widths j + widths[j] + 3 := by
  induction widths generalizing j with
  | nil => cases h
  | cons w widths ih =>
    cases j with
    | zero => simp [offset, offset_zero]
    | succ j =>
      rw [offset, offset, ih (Nat.lt_of_succ_lt_succ h), List.getElem_cons_succ]
      omega

variable {w : Nat} {s : String} {widths : List Nat} {texts : List String}

lemma pad_eq (w : Nat) (s : String) : pad w s = s ++ blanks (w - s.length) := rfl

lemma length_pad (h : s.length ≤ w) : (pad w s).length = w := by
  rw [pad_eq, String.length_append, length_blanks]
  omega

lemma tableLine_cons (hf : Fit widths texts) (ht : texts ≠ []) :
    tableLine (w :: widths) (s :: texts) = pad w s ++ (" | " ++ tableLine widths texts) := by
  have hne : List.zipWith pad widths texts ≠ [] := by
    rw [ne_eq, List.zipWith_eq_nil_iff, ← List.length_eq_zero_iff, hf.length_eq,
      List.length_eq_zero_iff]
    simpa using ht
  unfold tableLine
  rw [List.zipWith_cons_cons, String.intercalate_cons_of_ne_nil hne, String.append_assoc]

/-- A line from a column on: the padded text of the column, and then a bar, unless the column is the
last one. -/
lemma tableLine_parts (hf : Fit widths texts) {j : Nat} (hj : j < texts.length) :
    ∃ before rest, tableLine widths texts =
        before ++ (pad (widths.getD j 0) texts[j] ++ rest) ∧
      before.length = offset widths j ∧ texts[j].length ≤ widths.getD j 0 ∧
      (j + 1 < texts.length → ∃ more, rest = " | " ++ more) ∧
      (j + 1 = texts.length → rest = "") := by
  induction hf generalizing j with
  | nil => cases hj
  | @cons w s widths texts hs hf ih =>
    cases j with
    | zero =>
      by_cases ht : texts = []
      · obtain rfl := ht
        exact ⟨"", "", by simp [tableLine], rfl, hs, by simp, fun _ => rfl⟩
      · refine ⟨"", _, ?_, rfl, hs, fun _ => ⟨tableLine widths texts, rfl⟩, fun h => ?_⟩
        · rw [tableLine_cons hf ht, String.empty_append]
          rfl
        · exact absurd (List.length_eq_zero_iff.1 (Nat.succ.inj h).symm) ht
    | succ j =>
      have hj : j < texts.length := by simpa using hj
      obtain ⟨before, rest, hline, hlength, hfit, hbar, hlast⟩ := ih hj
      refine ⟨pad w s ++ (" | " ++ before), rest, ?_, ?_, hfit, fun h => hbar (by simpa using h),
        fun h => hlast (by simpa using h)⟩
      · rw [tableLine_cons hf (List.ne_nil_of_length_pos (by omega)), hline]
        simp only [String.append_assoc, List.getD_cons_succ, List.getElem_cons_succ]
      · rw [String.length_append, String.length_append, length_pad hs, hlength, offset,
          Nat.add_assoc]
        rfl

/-- The columns of these widths. -/
def gridOf (widths : List Nat) : Grid := ⟨offset widths, fun j => widths.getD j 0⟩

lemma places_tableLine (hf : Fit widths texts) :
    (gridOf widths).Places texts (tableLine widths texts) where
  cell := by
    intro j hj
    obtain ⟨before, rest, hline, hlength, hfit, -, -⟩ := tableLine_parts hf hj
    have hslice := slice_append before (pad (widths.getD j 0) texts[j]) rest
    rw [← hline, hlength, length_pad hfit] at hslice
    exact ⟨_, hslice⟩
  bar := by
    intro j hj
    obtain ⟨before, rest, hline, hlength, hfit, hbar, -⟩ := tableLine_parts hf (by omega : j < _)
    obtain ⟨more, rfl⟩ := hbar hj
    have hslice := slice_append (before ++ pad (widths.getD j 0) texts[j]) " | " more
    rwa [String.append_assoc, ← hline, String.length_append, hlength, length_pad hfit] at hslice

lemma length_tableLine (hf : Fit widths texts) {j : Nat} (hj : j + 1 = texts.length) :
    (tableLine widths texts).length = offset widths j + widths.getD j 0 := by
  obtain ⟨before, rest, hline, hlength, hfit, -, hlast⟩ := tableLine_parts hf (by omega : j < _)
  rw [hline, hlast hj, String.append_empty, String.length_append, hlength, length_pad hfit]

lemma spans_gridOf (hf : Fit widths texts) :
    (gridOf widths).Spans texts.length (tableLine widths texts).length where
  first := offset_zero widths
  next := by
    intro j hj
    have hw : j < widths.length := by rw [hf.length_eq]; omega
    change offset widths (j + 1) = offset widths j + widths.getD j 0 + 3
    rw [offset_succ hw, List.getD_eq_getElem _ _ hw]
  last := fun j hj => (length_tableLine hf hj).symm

/-- Lines of texts in the same columns have the same length. -/
lemma length_tableLine_eq {others : List String} (hf : Fit widths texts) (hg : Fit widths others) :
    (tableLine widths texts).length = (tableLine widths others).length := by
  have hlength : texts.length = others.length := hf.length_eq.symm.trans hg.length_eq
  cases h : texts.length with
  | zero =>
    rw [h] at hlength
    rw [List.length_eq_zero_iff.1 h, List.length_eq_zero_iff.1 hlength.symm]
  | succ j =>
    rw [length_tableLine hf h.symm, length_tableLine (j := j) hg (by omega)]

/-! ### Tables -/

lemma le_foldl_max {α : Type} (f : α → Nat) (as : List α) (w : Nat) :
    w ≤ as.foldl (fun w a => max w (f a)) w ∧
      ∀ a ∈ as, f a ≤ as.foldl (fun w a => max w (f a)) w := by
  induction as generalizing w with
  | nil => simp
  | cons a as ih =>
    obtain ⟨hfirst, hrest⟩ := ih (max w (f a))
    rw [List.foldl_cons]
    refine ⟨Nat.le_trans (Nat.le_max_left _ _) hfirst, List.forall_mem_cons.2 ⟨?_, hrest⟩⟩
    exact Nat.le_trans (Nat.le_max_right _ _) hfirst

/-- A column is as wide as any of the texts in it. -/
lemma le_width {headings : List String} {texts : List (List String)} {row : List String}
    (h : row ∈ headings :: texts) (j : Nat) :
    (row.getD j "").length ≤ width headings texts j :=
  (le_foldl_max (fun row => (row.getD j "").length) (headings :: texts) 0).2 row h

def columnWidths (headings : List String) (texts : List (List String)) : List Nat :=
  (List.range headings.length).map (width headings texts)

lemma fit_columnWidths {headings : List String} {texts : List (List String)} {row : List String}
    (h : row ∈ headings :: texts) (hl : row.length = headings.length) :
    Fit (columnWidths headings texts) row := by
  rw [Fit, List.forall₂_iff_get]
  refine ⟨by simp [columnWidths, hl], fun j hj hrow => ?_⟩
  have hle := le_width h j
  rw [List.getD_eq_getElem _ _ hrow] at hle
  simpa [columnWidths] using hle

/-- **Tables are aligned and complete.** -/
theorem tabulates_tableText {headings : List String} {texts : List (List String)}
    (h : ∀ row ∈ texts, row.length = headings.length) :
    Tabulates headings texts (tableText headings texts) := by
  have hheader : Fit (columnWidths headings texts) headings :=
    fit_columnWidths List.mem_cons_self rfl
  have hrow : ∀ row ∈ texts, Fit (columnWidths headings texts) row := fun row hrow =>
    fit_columnWidths (List.mem_cons_of_mem _ hrow) (h row hrow)
  refine ⟨gridOf (columnWidths headings texts), tableLine (columnWidths headings texts) headings,
    texts.map (tableLine (columnWidths headings texts)), ?_, spans_gridOf hheader,
    places_tableLine hheader, ?_⟩
  · rw [List.length_map]
    rfl
  · rw [List.forall₂_map_right_iff, List.forall₂_same]
    exact fun row hm => ⟨places_tableLine (hrow row hm), length_tableLine_eq (hrow row hm) hheader⟩

end Tabula.Console
