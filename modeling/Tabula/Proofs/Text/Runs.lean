import Mathlib.Data.List.DropRight
import Mathlib.Data.List.Infix
import Mathlib.Data.List.TakeWhile
import Mathlib.Tactic.Lemma
import Tabula.Text.Blank
import Tabula.Text.Digit

/-!
Runs of digits.

A text without long runs of digits has none in any of its parts either. What is read as digits at
the head of a text is a run.
-/

namespace Tabula.Text

/-- No more than so many digits of any script stand in a row. -/
def RunsWithin (limit : Nat) (cs : List Char) : Prop :=
  ∀ run, run <:+: cs → (∀ c ∈ run, isDigit c = true) → run.length ≤ limit

variable {limit : Nat} {c : Char} {cs ds : List Char}

lemma RunsWithin.of_part (h : RunsWithin limit cs) (hi : ds <:+: cs) : RunsWithin limit ds :=
  fun run hr => h run (hr.trans hi)

lemma RunsWithin.of_suffix (h : RunsWithin limit cs) (hs : ds <:+ cs) : RunsWithin limit ds :=
  h.of_part hs.isInfix

lemma RunsWithin.mono (h : RunsWithin limit cs) {more : Nat} (hm : limit ≤ more) :
    RunsWithin more cs := fun run hr hd => (h run hr hd).trans hm

/-- A short text has no long run. -/
lemma runsWithin_of_length (h : cs.length ≤ limit) : RunsWithin limit cs :=
  fun _ hr _ => hr.length_le.trans h

/-- Nor has a text with few digits. -/
lemma runsWithin_of_countP (h : cs.countP isDigit ≤ limit) : RunsWithin limit cs := by
  intro run hr hd
  rw [← List.countP_eq_length.2 hd]
  exact hr.sublist.countP_le.trans h

lemma isDigit_of_digit? {d : Nat} (h : digit? c = some d) : isDigit c = true := by
  rw [isDigit, h]
  rfl

/-- The digits at the head of a text, as they are written. -/
lemma exists_run (cs : List Char) :
    ∃ run, run ++ (digits cs).2 = cs ∧ (∀ c ∈ run, isDigit c = true) ∧
      run.length = (digits cs).1.length := by
  induction cs with
  | nil => exact ⟨[], rfl, by simp, rfl⟩
  | cons c cs ih =>
    cases hc : digit? c with
    | none => exact ⟨[], by simp [digits, hc], by simp, by simp [digits, hc]⟩
    | some d =>
      obtain ⟨run, happend, hdigits, hlength⟩ := ih
      refine ⟨c :: run, ?_, ?_, ?_⟩
      · simp [digits, hc, happend]
      · exact List.forall_mem_cons.2 ⟨isDigit_of_digit? hc, hdigits⟩
      · simp [digits, hc, hlength]

lemma RunsWithin.length_digits (h : RunsWithin limit cs) : (digits cs).1.length ≤ limit := by
  obtain ⟨run, happend, hdigits, hlength⟩ := exists_run cs
  rw [← hlength]
  exact h run ⟨[], (digits cs).2, by simpa using happend⟩ hdigits

/-! ### Blanks -/

lemma trim_part (cs : List Char) : trim cs <:+: cs := by
  have hleft := (List.dropWhile_suffix (l := cs) isBlank).isInfix
  have hright := (List.dropWhile_suffix (l := (cs.dropWhile isBlank).reverse) isBlank).isInfix
  rw [← List.reverse_infix, List.reverse_reverse] at hright
  exact hright.trans hleft

lemma trimLeft_suffix (cs : List Char) : trimLeft cs <:+ cs := List.dropWhile_suffix isBlank

/-- Only blanks are lost at the ends. -/
lemma mem_trim (hc : c ∈ cs) (hb : isBlank c = false) : c ∈ trim cs := by
  have hdrop : ∀ {ds : List Char}, c ∈ ds → c ∈ ds.dropWhile isBlank := by
    intro ds hd
    rw [← List.takeWhile_append_dropWhile (p := isBlank) (l := ds), List.mem_append] at hd
    refine hd.resolve_left fun ht => ?_
    rw [List.mem_takeWhile_imp ht] at hb
    cases hb
  rw [trim, trimWhere, List.mem_reverse]
  exact hdrop (List.mem_reverse.2 (hdrop hc))

/-- Text without the blanks at its ends starts with none. -/
lemma trim_head (cs : List Char) : ∀ c ∈ (trim cs).head?, isBlank c = false := by
  intro c hc
  have hp : trim cs <+: cs.dropWhile isBlank := List.rdropWhile_prefix isBlank _
  obtain ⟨us, hus⟩ : ∃ us, trim cs = c :: us := List.head?_eq_some_iff.1 hc
  obtain ⟨tail, htail⟩ := hus ▸ hp
  have hhead := List.head?_dropWhile_not isBlank cs
  rw [← htail] at hhead
  simpa using hhead

/-- Nor does it end with one. -/
lemma trim_last (cs : List Char) : ∀ c ∈ (trim cs).getLast?, isBlank c = false := by
  intro c hc
  rw [trim, trimWhere, List.getLast?_reverse] at hc
  have hhead := List.head?_dropWhile_not isBlank (cs.dropWhile isBlank).reverse
  rw [Option.mem_def.1 hc] at hhead
  simpa using hhead

end Tabula.Text
