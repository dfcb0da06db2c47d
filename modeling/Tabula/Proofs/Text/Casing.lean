import Mathlib.Data.List.Forall2
import Tabula.Proofs.Text.Classes

/-!
Words that are compared without regard to case.

A character counts as one capital at most, and that is its upper case unless the upper case is a
ligature. So a word whose upper case has none reads as its capitals, and as no word with another
letter in one of its places.
-/

namespace Tabula.Text

variable {c k : Char} {js ks cs rest : List Char}

/-! ### Letters -/

def IsCapital (k : Char) : Prop := 65 ≤ k.toNat ∧ k.toNat ≤ 90

lemma cases_of_sameLetter (h : sameLetter k c = true) : c.toUpper = k ∨
    (k = 'I' ∧ (c = '\u0130' ∨ c = '\u0131')) ∨ (k = 'S' ∧ c = '\u017F') ∨
      (k = 'K' ∧ c = '\u212A') := by
  simpa [sameLetter, or_assoc, eq_iff_toNat] using h

lemma sameLetter_toUpper (c : Char) : sameLetter c.toUpper c = true := by
  simp [sameLetter]

/-- The capital that a character counts as. -/
def capitalOf (c : Char) : Char :=
  if c = '\u0130' ∨ c = '\u0131' then 'I' else if c = '\u017F' then 'S'
  else if c = '\u212A' then 'K' else c.toUpper

lemma eq_capitalOf (hk : IsCapital k) (h : sameLetter k c = true) : k = capitalOf c := by
  obtain rfl | ⟨rfl, rfl | rfl⟩ | ⟨rfl, rfl⟩ | ⟨rfl, rfl⟩ := cases_of_sameLetter h
  · have hc := toNat_of_toUpper hk
    have hne : ∀ {d : Char}, 0x80 ≤ d.toNat → c ≠ d := by
      rintro d hd rfl
      omega
    rw [capitalOf, if_neg (not_or.2 ⟨hne (by decide), hne (by decide)⟩), if_neg (hne (by decide)),
      if_neg (hne (by decide))]
  all_goals decide

/-- What counts as a capital is a character of words. -/
lemma isWordChar_of_sameLetter (hk : IsCapital k) (h : sameLetter k c = true) :
    isWordChar c = true := by
  obtain rfl | ⟨rfl, rfl | rfl⟩ | ⟨rfl, rfl⟩ | ⟨rfl, rfl⟩ := cases_of_sameLetter h
  · have hc := toNat_of_toUpper hk
    exact isWordChar_of_isWordStart (isWordStart_iff.2 (by omega))
  all_goals decide +kernel

/-! ### Upper case -/

/-- The pairs that upper cases of one character start with. -/
def ligatures : List (Char × Char) := [('S', 'S'), ('F', 'F'), ('F', 'I'), ('F', 'L'), ('S', 'T')]

/-- Whether no two letters side by side are a ligature. -/
def apart : List Char → Bool
  | c :: d :: cs => !ligatures.contains (c, d) && apart (d :: cs)
  | _ => true

lemma capital_cases (c : Char) : (∃ u, capital c = [u] ∧ sameLetter u c = true) ∨
    ∃ u v us, capital c = u :: v :: us ∧ (u, v) ∈ ligatures := by
  unfold capital
  split
  case h_11 => exact .inl ⟨c.toUpper, rfl, sameLetter_toUpper c⟩
  case h_2 h => exact .inl ⟨'I', rfl, by simp [sameLetter, h]⟩
  case h_3 h => exact .inl ⟨'S', rfl, by simp [sameLetter, h]⟩
  all_goals exact .inr ⟨_, _, _, rfl, by decide⟩

/-- The capitals, each in some case. -/
def Matches (ks cs : List Char) : Prop := List.Forall₂ (fun k c => sameLetter k c = true) ks cs

lemma matches_map_toUpper (cs : List Char) : Matches (cs.map Char.toUpper) cs := by
  induction cs with
  | nil => exact .nil
  | cons c cs ih => exact .cons (sameLetter_toUpper c) ih

/-- **A text whose upper case has no ligatures reads as it, letter for letter.** -/
lemma matches_capitals (ha : apart (capitals cs) = true) : Matches (capitals cs) cs := by
  induction cs with
  | nil => exact .nil
  | cons c cs ih =>
    rw [capitals, List.flatMap_cons, ← capitals] at ha ⊢
    obtain ⟨u, hu, hletter⟩ | ⟨u, v, vs, hu, hmem⟩ := capital_cases c
    · rw [hu, List.singleton_append] at ha ⊢
      refine .cons hletter (ih ?_)
      cases hcs : capitals cs with
      | nil => rfl
      | cons d ds =>
        rw [hcs, apart, Bool.and_eq_true] at ha
        exact ha.2
    · rw [hu, List.cons_append, List.cons_append, apart, Bool.and_eq_true, Bool.not_eq_true',
        List.contains_eq_mem, decide_eq_false_iff_not] at ha
      exact absurd hmem ha.1

/-! ### Words -/

/-- Two words have different letters at some place. -/
def clash : List Char → List Char → Bool
  | c :: cs, d :: ds => c != d || clash cs ds
  | _, _ => false

lemma dropWord?_append (h : Matches ks cs) : dropWord? ks (cs ++ rest) = some rest := by
  induction h with
  | nil => rfl
  | cons hletter _ ih => rw [List.cons_append, dropWord?, if_pos hletter, ih]

lemma dropWord?_of_clash (h : Matches ks cs) (hj : ∀ j ∈ js, IsCapital j)
    (hk : ∀ k ∈ ks, IsCapital k) (hclash : clash js ks = true) :
    dropWord? js (cs ++ rest) = none := by
  induction h generalizing js with
  | nil => cases js <;> cases hclash
  | @cons k c ks cs hletter _ ih =>
    cases js with
    | nil => cases hclash
    | cons j js =>
      obtain ⟨hj, hjs⟩ := List.forall_mem_cons.1 hj
      obtain ⟨hk, hks⟩ := List.forall_mem_cons.1 hk
      rw [List.cons_append, dropWord?]
      split
      · rename_i hsame
        obtain rfl : j = k := (eq_capitalOf hj hsame).trans (eq_capitalOf hk hletter).symm
        exact ih hjs hks (by simpa [clash] using hclash)
      · rfl

end Tabula.Text
