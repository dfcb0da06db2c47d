import Mathlib.Tactic.Lemma
import Tabula.Text.Blank
import Tabula.Text.Casing
import Tabula.Text.Digit
import Tabula.Text.Word

/-!
Characters of different classes are different: blanks, digits, the characters of words, and the
letters of keywords.
-/

namespace Tabula.Text

variable {c : Char}

/-! ### ASCII -/

lemma isDigit_iff : c.isDigit = true ↔ 48 ≤ c.toNat ∧ c.toNat ≤ 57 := by
  simp only [Char.isDigit, Bool.and_eq_true, decide_eq_true_eq, UInt32.le_iff_toNat_le, ge_iff_le]
  exact Iff.rfl

lemma eq_iff_toNat {d : Char} : c = d ↔ c.toNat = d.toNat := Char.toNat_inj.symm

lemma isWordStart_iff : isWordStart c = true ↔
    (65 ≤ c.toNat ∧ c.toNat ≤ 90) ∨ (97 ≤ c.toNat ∧ c.toNat ≤ 122) ∨ c.toNat = 95 := by
  rw [isWordStart, Bool.or_eq_true, isAlpha_iff, decide_eq_true_eq, eq_iff_toNat, or_assoc]
  exact Iff.rfl

lemma isWordChar_iff (h : c.toNat < 0x80) : isWordChar c = true ↔
    (48 ≤ c.toNat ∧ c.toNat ≤ 57) ∨ isWordStart c = true := by
  rw [isWordChar, if_pos h, isWordStart, Char.isAlphanum, Bool.or_eq_true, Bool.or_eq_true,
    Bool.or_eq_true, isDigit_iff, or_assoc, or_left_comm]

/-- Of the digits in ASCII, and of those only, nothing but their code points needs to be known. -/
lemma digit?_of_lt (h : c.toNat < 0x660) :
    digit? c = if 48 ≤ c.toNat ∧ c.toNat ≤ 57 then some (c.toNat - 48) else none := by
  have hothers : ∀ z ∈ zeros.tail, 0x660 ≤ z := by decide
  have hnone : zeros.tail.find? (fun z => z ≤ c.toNat && c.toNat < z + 10) = none := by
    rw [List.find?_eq_none]
    intro z hz
    have := hothers z hz
    simp only [Bool.and_eq_true, decide_eq_true_eq, not_and]
    omega
  change ((0x30 :: zeros.tail).find? _).map _ = _
  rw [List.find?_cons, hnone]
  by_cases hd : 48 ≤ c.toNat ∧ c.toNat ≤ 57
  · rw [if_pos hd, show (decide (0x30 ≤ c.toNat) && decide (c.toNat < 0x30 + 10)) = true by
      simp only [Bool.and_eq_true, decide_eq_true_eq]
      omega]
    rfl
  · rw [if_neg hd, show (decide (0x30 ≤ c.toNat) && decide (c.toNat < 0x30 + 10)) = false by
      simp only [Bool.and_eq_false_iff, decide_eq_false_iff_not]
      omega]
    rfl

/-! ### Blanks -/

/-- The code points of the blanks. -/
def blanks : List Nat :=
  [0x09, 0x0A, 0x0B, 0x0C, 0x0D, 0x1C, 0x1D, 0x1E, 0x1F, 0x20, 0x85, 0xA0, 0x1680, 0x2000, 0x2001,
   0x2002, 0x2003, 0x2004, 0x2005, 0x2006, 0x2007, 0x2008, 0x2009, 0x200A, 0x2028, 0x2029, 0x202F,
   0x205F, 0x3000]

lemma toNat_mem_blanks (h : isBlank c = true) : c.toNat ∈ blanks := by
  simp only [isBlank, Bool.or_eq_true, Bool.and_eq_true, decide_eq_true_eq, beq_iff_eq] at h
  simp only [blanks, List.mem_cons, List.not_mem_nil, or_false]
  omega

/-- A blank is none of the characters that can be seen in ASCII. -/
lemma toNat_of_isBlank (h : isBlank c = true) : c.toNat < 0x21 ∨ 0x7F < c.toNat := by
  have hall : ∀ n ∈ blanks, n < 0x21 ∨ 0x7F < n := by decide
  exact hall _ (toNat_mem_blanks h)

lemma isWordChar_of_isBlank (h : isBlank c = true) : isWordChar c = false := by
  have hnone : ∀ n ∈ blanks, 0x80 ≤ n →
      ∀ r ∈ lettersAndNumerals, ¬ (r.1 ≤ n ∧ n ≤ r.2) := by
    decide +kernel
  by_cases hn : c.toNat < 0x80
  · have hlow := toNat_of_isBlank h
    rw [← Bool.not_eq_true, isWordChar_iff hn, isWordStart_iff]
    omega
  · rw [isWordChar, if_neg hn]
    simpa [inRanges] using hnone _ (toNat_mem_blanks h) (Nat.le_of_not_lt hn)

lemma digit?_of_isBlank (h : isBlank c = true) : digit? c = none := by
  have hnone : ∀ n ∈ blanks, ∀ z ∈ zeros, ¬ (z ≤ n ∧ n < z + 10) := by decide +kernel
  have hfind : zeros.find? (fun z => z ≤ c.toNat && c.toNat < z + 10) = none := by
    rw [List.find?_eq_none]
    intro z hz
    simpa using hnone c.toNat (toNat_mem_blanks h) z hz
  rw [digit?, hfind]
  rfl

/-! ### Letters of keywords -/

/-- What has a capital letter for its upper case is that letter in one of the two cases. -/
lemma toNat_of_toUpper (h : 65 ≤ c.toUpper.toNat ∧ c.toUpper.toNat ≤ 90) :
    (65 ≤ c.toNat ∧ c.toNat ≤ 90) ∨ (97 ≤ c.toNat ∧ c.toNat ≤ 122) := by
  by_cases hlower : 97 ≤ c.toNat ∧ c.toNat ≤ 122
  · exact .inr hlower
  · have hnot : ¬ ('a'.val ≤ c.val ∧ c.val ≤ 'z'.val) := by
      rw [UInt32.le_iff_toNat_le, UInt32.le_iff_toNat_le]
      exact hlower
    rw [show c.toUpper = c from dif_neg hnot] at h
    exact .inl h

lemma capital_of_lt (h : c.toNat < 0x80) : capital c = [c.toUpper] := by
  unfold capital
  split <;> first | omega | rfl

end Tabula.Text
