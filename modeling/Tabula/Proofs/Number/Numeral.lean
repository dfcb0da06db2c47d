import Tabula.Proofs.Number.Digits
import Tabula.Proofs.Text.Runs
import Tabula.Proofs.Value.Storable

/-!
Numerals whose digits are not too many.

Only a whole number has a limit on its digits, and they stand in a row. So a text without long runs
of digits is read, and so is one with anything in it that a whole number does not have.
-/

namespace Tabula.Numeral

open Text

variable {limit : Nat} {c : Char} {cs rest : List Char} {n : Numeral}

/-- The digits before the point stand in a row. -/
lemma length_whole_le (h : scan? cs = some (n, rest)) (hr : RunsWithin limit cs) :
    n.whole.length ≤ limit := by
  unfold scan? at h
  dsimp only at h
  split at h
  · cases h
  · simp only [Option.some.injEq, Prod.mk.injEq] at h
    rw [← h.1]
    exact (hr.of_suffix (sign_suffix cs)).length_digits

lemma exists_readInt (negative : Bool) {ds : List Nat} (h : ds.length ≤ digitLimit) :
    ∃ k, readInt negative ds = .ok k := ⟨_, readInt_eq negative h⟩

lemma readInt_lt {negative : Bool} {ds : List Nat} {k : Int} (hd : ∀ d ∈ ds, d < 10)
    (hl : ds.length ≤ limit) (h : readInt negative ds = .ok k) : k.natAbs < 10 ^ limit := by
  have hlt : ofDigits ds < 10 ^ limit :=
    (ofDigits_lt hd).trans_le (Nat.pow_le_pow_right (by decide) hl)
  unfold readInt at h
  split at h
  · obtain rfl : signed negative (ofDigits ds) = k := by simpa [signed] using h
    rwa [natAbs_signed]
  · cases h

lemma exists_value (h : n.whole.length ≤ digitLimit) : ∃ v, n.value = .ok v := by
  unfold value
  split
  · obtain ⟨k, hk⟩ := exists_readInt n.negative h
    exact ⟨.int k, by rw [hk]; rfl⟩
  · exact ⟨_, rfl⟩

/-- A whole number has no more digits than stand in a row. -/
lemma natAbs_value_lt {k : Int} (h : scan? cs = some (n, rest)) (hr : RunsWithin limit cs)
    (hv : n.value = .ok (.int k)) : k.natAbs < 10 ^ limit := by
  unfold value at hv
  split at hv
  · obtain ⟨m, hm, hk⟩ := map_eq_ok.1 hv
    cases hk
    exact readInt_lt (whole_lt h) (length_whole_le h hr) hm
  · cases hv

/-- **A text without long runs of digits spells a number or none.** -/
theorem exists_read? (h : RunsWithin digitLimit cs) : ∃ r, read? cs = .ok r := by
  unfold read?
  split
  · rename_i n hn
    obtain ⟨v, hv⟩ := exists_value (length_whole_le hn (h.of_part (trim_part cs)))
    exact ⟨some v, by rw [hv]; rfl⟩
  · exact ⟨none, rfl⟩

/-- There may be a whole number at its head. -/
theorem exists_leadingInt? (h : RunsWithin digitLimit cs) : ∃ r, leadingInt? cs = .ok r := by
  unfold leadingInt?
  split
  rename_i negative rest hsign
  have hrest : rest <:+ cs := by
    have hs := sign_suffix (trimLeft cs)
    rw [hsign] at hs
    exact hs.trans (trimLeft_suffix cs)
  have hlength := (h.of_suffix hrest).length_digits
  split
  · exact ⟨none, rfl⟩
  · rename_i ds _ hds
    rw [hds] at hlength
    obtain ⟨k, hk⟩ := exists_readInt negative hlength
    exact ⟨some k, by rw [hk]; rfl⟩

/-- A character of a whole number, blanks around it aside. -/
def IsOfWhole (c : Char) : Prop := isBlank c = true ∨ c = '-' ∨ c = '+' ∨ isDigit c = true

lemma mem_sign (h : c ∈ cs) : c = '-' ∨ c = '+' ∨ c ∈ (sign cs).2 := by
  unfold sign
  split
  · exact (List.mem_cons.1 h).imp_right .inr
  · exact .inr (List.mem_cons.1 h)
  · exact .inr (.inr h)

lemma scanFraction_none (h : (scanFraction cs).1 = none) : (scanFraction cs).2 = cs := by
  unfold scanFraction at h ⊢
  split at h
  · cases h
  · rfl

lemma scanExponent_none (h : (scanExponent cs).1 = none) : (scanExponent cs).2 = cs := by
  cases cs with
  | nil => rfl
  | cons e cs =>
    simp only [scanExponent] at h ⊢
    split at h
    · cases h
    · rename_i hcond
      rw [if_neg hcond]

/-- What is read to its end without a point and an exponent has a sign and digits only. -/
lemma isOfWhole_of_scan? (h : scan? cs = some (n, [])) (hf : n.fraction = none)
    (he : n.exponent = none) (hc : c ∈ cs) : IsOfWhole c := by
  unfold scan? at h
  dsimp only at h
  split at h
  · cases h
  · simp only [Option.some.injEq, Prod.mk.injEq] at h
    obtain ⟨rfl, hrest⟩ := h
    rw [scanExponent_none he, scanFraction_none hf] at hrest
    obtain ⟨run, happend, hdigits, -⟩ := exists_run (sign cs).2
    rw [hrest, List.append_nil] at happend
    rcases mem_sign hc with rfl | rfl | hm
    · exact .inr (.inl rfl)
    · exact .inr (.inr (.inl rfl))
    · rw [← happend] at hm
      exact .inr (.inr (.inr (hdigits c hm)))

/-- A text with a character that a whole number does not have spells no whole number. -/
theorem exists_read?_of_mem (hc : c ∈ cs) (hw : ¬ IsOfWhole c) : ∃ r, read? cs = .ok r := by
  have htrim : c ∈ trim cs := by
    refine mem_trim hc ?_
    rw [← Bool.not_eq_true]
    exact fun hb => hw (.inl hb)
  unfold read?
  split
  · rename_i n hn
    unfold value
    split
    · rename_i hf he
      exact absurd (isOfWhole_of_scan? hn hf he htrim) hw
    · exact ⟨some _, rfl⟩
  · exact ⟨none, rfl⟩

end Tabula.Numeral
