import Tabula.Proofs.Number.Rounding

/-!
The range of floating-point numbers, and what their text has that no whole number has.
-/

namespace Tabula.Binary64

/-- Whole numbers of so many digits are not too large for a floating-point number. -/
def rangeDigits : Nat := 308

/-! ### Whole numbers in the range -/

lemma roundHalfEven_le (num den : Nat) : roundHalfEven num den ≤ num / den + 1 := by
  rcases roundHalfEven_eq num den with h | h <;> omega

/-- What is less than 53 bits before so many zeros is not rounded up to a bit more. -/
lemma rank_lt {u zeros : Nat} (h : u < (2 ^ 53 - 1) * 2 ^ zeros) :
    (Nat.log2 u - 52) * 2 ^ 52 + roundHalfEven u (2 ^ (Nat.log2 u - 52)) <
      (zeros + 2) * 2 ^ 52 := by
  have hlog : Nat.log2 u < 53 + zeros := by
    rcases Nat.eq_zero_or_pos u with rfl | hpos
    · simp
    · rw [Nat.log2_lt hpos.ne', pow_add]
      exact h.trans_le (Nat.mul_le_mul_right _ (by decide))
  have hbits : u < 2 ^ 53 * 2 ^ (Nat.log2 u - 52) := by
    rw [← pow_add]
    exact Nat.lt_log2_self.trans_le (Nat.pow_le_pow_right (by decide) (by omega))
  have hround := roundHalfEven_le u (2 ^ (Nat.log2 u - 52))
  rcases (show Nat.log2 u - 52 ≤ zeros by omega).lt_or_eq with hlt | heq
  · have hquotient := Nat.div_lt_of_lt_mul (Nat.mul_comm _ _ ▸ hbits)
    omega
  · rw [heq] at hround ⊢
    have hquotient := Nat.div_lt_of_lt_mul (Nat.mul_comm _ _ ▸ h)
    omega

lemma unitsPerOne_pos : 0 < unitsPerOne := by
  rw [unitsPerOne_eq]
  exact pow_pos Nat.two_pos _

lemma span_eq {bits zeros : Nat} (h : bits + 1074 = zeros) :
    2 ^ bits * unitsPerOne = 2 ^ zeros := by
  rw [← h, pow_add, unitsPerOne_eq]

/-- What has its 53 bits before 971 zeros, and not all of them set, is in the range. -/
lemma nearestRank_lt {m : Nat} (h : m < (2 ^ 53 - 1) * 2 ^ 971) : nearestRank m 1 < rankCount := by
  have hunits : m * unitsPerOne < (2 ^ 53 - 1) * 2 ^ 2045 := by
    rw [← span_eq (show 971 + 1074 = 2045 from rfl), ← Nat.mul_assoc]
    exact Nat.mul_lt_mul_of_pos_right h unitsPerOne_pos
  rw [nearestRank_eq, Nat.div_one, Nat.one_mul]
  exact rank_lt hunits

lemma ofInt_of_rank {n : Int} (h : nearestRank n.natAbs 1 < rankCount) : ∃ x, ofInt n = .ok x := by
  refine ⟨.finite (n < 0) ⟨nearestRank n.natAbs 1, h⟩, ?_⟩
  rw [ofInt, ofRank, dif_pos h]
  rfl

/-- **A whole number in the range has a floating-point number.** -/
theorem exists_ofInt {n : Int} (h : n.natAbs < 10 ^ rangeDigits) : ∃ x, ofInt n = .ok x := by
  have hten : (10 : Nat) ^ rangeDigits < (2 ^ 53 - 1) * 2 ^ 971 := by decide +kernel
  exact ofInt_of_rank (nearestRank_lt (h.trans hten))

/-! ### Text -/

/-- There is a point or a power of ten. -/
lemma exists_mem_layOut (ds : List Char) (power : Int) :
    '.' ∈ layOut ds power ∨ 'e' ∈ layOut ds power := by
  unfold layOut
  split
  · right
    dsimp only
    split <;> simp
  · left
    split
    · simp
    · dsimp only
      split <;> simp

lemma exists_mem_magnitudeText (rank : Fin rankCount) :
    '.' ∈ magnitudeText rank ∨ 'e' ∈ magnitudeText rank := by
  unfold magnitudeText
  split
  · exact .inl (by simp)
  · generalize shortest rank = decimals
    obtain ⟨m, e⟩ := decimals
    exact exists_mem_layOut _ _

/-- **The text of a floating-point number is not that of a whole one**: it has a point, a power of
ten, or letters only. -/
theorem exists_mem_text (x : Binary64) : ∃ c ∈ x.text, c = '.' ∨ c = 'e' ∨ c = 'n' := by
  cases x with
  | finite negative rank =>
    have hsigned : ∀ c ∈ magnitudeText rank, c ∈ (finite negative rank).text := by
      intro c hc
      rw [text, textWith]
      split
      · exact List.mem_cons_of_mem _ hc
      · exact hc
    rcases exists_mem_magnitudeText rank with h | h
    · exact ⟨'.', hsigned _ h, .inl rfl⟩
    · exact ⟨'e', hsigned _ h, .inr (.inl rfl)⟩
  | infinite negative => cases negative <;> exact ⟨'n', by simp [text, textWith], by simp⟩
  | nan payload => exact ⟨'n', by simp [text, textWith], by simp⟩

end Tabula.Binary64
