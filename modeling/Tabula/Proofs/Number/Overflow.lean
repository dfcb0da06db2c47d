import Tabula.Proofs.Number.Range

/-!
The whole numbers that are too large for a floating-point number.

They begin halfway between the greatest magnitude and the one that would follow it, 2^1024: there
the tie goes to the even rank, which is out of range.
-/

namespace Tabula.Binary64

/-- The least whole number that is rounded to a rank out of range. -/
def overflow : Nat := 2 ^ 1024 - 2 ^ 970

lemma le_roundHalfEven (num den : Nat) : num / den ≤ roundHalfEven num den := by
  rcases roundHalfEven_eq num den with h | h <;> omega

/-- Rounding reaches an even number from halfway below it on. -/
lemma roundHalfEven_lt_iff {num den k : Nat} (hd : 0 < den) (hk : k % 2 = 1) :
    roundHalfEven num den < k + 1 ↔ 2 * num < (2 * k + 1) * den := by
  have hnum : den * (num / den) + num % den = num := Nat.div_add_mod num den
  have hrest : num % den < den := Nat.mod_lt num hd
  have hodd : (2 * k + 1) * den = 2 * (k * den) + den := by ring
  rw [hodd]
  rcases Nat.lt_trichotomy (num / den) k with hlt | heq | hgt
  · have hround := roundHalfEven_le num den
    have hbelow : den * (num / den + 1) ≤ k * den := by
      rw [Nat.mul_comm k]
      exact Nat.mul_le_mul_left _ hlt
    rw [Nat.mul_succ] at hbelow
    omega
  · rw [roundHalfEven, heq]
    rw [heq, Nat.mul_comm den] at hnum
    split_ifs <;> omega
  · have hround := le_roundHalfEven num den
    have habove : (k + 1) * den ≤ den * (num / den) := by
      rw [Nat.mul_comm den]
      exact Nat.mul_le_mul_right _ hgt
    rw [Nat.succ_mul] at habove
    omega

lemma log2_mul_unitsPerOne {m : Nat} (hm : m ≠ 0) :
    Nat.log2 (m * unitsPerOne) = Nat.log2 m + 1074 := by
  have hpos : m * unitsPerOne ≠ 0 := Nat.mul_ne_zero hm unitsPerOne_pos.ne'
  refine (Nat.log2_eq_iff hpos).2 ⟨?_, ?_⟩
  · rw [← span_eq rfl]
    exact Nat.mul_le_mul_right _ (Nat.log2_self_le hm)
  · rw [← span_eq (show Nat.log2 m + 1 + 1074 = Nat.log2 m + 1074 + 1 by omega)]
    exact Nat.mul_lt_mul_of_pos_right Nat.lt_log2_self unitsPerOne_pos

lemma ne_zero_of_pow_le {m e : Nat} (h : 2 ^ e ≤ m) : m ≠ 0 :=
  ((Nat.two_pow_pos e).trans_le h).ne'

lemma le_log2_of_pow_le {m e : Nat} (h : 2 ^ e ≤ m) : e ≤ Nat.log2 m :=
  (Nat.le_log2 (ne_zero_of_pow_le h)).2 h

lemma log2_eq_of_pow_le {m e k : Nat} (hlow : 2 ^ e ≤ m) (hhigh : m < 2 ^ k) (hk : e + 1 = k) :
    Nat.log2 m = e := by
  subst hk
  exact (Nat.log2_eq_iff (ne_zero_of_pow_le hlow)).2 ⟨hlow, hhigh⟩

/-- The rank of a whole number, read off its length in bits. -/
lemma nearestRank_one {m : Nat} (hm : m ≠ 0) :
    nearestRank m 1 = (Nat.log2 m + 1022) * 2 ^ 52 +
      roundHalfEven (m * unitsPerOne) (2 ^ (Nat.log2 m + 1022)) := by
  rw [nearestRank_eq, Nat.div_one, Nat.one_mul, log2_mul_unitsPerOne hm]
  rfl

lemma nearestRank_lt_of_lt {m : Nat} (h : m < 2 ^ 1023) : nearestRank m 1 < rankCount := by
  rw [show 1023 = 52 + 971 from rfl, pow_add] at h
  exact nearestRank_lt (h.trans_le (Nat.mul_le_mul_right _ (by decide)))

lemma le_nearestRank {m : Nat} (h : 2 ^ 1024 ≤ m) : rankCount ≤ nearestRank m 1 := by
  have hm := ne_zero_of_pow_le h
  have hlog := le_log2_of_pow_le h
  have hbits : 2 ^ 52 * 2 ^ (Nat.log2 m + 1022) ≤ m * unitsPerOne := by
    rw [← pow_add, ← span_eq (show Nat.log2 m + 1074 = 52 + (Nat.log2 m + 1022) by omega)]
    exact Nat.mul_le_mul_right _ (Nat.log2_self_le hm)
  have hquotient := (Nat.le_div_iff_mul_le (Nat.two_pow_pos _)).2 hbits
  have hround := le_roundHalfEven (m * unitsPerOne) (2 ^ (Nat.log2 m + 1022))
  have hcount : rankCount = 2047 * 2 ^ 52 := rfl
  rw [nearestRank_one hm]
  omega

/-- Between the last two powers it is rounding that decides. -/
lemma nearestRank_of_log2 {m : Nat} (h : Nat.log2 m = 1023) :
    nearestRank m 1 = 2045 * 2 ^ 52 + roundHalfEven m (2 ^ 971) := by
  have hm : m ≠ 0 := by
    rintro rfl
    simp at h
  rw [nearestRank_one hm, h, ← span_eq (show 971 + 1074 = 1023 + 1022 from rfl),
    roundHalfEven_mul unitsPerOne_pos]

lemma overflow_eq : overflow = (2 ^ 54 - 1) * 2 ^ 970 := by
  rw [overflow, Nat.sub_mul, Nat.one_mul, ← pow_add]

lemma roundHalfEven_lt_iff_overflow (m : Nat) :
    roundHalfEven m (2 ^ 971) < 2 ^ 53 ↔ m < overflow := by
  have hround := @roundHalfEven_lt_iff m (2 ^ 970 * 2) (2 ^ 53 - 1) (by positivity) rfl
  rw [pow_succ, overflow_eq]
  generalize 2 ^ 970 = half at *
  omega

/-- With the last exponent, a rank has 53 bits after it. -/
lemma lt_rankCount_iff (r : Nat) : 2045 * 2 ^ 52 + r < rankCount ↔ r < 2 ^ 53 := by
  have hcount : rankCount = 2047 * 2 ^ 52 := rfl
  omega

/-- **Which whole numbers are rounded to a magnitude.** -/
theorem nearestRank_lt_iff (m : Nat) : nearestRank m 1 < rankCount ↔ m < overflow := by
  rcases Nat.lt_or_ge m (2 ^ 1023) with hm | hm
  · have hlow : 2 ^ 1023 < overflow := by
      rw [overflow_eq, show 1023 = 53 + 970 from rfl, pow_add]
      exact Nat.mul_lt_mul_of_pos_right (by decide) (by positivity)
    exact iff_of_true (nearestRank_lt_of_lt hm) (hm.trans hlow)
  rcases Nat.lt_or_ge m (2 ^ 1024) with hm' | hm'
  · rw [nearestRank_of_log2 (log2_eq_of_pow_le hm hm' rfl), lt_rankCount_iff,
      roundHalfEven_lt_iff_overflow]
  · have hhigh : overflow ≤ 2 ^ 1024 := Nat.sub_le _ _
    exact iff_of_false (Nat.not_lt.2 (le_nearestRank hm')) (Nat.not_lt.2 (hhigh.trans hm'))

/-- **A whole number has a floating-point number** exactly if it does not overflow. -/
theorem ofInt_eq (n : Int) :
    (n.natAbs < overflow → ∃ x, ofInt n = .ok x) ∧
      (overflow ≤ n.natAbs → ofInt n = .error .tooLargeForReal) := by
  refine ⟨fun h => ofInt_of_rank ((nearestRank_lt_iff _).2 h), fun h => ?_⟩
  have hrank : ¬ nearestRank n.natAbs 1 < rankCount := by
    rw [nearestRank_lt_iff]
    exact Nat.not_lt.2 h
  rw [ofInt, ofRank, dif_neg hrank]
  rfl

end Tabula.Binary64
