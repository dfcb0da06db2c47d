import Mathlib.Data.Nat.Log
import Mathlib.Tactic.Lemma
import Mathlib.Tactic.NormNum
import Mathlib.Tactic.Ring
import Tabula.Number.Shortest
import Tabula.Proofs.Number.Digits

/-!
Rounding to the nearest magnitude: a common factor of numerator and denominator does not matter,
nor does the way a decimal is split into digits and a power of ten, and a magnitude is the nearest
to itself. So the shortest decimal of a magnitude reads back as the magnitude.
-/

namespace Tabula.Binary64

/-! ### The definitions in the notation for powers -/

lemma unitsPerOne_eq : unitsPerOne = 2 ^ 1074 := rfl

/-- The first ranks are their own magnitudes; the others have a leading bit before the fraction. -/
lemma units_eq (rank : Nat) : units rank =
    if rank < 2 ^ 52 then rank else (2 ^ 52 + rank % 2 ^ 52) * 2 ^ (rank / 2 ^ 52 - 1) := rfl

lemma ofDecimal_eq (negative : Bool) (m : Nat) (e : Int) : ofDecimal negative m e =
    if m = 0 then zero negative
    else if 400 < (decimal m).length + e then .infinite negative
    else if (decimal m).length + e < -400 then zero negative
    else if 0 ≤ e then ofRank negative (nearestRank (m * 10 ^ e.toNat) 1)
    else ofRank negative (nearestRank m (10 ^ (-e).toNat)) := rfl

variable {num den k : Nat}

lemma nearestRank_eq : nearestRank num den =
    (Nat.log2 (num * unitsPerOne / den) - 52) * 2 ^ 52 +
      roundHalfEven (num * unitsPerOne)
        (den * 2 ^ (Nat.log2 (num * unitsPerOne / den) - 52)) := rfl

/-! ### Rounding -/

lemma roundHalfEven_mul (hk : 0 < k) :
    roundHalfEven (num * k) (den * k) = roundHalfEven num den := by
  unfold roundHalfEven
  have hdiv : num * k / (den * k) = num / den := Nat.mul_div_mul_right _ _ hk
  have hmod : num * k % (den * k) = num % den * k := Nat.mul_mod_mul_right _ _ _
  have hlt : ∀ a b : Nat, a * k < b * k ↔ a < b := fun a b => Nat.mul_lt_mul_right hk
  simp only [hdiv, hmod, ← Nat.mul_assoc, hlt]

/-- A quotient without a remainder is not rounded. -/
lemma roundHalfEven_exact (hd : 0 < den) (n : Nat) : roundHalfEven (n * den) den = n := by
  simp [roundHalfEven, Nat.mul_div_cancel _ hd, hd]

/-- One of the two neighbours is taken. -/
lemma roundHalfEven_eq (num den : Nat) :
    roundHalfEven num den = num / den ∨ roundHalfEven num den = num / den + 1 := by
  unfold roundHalfEven
  dsimp only
  split_ifs <;> omega

lemma nearestRank_mul (hk : 0 < k) : nearestRank (num * k) (den * k) = nearestRank num den := by
  have hdiv : num * k * unitsPerOne / (den * k) = num * unitsPerOne / den := by
    rw [show num * k * unitsPerOne = num * unitsPerOne * k by ring, Nat.mul_div_mul_right _ _ hk]
  have hden : ∀ s, den * k * 2 ^ s = den * 2 ^ s * k := fun s => by ring
  rw [nearestRank_eq, hdiv, show num * k * unitsPerOne = num * unitsPerOne * k by ring, hden,
    roundHalfEven_mul hk, ← nearestRank_eq]

/-- No magnitude has more than 2098 bits. -/
lemma units_lt (rank : Fin rankCount) (hk : 2098 ≤ k) : units rank < 2 ^ k := by
  have hr : rank.val < 2047 * 2 ^ 52 := rank.isLt
  have mono : ∀ {i : Nat}, i ≤ k → 2 ^ i ≤ 2 ^ k := Nat.pow_le_pow_right Nat.two_pos
  rw [units_eq]
  split
  · rename_i h
    exact h.trans_le (mono (by omega))
  · have hf : 2 ^ 52 + rank.val % 2 ^ 52 < 2 ^ 53 := by omega
    have he : rank.val / 2 ^ 52 - 1 ≤ 2045 := by omega
    refine (Nat.mul_lt_mul_of_pos_right hf (Nat.two_pow_pos _)).trans_le ?_
    rw [← pow_add]
    exact mono (by omega)

lemma units_pos {rank : Nat} (h : 0 < rank) : 0 < units rank := by
  rw [units_eq]
  split
  · exact h
  · exact Nat.mul_pos (by omega) (Nat.pow_pos (by decide))

/-- The exponent of a rank, as it is read off the magnitude. -/
lemma log2_units (rank : Nat) : Nat.log2 (units rank) - 52 = rank / 2 ^ 52 - 1 := by
  rw [units_eq]
  split
  · rename_i h
    have : Nat.log2 rank ≤ 52 := by
      rcases Nat.eq_zero_or_pos rank with rfl | hr
      · simp
      · exact Nat.le_of_lt ((Nat.log2_lt hr.ne').2 h)
    omega
  · rename_i h
    set e := rank / 2 ^ 52 - 1
    have hlow : 2 ^ (52 + e) ≤ (2 ^ 52 + rank % 2 ^ 52) * 2 ^ e := by
      rw [pow_add]
      exact Nat.mul_le_mul_right _ (by omega)
    have hhigh : (2 ^ 52 + rank % 2 ^ 52) * 2 ^ e < 2 ^ (53 + e) := by
      rw [pow_add]
      exact Nat.mul_lt_mul_of_pos_right (by omega) (Nat.pow_pos (by decide))
    have hpos : (2 ^ 52 + rank % 2 ^ 52) * 2 ^ e ≠ 0 :=
      Nat.ne_of_gt (Nat.mul_pos (by omega) (Nat.pow_pos (by decide)))
    have h1 := (Nat.le_log2 hpos).2 hlow
    have h2 := (Nat.log2_lt hpos).2 hhigh
    omega

/-- A magnitude is the nearest to itself. -/
lemma nearestRank_units (rank : Nat) {num den : Nat} (hd : 0 < den)
    (h : num * unitsPerOne = units rank * den) : nearestRank num den = rank := by
  rw [nearestRank_eq, h, Nat.mul_div_cancel _ hd, log2_units,
    show den * 2 ^ (rank / 2 ^ 52 - 1) = 2 ^ (rank / 2 ^ 52 - 1) * den by ring,
    roundHalfEven_mul hd]
  rw [units_eq]
  split
  · rename_i hr
    have hz : rank / 2 ^ 52 - 1 = 0 := by omega
    have := roundHalfEven_exact Nat.one_pos rank
    rw [hz]
    simpa using this
  · rw [roundHalfEven_exact (Nat.pow_pos (by decide))]
    omega

variable {negative : Bool} {m : Nat} {e : Int}

lemma ofRank_sign {n : Nat} {rank : Fin rankCount} (h : ofRank false n = .finite false rank) :
    ofRank negative n = .finite negative rank := by
  unfold ofRank at h ⊢
  split at h
  · rename_i hn
    rw [dif_pos hn]
    simpa using h
  · simp at h

/-- The magnitude that a decimal is rounded to does not depend on its sign. -/
lemma ofDecimal_sign (negative : Bool) {rank : Fin rankCount}
    (h : ofDecimal false m e = .finite false rank) :
    ofDecimal negative m e = .finite negative rank := by
  rw [ofDecimal_eq] at h ⊢
  split_ifs at h ⊢
  · simpa [zero] using h
  · simpa [zero] using h
  · exact ofRank_sign h
  · exact ofRank_sign h

/-- No decimal is rounded to what is no number. -/
lemma ofDecimal_ne_nan (p : Nat) : ofDecimal negative m e ≠ .nan p := by
  rw [ofDecimal_eq]
  split_ifs <;> simp [zero, ofRank] <;> split_ifs <;> simp

/-- Zeros at the end of the digits can be left to the power of ten. -/
lemma ofDecimal_mul_pow (negative : Bool) (m : Nat) (e : Int) (k : Nat) :
    ofDecimal negative (m * 10 ^ k) (e - k) = ofDecimal negative m e := by
  rcases Nat.eq_zero_or_pos m with rfl | hm
  · simp [ofDecimal]
  have hmk : m * 10 ^ k ≠ 0 := (Nat.mul_pos hm (Nat.pow_pos (by decide))).ne'
  have htop : ((decimal (m * 10 ^ k)).length : Int) + (e - k) = (decimal m).length + e := by
    rw [length_decimal_mul_pow hm]
    push_cast
    ring
  rw [ofDecimal_eq, ofDecimal_eq, htop, if_neg hmk, if_neg hm.ne']
  -- what is left is the quotient that is rounded
  split_ifs with h1 h2 h3 h4 h4
  · rfl
  · rfl
  · have hk : e.toNat = k + (e - k).toNat := by omega
    rw [hk, pow_add, Nat.mul_assoc]
  · omega
  · have hk : (10 : Nat) ^ k = 10 ^ e.toNat * 10 ^ (-(e - k)).toNat := by
      rw [← pow_add]
      congr 1
      omega
    have hmul : nearestRank (m * 10 ^ e.toNat * 10 ^ (-(e - k)).toNat)
        (1 * 10 ^ (-(e - k)).toNat) = nearestRank (m * 10 ^ e.toNat) 1 :=
      nearestRank_mul (Nat.pow_pos (by decide))
    rw [← hmul, hk, Nat.one_mul, Nat.mul_assoc]
  · have hk : (-(e - k)).toNat = (-e).toNat + k := by omega
    rw [hk, pow_add, nearestRank_mul (Nat.pow_pos (by decide))]

/-- The exact value of a magnitude reads back. -/
lemma ofDecimal_units {rank : Fin rankCount} (h : 0 < rank.val) :
    ofDecimal false (units rank * 5 ^ 1074) (-1074) = .finite false rank := by
  have hu := units_pos h
  have pos : ∀ k, 0 < 5 ^ k := fun k => Nat.pow_pos (by decide)
  have h5 := pos 1074
  have hm : units rank * 5 ^ 1074 ≠ 0 := (Nat.mul_pos hu h5).ne'
  have hlow : 673 < (decimal (units rank * 5 ^ 1074)).length :=
    lt_length_decimal (le_trans (by decide +kernel) (Nat.le_mul_of_pos_left _ hu))
  have hhigh : (decimal (units rank * 5 ^ 1074)).length ≤ 1474 := by
    rw [length_decimal_le_iff (by decide)]
    refine (Nat.mul_lt_mul_of_pos_right (units_lt rank le_rfl) h5).trans_le ?_
    decide +kernel
  rw [ofDecimal_eq, if_neg hm, if_neg (by omega), if_neg (by omega), if_neg (by omega)]
  have hten : 0 < 10 ^ (-(-1074 : Int)).toNat := Nat.pow_pos (by decide)
  have hexact : units rank * 5 ^ 1074 * unitsPerOne = units rank * 10 ^ (-(-1074 : Int)).toNat := by
    rw [show (-(-1074 : Int)).toNat = 1074 from rfl, show (10 : Nat) = 5 * 2 from rfl, Nat.mul_pow,
      Nat.mul_assoc, unitsPerOne_eq]
  rw [nearestRank_units rank hten hexact, ofRank, dif_pos rank.isLt]

end Tabula.Binary64
