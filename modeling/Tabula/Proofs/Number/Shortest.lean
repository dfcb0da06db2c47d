import Mathlib.Tactic.Lemma
import Tabula.Proofs.Number.Rounding

/-!
The shortest decimal of a magnitude, and its significant digits.

Main statement: the shortest decimal reads back as the magnitude.
-/

namespace Tabula.Binary64

lemma ofDecimal_of_onGrid? {rank : Fin rankCount} {e : Int} {d : Nat × Int}
    (h : onGrid? rank e = some d) : ofDecimal false d.1 d.2 = .finite false rank := by
  unfold onGrid? at h
  dsimp only at h
  split at h
  · -- both neighbours read back, and rounding takes one of them
    rename_i hlow hhigh
    obtain rfl := Option.some.inj h
    rcases roundHalfEven_eq (inTens (units rank) e).1 (inTens (units rank) e).2 with hr | hr
    · rw [hr]
      exact eq_of_beq hlow
    · rw [hr]
      exact eq_of_beq hhigh
  · rename_i hlow _
    obtain rfl := Option.some.inj h
    exact eq_of_beq hlow
  · rename_i _ hhigh
    obtain rfl := Option.some.inj h
    exact eq_of_beq hhigh
  · simp at h

/-- Either the search finds the decimal, or it is the exact value. -/
lemma shortest_eq (rank : Fin rankCount) :
    shortest rank = (units rank * 5 ^ 1074, -1074) ∨
      ∃ e, onGrid? rank e = some (shortest rank) := by
  unfold shortest
  dsimp only
  cases hs : (List.range 17).findSome? fun k : Nat => onGrid? rank (leading (units rank) - k) with
  | none => exact .inl rfl
  | some d =>
    obtain ⟨k, -, hk⟩ := List.exists_of_findSome?_eq_some hs
    exact .inr ⟨_, hk⟩

/-- **The shortest decimal reads back.** -/
theorem ofDecimal_shortest {rank : Fin rankCount} (h : 0 < rank.val) :
    ofDecimal false (shortest rank).1 (shortest rank).2 = .finite false rank := by
  rcases shortest_eq rank with hs | ⟨e, he⟩
  · rw [hs]
    exact ofDecimal_units h
  · exact ofDecimal_of_onGrid? he

lemma shortest_pos {rank : Fin rankCount} (h : 0 < rank.val) : 0 < (shortest rank).1 := by
  have hread := ofDecimal_shortest h
  by_contra hc
  rw [Nat.eq_zero_of_not_pos hc] at hread
  simp only [ofDecimal, if_true, zero, finite.injEq, true_and] at hread
  rw [← hread] at h
  exact absurd h (by decide)

lemma digitChar_ne_zero {d : Nat} (h : d < 10) (hd : d ≠ 0) : Nat.digitChar d ≠ '0' := by
  have all : ∀ e ∈ List.range 10, e ≠ 0 → Nat.digitChar e ≠ '0' := by decide
  exact all d (List.mem_range.2 h) hd

/-- The digits of a number end in a zero only if ten divides it. -/
lemma reverse_decimal {n : Nat} (h : n % 10 ≠ 0) :
    (decimal n).reverse.dropWhile (· == '0') = (decimal n).reverse := by
  have hd := digitChar_ne_zero (Nat.mod_lt n (by decide)) h
  rw [decimal, Nat.toDigits_eq_if (by decide)]
  split
  · rename_i hn
    rw [Nat.mod_eq_of_lt hn] at hd
    simp [hd]
  · simp [hd]

/-- The significant digits are those of the number without its factors of ten. -/
lemma significant_eq {m : Nat} (h : 0 < m) :
    ∃ s z : Nat, 0 < s ∧ m = s * 10 ^ z ∧ significant m = decimal s := by
  induction m using Nat.strong_induction_on with
  | _ m ih =>
    by_cases hm : m % 10 = 0
    · have hq : m = m / 10 * 10 ^ 1 := by omega
      have hpos : 0 < m / 10 := by omega
      obtain ⟨s, z, hs, heq, hsig⟩ := ih (m / 10) (by omega) hpos
      refine ⟨s, z + 1, hs, ?_, ?_⟩
      · rw [pow_succ, ← Nat.mul_assoc, ← heq]
        omega
      · rw [← hsig, hq, significant, decimal_mul_pow hpos, ← hq]
        simp [significant]
    · exact ⟨m, 0, h, by simp, by rw [significant, reverse_decimal hm, List.reverse_reverse]⟩

/-- No zero stands before the digits of a positive number. -/
lemma head_decimal {n : Nat} (h : 0 < n) : (decimal n).head? ≠ some '0' := by
  induction n using Nat.strong_induction_on with
  | _ n ih =>
    rw [decimal, Nat.toDigits_eq_if (by decide)]
    split
    · rename_i hn
      simpa using digitChar_ne_zero hn h.ne'
    · have := ih (n / 10) (by omega) (by omega)
      rw [← decimal]
      cases hd : decimal (n / 10) with
      | nil => exact absurd hd (decimal_ne_nil _)
      | cons c cs => simpa [hd] using this

end Tabula.Binary64
