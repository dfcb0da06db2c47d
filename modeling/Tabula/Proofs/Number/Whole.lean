import Tabula.Proofs.Number.Numeral
import Tabula.Proofs.Token.Printed

/-!
Text that spells a whole number.

Comparison reads the number that a whole text spells, a cast to whole numbers the one at its head.
Where the text spells a whole number these are the same, for what is left after its digits is blank.
-/

namespace Tabula

namespace Text

variable {cs rest : List Char}

/-- Blanks are what is lost on the right. -/
lemma exists_trail (cs : List Char) :
    ∃ trail, (∀ c ∈ trail, isBlank c = true) ∧ trimLeft cs = trim cs ++ trail := by
  refine ⟨((trimLeft cs).reverse.takeWhile isBlank).reverse, fun c hc => ?_, ?_⟩
  · exact List.mem_takeWhile_imp (List.mem_reverse.1 hc)
  · change _ = ((trimLeft cs).reverse.dropWhile isBlank).reverse ++ _
    rw [← List.reverse_append, List.takeWhile_append_dropWhile, List.reverse_reverse]

lemma trim_of_visible (h : ∀ c ∈ cs, isBlank c = false) : trim cs = cs := by
  apply trim_eq_self
  · rw [Option.any_eq_false]
    exact fun c hc => h c (List.mem_of_mem_head? hc)
  · rw [Option.any_eq_false]
    exact fun c hc => h c (List.mem_of_mem_getLast? hc)

/-- What follows digits to the end, and does not start with one, is not read as digits. -/
lemma digits_append_of_all (h : (digits cs).2 = []) (hr : ∀ c ∈ rest.head?, digit? c = none) :
    digits (cs ++ rest) = ((digits cs).1, rest) := by
  induction cs with
  | nil => exact Token.digits_of_stop hr
  | cons c cs ih =>
    unfold digits at h ⊢
    cases hc : digit? c with
    | none =>
      rw [hc] at h
      cases h
    | some d =>
      rw [hc] at h
      rw [List.cons_append]
      simp only [hc, ih h]

end Text

open Text

namespace Numeral

variable {cs rest : List Char} {n : Int}

lemma sign_append (h : cs ≠ []) (rest : List Char) :
    sign (cs ++ rest) = ((sign cs).1, (sign cs).2 ++ rest) := by
  obtain ⟨c, cs, rfl⟩ := List.exists_cons_of_ne_nil h
  by_cases hminus : c = '-'
  · rw [hminus]
    rfl
  by_cases hplus : c = '+'
  · rw [hplus]
    rfl
  have hsign : ∀ ds, sign (c :: ds) = (false, c :: ds) := by
    intro ds
    unfold sign
    split
    · rename_i heq
      exact absurd (List.cons.inj heq).1 hminus
    · rename_i heq
      exact absurd (List.cons.inj heq).1 hplus
    · rfl
  rw [List.cons_append, hsign, hsign]
  rfl

/-- A numeral that is read to its end and has neither a point nor an exponent. -/
lemma digits_of_scan? {m : Numeral} (h : scan? cs = some (m, [])) (hf : m.fraction = none)
    (he : m.exponent = none) :
    m.negative = (sign cs).1 ∧ digits (sign cs).2 = (m.whole, []) ∧ m.whole ≠ [] := by
  unfold scan? at h
  dsimp only at h
  split at h
  · cases h
  · rename_i hsome
    simp only [Option.some.injEq, Prod.mk.injEq] at h
    obtain ⟨rfl, hrest⟩ := h
    rw [scanExponent_none he, scanFraction_none hf] at hrest
    refine ⟨rfl, Prod.ext rfl hrest, fun hwhole => hsome ?_⟩
    dsimp only at hf hwhole
    rw [hf, hwhole]
    rfl

lemma value_eq_int {m : Numeral} (h : m.value = .ok (.int n)) :
    m.fraction = none ∧ m.exponent = none ∧ readInt m.negative m.whole = .ok n := by
  unfold value at h
  split at h
  · rename_i hf he
    obtain ⟨k, hread, hk⟩ := map_eq_ok.1 h
    obtain rfl : k = n := Number.int.inj hk
    exact ⟨hf, he, hread⟩
  · cases h

lemma exists_scan?_of_read? {v : Number} (h : read? cs = .ok (some v)) :
    ∃ m, scan? (trim cs) = some (m, []) ∧ m.value = .ok v := by
  unfold read? at h
  split at h
  · rename_i m hscan
    obtain ⟨w, hw, hv⟩ := map_eq_ok.1 h
    obtain rfl : w = v := Option.some.inj hv
    exact ⟨m, hscan, hw⟩
  · cases h

/-- **The whole number that a text spells is the one at its head.** -/
theorem leadingInt?_of_read? (h : read? cs = .ok (some (.int n))) :
    leadingInt? cs = .ok (some n) := by
  obtain ⟨m, hscan, hvalue⟩ := exists_scan?_of_read? h
  obtain ⟨hf, he, hread⟩ := value_eq_int hvalue
  obtain ⟨hnegative, hdigits, hwhole⟩ := digits_of_scan? hscan hf he
  obtain ⟨trail, htrail, htrim⟩ := exists_trail cs
  have hne : trim cs ≠ [] := by
    intro hempty
    rw [hempty] at hscan
    cases hscan
  have hstop : ∀ c ∈ trail.head?, digit? c = none := fun c hc =>
    digit?_of_isBlank (htrail c (List.mem_of_mem_head? hc))
  have hall : digits ((sign (trim cs)).2 ++ trail) = (m.whole, trail) := by
    rw [digits_append_of_all (by rw [hdigits]) hstop, hdigits]
  rw [leadingInt?, htrim, sign_append hne]
  dsimp only
  rw [hall, ← hnegative]
  obtain ⟨d, ds, hd⟩ := List.exists_cons_of_ne_nil hwhole
  rw [hd] at hread ⊢
  change some <$> readInt m.negative (d :: ds) = _
  rw [hread]
  rfl

lemma isBlank_of_mem_decimalInt {c : Char} (h : c ∈ decimalInt n) : isBlank c = false := by
  have hdigit : ∀ c ∈ decimal n.natAbs, isBlank c = false := by
    intro c hc
    have hcode := isDigit_iff.1 (isDigit_of_mem_decimal hc)
    rw [← Bool.not_eq_true]
    intro hb
    have hlow := toNat_of_isBlank hb
    omega
  unfold decimalInt at h
  split at h
  · rcases List.mem_cons.1 h with rfl | h
    · decide
    · exact hdigit c h
  · exact hdigit c h

/-- The decimal text of a whole number spells it. -/
theorem read?_decimalInt (h : Writable n) : read? (decimalInt n) = .ok (some (.int n)) := by
  have hscan := @Token.scan?_decimalInt [] n (by simp)
  rw [List.append_nil] at hscan
  rw [read?, trim_of_visible fun c hc => isBlank_of_mem_decimalInt hc, hscan]
  dsimp only
  rw [value, readInt_decimalInt h]
  rfl

end Numeral

end Tabula
