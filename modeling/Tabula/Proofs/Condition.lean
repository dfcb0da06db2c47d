import Tabula.Proofs.Value.Order

/-!
The six comparisons of a cell with a value, taken together.

A condition asks one of them. What they answer about one cell and one value fits together: each is
decided by how the two stand to each other, of which there are three ways and that of no order.
-/

namespace Tabula

namespace Comparison

/-- The comparison that asks the same with the sides exchanged. -/
def swap : Comparison → Comparison
  | atLeast => atMost
  | atMost => atLeast
  | notEqual => notEqual
  | equal => equal
  | greater => less
  | less => greater

/-- The sides of a comparison can be exchanged, also where it cannot be decided. -/
theorem holds_swap (c : Comparison) (v w : Value) : c.swap.holds w v = c.holds v w := by
  have hcompare (f g : Option Ordering → Bool) (hfg : ∀ o, f (o.map .swap) = g o) :
      f <$> w.looselyCompare v = g <$> v.looselyCompare w := by
    rw [Value.looselyCompare_swap v w]
    cases v.looselyCompare w with
    | error fault => rfl
    | ok o => exact congrArg Except.ok (hfg o)
  cases c with
  | equal => exact Value.looselyEqual_comm w v
  | notEqual => exact congrArg ((! ·) <$> ·) (Value.looselyEqual_comm w v)
  | less | greater | atMost | atLeast =>
    refine hcompare _ _ fun o => ?_
    rcases o with _ | _ | _ | _ <;> rfl

/-- What a comparison says of two values that stand to each other in this way. -/
def accepts : Comparison → Option Ordering → Bool
  | equal, o => o == some .eq
  | notEqual, o => !(o == some .eq)
  | less, o => o == some .lt
  | greater, o => o == some .gt
  | atMost, o => o == some .lt || o == some .eq
  | atLeast, o => o == some .gt || o == some .eq

lemma holds_of_stand {v w : Value} {o : Option Ordering} (h : v.Stand w o) (c : Comparison) :
    c.holds v w = .ok (c.accepts o) := by
  cases c with
  | equal => exact h.equal
  | notEqual => exact congrArg ((! ·) <$> ·) h.equal
  | less | greater | atMost | atLeast =>
    rw [holds, h.compare]
    rfl

/-- What a comparison says where one of the two is NULL. -/
def acceptsNull (bothNull : Bool) : Comparison → Bool
  | equal => bothNull
  | notEqual => !bothNull
  | _ => false

/-- NULL is equal to NULL alone, and in no order with anything. -/
lemma holds_null {v w : Value} (h : v = .null ∨ w = .null) (c : Comparison) :
    c.holds v w = .ok (c.acceptsNull (v == .null && w == .null)) := by
  have hequal : v.looselyEqual w = .ok (v == .null && w == .null) := by
    rw [Value.looselyEqual, if_pos h]
  have hcompare : v.looselyCompare w = .ok none := by
    rcases h with rfl | rfl
    · rfl
    · cases v <;> rfl
  cases c with
  | equal => exact hequal
  | notEqual => exact congrArg ((! ·) <$> ·) hequal
  | less | greater | atMost | atLeast =>
    rw [holds, hcompare]
    rfl

/-- The answers of the six comparisons of a cell with a value fit together. -/
structure Coherent (cell v : Value) (answer : Comparison → Bool) : Prop where
  negation : answer notEqual = !answer equal
  orGreater (hv : v ≠ .null) : answer atLeast = (answer greater || answer equal)
  orLess (hv : v ≠ .null) : answer atMost = (answer less || answer equal)
  exclusive (hv : v ≠ .null) : [less, equal, greater].countP answer ≤ 1
  ordered (hv : v ≠ .null) : (∃ c ∈ [less, equal, greater], answer c = true) ↔
    cell ≠ .null ∧ ¬ cell.NumberAgainstWords v
  unordered (hv : v = .null) : ∀ c ∈ [less, atMost, greater, atLeast], answer c = false
  onlyNull (hv : v = .null) : answer equal = true ↔ cell = .null

lemma coherent_of_stand {cell v : Value} {o : Option Ordering} (hc : cell ≠ .null) (hv : v ≠ .null)
    (h : cell.Stand v o) : Coherent cell v (accepts · o) where
  negation := rfl
  orGreater _ := rfl
  orLess _ := rfl
  exclusive _ := by rcases o with _ | _ | _ | _ <;> decide
  ordered _ := by
    have hany : (∃ c ∈ [less, equal, greater], accepts c o = true) ↔ o ≠ none := by
      rcases o with _ | _ | _ | _ <;> decide
    rw [hany, Ne, h.none_iff]
    exact (and_iff_right hc).symm
  unordered hnull := absurd hnull hv
  onlyNull hnull := absurd hnull hv

lemma coherent_null {cell v : Value} (h : cell = .null ∨ v = .null) :
    Coherent cell v (acceptsNull (cell == .null && v == .null)) := by
  by_cases hv : v = .null
  · exact ⟨rfl, fun hn => absurd hv hn, fun hn => absurd hv hn, fun hn => absurd hv hn,
      fun hn => absurd hv hn, fun _ => by simp [acceptsNull], fun _ => by simp [acceptsNull, hv]⟩
  · have hc : cell = .null := h.resolve_right hv
    have hboth : (cell == .null && v == .null) = false := by simp [hv]
    rw [hboth]
    exact ⟨rfl, fun _ => rfl, fun _ => rfl, fun _ => by decide, fun _ => by simp [acceptsNull, hc],
      fun hn => absurd hn hv, fun hn => absurd hn hv⟩

/-- **The comparisons of two values are decided, and fit together.** -/
theorem exists_coherent {cell v : Value} (hcn : ¬ cell.IsNaN) (hvn : ¬ v.IsNaN)
    (hcr : cell.Readable) (hvr : v.Readable) :
    ∃ answer, (∀ c : Comparison, c.holds cell v = .ok (answer c)) ∧ Coherent cell v answer := by
  by_cases hnull : cell = .null ∨ v = .null
  · exact ⟨_, holds_null hnull, coherent_null hnull⟩
  · rw [not_or] at hnull
    obtain ⟨o, ho⟩ := Value.exists_stand hnull.1 hnull.2 hcn hvn hcr hvr
    exact ⟨_, holds_of_stand ho, coherent_of_stand hnull.1 hnull.2 ho⟩

end Comparison

namespace Condition

open Comparison

/-- **The six comparisons are coherent**, unless the cell or the value is no number, or is text with
too many digits: their answers fit together. And whatever the two sides are, they can be
exchanged. -/
theorem holds_coherent {row : Row} {column : ColumnName} {v : Value}
    (hcn : ¬ (Row.cell row column.text).IsNaN) (hvn : ¬ v.IsNaN)
    (hcd : (Row.cell row column.text).DigitsWithin digitLimit) (hvd : v.DigitsWithin digitLimit) :
    let cell := Row.cell row column.text
    (∃ answer, (∀ c, holds ⟨column, c, v⟩ row = .ok (answer c)) ∧ Coherent cell v answer) ∧
      cell.looselyEqual v = v.looselyEqual cell ∧
      v.looselyCompare cell = Option.map Ordering.swap <$> cell.looselyCompare v ∧
      ∀ c : Comparison, c.swap.holds v cell = c.holds cell v := by
  obtain ⟨answer, hholds, hcoherent⟩ :=
    exists_coherent hcn hvn (Value.readable_iff.2 hcd) (Value.readable_iff.2 hvd)
  exact ⟨⟨answer, hholds, hcoherent⟩, Value.looselyEqual_comm _ _, Value.looselyCompare_swap _ _,
    fun c => c.holds_swap _ _⟩

/-- A number between the one that is spelled in Arabic digits, with blanks around them, and the next
whole one. -/
def between : Value := .real (.ofDecimal false 425 (-1))

theorem holds_coherent_digits :
    ∃ answer : Comparison → Bool,
      (∀ c, holds ⟨⟨none, "a"⟩, c, between⟩ [(.name "a", .text " ٤٢ ")] = .ok (answer c)) ∧
      answer .less = true ∧ answer .equal = false ∧ answer .atLeast = false := by
  have hnumber : ¬ between.IsNaN := by
    rw [Value.isNaN_iff]
    rintro ⟨payload, hnan⟩
    exact Binary64.ofDecimal_ne_nan payload (Value.real.inj hnan)
  have hvalue : between ≠ .null := by simp [between]
  have hless : holds ⟨⟨none, "a"⟩, .less, between⟩ [(.name "a", .text " ٤٢ ")] = .ok true := by
    decide +kernel
  have hdigits : (Value.text " ٤٢ ").DigitsWithin digitLimit :=
    Value.digitsWithin_of_length (by decide)
  obtain ⟨⟨answer, hholds, hcoherent⟩, -⟩ :=
    @holds_coherent [(.name "a", .text " ٤٢ ")] ⟨none, "a"⟩ between id hnumber hdigits trivial
  have hl : answer .less = true := Except.ok.inj ((hholds .less).symm.trans hless)
  have hexclusive := hcoherent.exclusive hvalue
  rw [List.countP_cons_of_pos hl] at hexclusive
  have hrest : [equal, greater].countP answer = 0 := by omega
  rw [List.countP_eq_zero] at hrest
  have he : answer .equal = false := by simpa using hrest .equal (by simp)
  have hg : answer .greater = false := by simpa using hrest .greater (by simp)
  exact ⟨answer, hholds, hl, he, by rw [hcoherent.orGreater hvalue, hg, he]; rfl⟩

end Condition

end Tabula
