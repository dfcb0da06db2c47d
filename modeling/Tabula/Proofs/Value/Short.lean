import Tabula.Proofs.Database.Formed
import Tabula.Proofs.Number.Numeral
import Tabula.Proofs.Number.Range

/-!
Values that every conversion can deal with.

Short values can be cast to every type: their whole numbers are in the range of floating-point
numbers, and no text of theirs has a long run of digits. What a cast makes of them need not be
short, but it can be compared with anything, for text that is made of a number is read again.
-/

namespace Tabula

open Binary64 (rangeDigits)
open Text (RunsWithin)

namespace Value

/-- No truth value, and no more digits in a row than the range allows. -/
def Short : Value → Prop
  | bool _ => False
  | int n => n.natAbs < 10 ^ rangeDigits
  | text s => RunsWithin rangeDigits s.toList
  | _ => True

/-- If it is text, then it spells a number or none, and no limit is reached. -/
def Readable : Value → Prop
  | text s => ∃ r, Numeral.read? s.toList = .ok r
  | _ => True

end Value

lemma rangeDigits_le_digitLimit : rangeDigits ≤ digitLimit := by decide

/-! ### Text -/

namespace Value

lemma readable_of_runsWithin {s : String} (h : RunsWithin digitLimit s.toList) :
    (text s).Readable := Numeral.exists_read? h

lemma Short.readable {v : Value} (h : v.Short) : v.Readable := by
  cases v with
  | text s => exact readable_of_runsWithin (h.mono rangeDigits_le_digitLimit)
  | bool _ => exact h.elim
  | null | int _ | real _ => trivial

/-- The text of a whole number has no more digits than can be read. -/
lemma readable_decimalInt {n : Int} (h : Writable n) :
    (text (String.ofList (decimalInt n))).Readable := by
  apply readable_of_runsWithin
  rw [String.toList_ofList]
  apply Text.runsWithin_of_countP
  have hlength : (decimal n.natAbs).countP Text.isDigit ≤ digitLimit :=
    List.countP_le_length.trans ((writable_iff n).1 h)
  unfold decimalInt
  split
  · rwa [List.countP_cons_of_neg (by decide)]
  · exact hlength

/-- The text of a floating-point number is not that of a whole one. -/
lemma readable_text (x : Binary64) : (text (String.ofList x.text)).Readable := by
  obtain ⟨c, hc, h⟩ := Binary64.exists_mem_text x
  have hword : ¬ Numeral.IsOfWhole c := by
    rcases h with rfl | rfl | rfl <;> simp [Numeral.IsOfWhole] <;> decide
  rw [Readable, String.toList_ofList]
  exact Numeral.exists_read?_of_mem hc hword

lemma Short.writable {n : Int} (h : (int n).Short) : Writable n := by
  rw [writable_iff_lt]
  exact h.trans_le (Nat.pow_le_pow_right (by decide) rangeDigits_le_digitLimit)

lemma exists_writeInt {n : Int} (h : Writable n) :
    ∃ s, writeInt n = .ok s ∧ (text s).Readable :=
  ⟨_, by rw [writeInt, if_pos h], readable_decimalInt h⟩

/-- The plain text of a short value is written, and can be read. -/
lemma Short.exists_shown {v : Value} (h : v.Short) :
    ∃ s, v.shown = .ok s ∧ (text s).Readable := by
  cases v with
  | null => exact ⟨_, rfl, readable_of_runsWithin (Text.runsWithin_of_length (by decide))⟩
  | bool _ => exact h.elim
  | int n => exact exists_writeInt h.writable
  | real x => exact ⟨_, rfl, readable_text x⟩
  | text s => exact ⟨s, rfl, h.readable⟩

lemma Short.exists_asText {v : Value} (h : v.Short) : ∃ w, v.asText = .ok w ∧ w.Readable := by
  unfold asText
  split
  · exact ⟨_, rfl, trivial⟩
  · rename_i x
    split
    · -- a whole number, without its fraction
      rename_i n _ hn
      obtain ⟨s, hs, hread⟩ := exists_writeInt (Binary64.writable_truncate? hn)
      exact ⟨text s, by rw [hs]; rfl, hread⟩
    · exact ⟨_, rfl, readable_text x⟩
  · obtain ⟨s, hs, hread⟩ := h.exists_shown
    exact ⟨text s, by rw [hs]; rfl, hread⟩

/-- A short value that counts as a number is one. -/
lemma Short.ofNumber {v : Value} {n : Number} (h : v.Short) (hn : v.number? = some n) :
    (Value.ofNumber n).Short := by
  cases v with
  | null | text _ => cases hn
  | bool _ => exact h.elim
  | int _ | real _ =>
    cases hn
    exact h

end Value

/-! ### Casts -/

namespace ColumnType

variable {v : Value} {n : Number}

lemma exists_toInteger (h : (Value.ofNumber n).Short) : ∃ w, toInteger n = .ok w ∧ w.Readable := by
  cases n with
  | int k =>
    obtain ⟨x, hx⟩ := Binary64.exists_ofInt h
    exact ⟨.int k, by rw [toInteger, hx]; rfl, trivial⟩
  | real x =>
    refine ⟨_, rfl, ?_⟩
    cases x.truncate? <;> trivial

lemma exists_toReal (h : (Value.ofNumber n).Short) : ∃ w, toReal n = .ok w ∧ w.Readable := by
  cases n with
  | int k =>
    obtain ⟨x, hx⟩ := Binary64.exists_ofInt h
    exact ⟨.real x, by rw [toReal, hx]; rfl, trivial⟩
  | real x => exact ⟨.real x, rfl, trivial⟩

/-- A number, if the value is one, is cast as its type casts numbers. -/
lemma exists_elim {f : Number → Except NumberFault Value} (h : v.Short)
    (hf : ∀ {n}, (Value.ofNumber n).Short → ∃ w, f n = .ok w ∧ w.Readable) :
    ∃ w, v.number?.elim (.ok .null) f = .ok w ∧ w.Readable := by
  cases hn : v.number? with
  | none => exact ⟨.null, rfl, trivial⟩
  | some n => exact hf (h.ofNumber hn)

/-- **A short value has a cast to every type**, and what it is cast to can be read. -/
theorem exists_cast (type : ColumnType) (column : String) (h : v.Short) :
    ∃ w notices, type.cast column v = .ok (w, notices) ∧ w.Readable := by
  unfold cast
  split
  · obtain ⟨w, hw, hread⟩ := h.exists_asText
    exact ⟨w, [], by rw [hw]; rfl, hread⟩
  · exact ⟨_, _, rfl, trivial⟩
  · -- the whole number at the head of a text
    obtain ⟨found, hfound⟩ := Numeral.exists_leadingInt? (h.mono rangeDigits_le_digitLimit)
    rw [hfound]
    cases found with
    | none => exact ⟨_, _, rfl, trivial⟩
    | some n => exact ⟨_, _, rfl, trivial⟩
  · split
    · exact ⟨_, _, rfl, trivial⟩
    · exact ⟨_, _, rfl, trivial⟩
  · obtain ⟨w, hw, hread⟩ := exists_elim h exists_toInteger
    exact ⟨w, [], by rw [hw]; rfl, hread⟩
  · obtain ⟨w, hw, hread⟩ := exists_elim h exists_toReal
    exact ⟨w, [], by rw [hw]; rfl, hread⟩

theorem exists_castUndeclared (h : v.Short) : ∃ w, castUndeclared v = .ok w ∧ w.Readable := by
  unfold castUndeclared
  split
  · exact ⟨.null, rfl, trivial⟩
  · obtain ⟨s, hs, hread⟩ := h.exists_shown
    exact ⟨.text s, by rw [hs]; rfl, hread⟩

/-- What casts make of short values can be read. -/
lemma casts_short : Casts Value.Short Value.Readable where
  declared := by
    intro type column v w notices hv h
    obtain ⟨u, more, hu, hread⟩ := exists_cast type column hv
    rw [hu] at h
    cases h
    exact hread
  undeclared := by
    intro v w hv h
    obtain ⟨u, hu, hread⟩ := exists_castUndeclared hv
    rw [hu] at h
    cases h
    exact hread

end ColumnType

/-! ### Comparisons -/

namespace Value

variable {v w : Value}

theorem exists_pair (hv : v.Readable) (hw : w.Readable) : ∃ p, pair v w = .ok p := by
  unfold pair
  split
  · exact ⟨_, rfl⟩
  · exact ⟨_, rfl⟩
  · exact ⟨_, rfl⟩
  · split
    · obtain ⟨r, hr⟩ := hv
      rw [hr]
      cases r <;> exact ⟨_, rfl⟩
    · exact ⟨_, rfl⟩
  · split
    · obtain ⟨r, hr⟩ := hw
      rw [hr]
      cases r <;> exact ⟨_, rfl⟩
    · exact ⟨_, rfl⟩
  · split <;> exact ⟨_, rfl⟩

lemma exists_looselyEqual (hv : v.Readable) (hw : w.Readable) : ∃ b, looselyEqual v w = .ok b := by
  unfold looselyEqual
  split
  · exact ⟨_, rfl⟩
  · obtain ⟨p, hp⟩ := exists_pair hv hw
    rw [hp]
    cases p <;> exact ⟨_, rfl⟩

lemma exists_looselyCompare (hv : v.Readable) (hw : w.Readable) :
    ∃ o, looselyCompare v w = .ok o := by
  obtain ⟨p, hp⟩ := exists_pair hv hw
  rw [looselyCompare, hp]
  cases p <;> exact ⟨_, rfl⟩

end Value

/-- **Two values that can be read can be compared.** -/
theorem Comparison.exists_holds {v w : Value} (c : Comparison) (hv : v.Readable)
    (hw : w.Readable) : ∃ b, c.holds v w = .ok b := by
  obtain ⟨b, hb⟩ := Value.exists_looselyEqual hv hw
  obtain ⟨o, ho⟩ := Value.exists_looselyCompare hv hw
  cases c <;> simp only [holds, hb, ho] <;> exact ⟨_, rfl⟩

end Tabula
