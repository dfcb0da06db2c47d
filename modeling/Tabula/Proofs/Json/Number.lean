import Mathlib.Tactic.Lemma
import Tabula.Json.Read
import Tabula.Json.Write
import Tabula.Proofs.Number.Shortest

/-!
Numbers in JSON: what is written for a number reads back as the number.

A text of digits, a point and an exponent is taken apart again by the reader, as long as what comes
after it cannot be a part of it. The layout of a floating-point number is such a text, and its value
does not depend on where the point stands.
-/

namespace Tabula.Json

open Binary64

/-- What may come after a number. -/
def Ends (rest : List Char) : Prop := ∀ c ∈ rest.head?, c = ',' ∨ c = '\n'

/-- No digit comes next. -/
def Stops (rest : List Char) : Prop := ∀ c ∈ rest.head?, c.isDigit = false

lemma Ends.stops {rest : List Char} (h : Ends rest) : Stops rest := by
  intro c hc
  rcases h c hc with rfl | rfl <;> decide

lemma stops_cons {c : Char} {rest : List Char} (h : c.isDigit = false) : Stops (c :: rest) := by
  intro d hd
  obtain rfl : c = d := by simpa using hd
  exact h

/-- The digits of a number, and no zero before others. -/
structure IsWhole (ds : List Char) : Prop where
  digits : ∀ c ∈ ds, c.isDigit = true
  ne_nil : ds ≠ []
  zero : ds = ['0'] ∨ ds.head? ≠ some '0'

lemma isWhole_decimal (n : Nat) : IsWhole (decimal n) where
  digits := fun _ => isDigit_of_mem_decimal
  ne_nil := decimal_ne_nil n
  zero := by
    rcases n.eq_zero_or_pos with rfl | h
    · exact .inl rfl
    · exact .inr (head_decimal h)

section Parts

variable {ds rest : List Char}

lemma readDigits_append (h : ∀ c ∈ ds, c.isDigit = true) (hr : Stops rest) :
    readDigits (ds ++ rest) = (ds.map digitValue, rest) := by
  have htake : (ds ++ rest).takeWhile Char.isDigit = ds := by
    rw [List.takeWhile_append_of_pos h]
    cases rest with
    | nil => simp
    | cons c rest => simp [hr c rfl]
  have hdrop : (ds ++ rest).dropWhile Char.isDigit = rest := by
    rw [List.dropWhile_append_of_pos h]
    cases rest with
    | nil => simp
    | cons c rest => simp [hr c rfl]
  unfold readDigits
  rw [htake, hdrop]

lemma readWhole_append (h : IsWhole ds) (hr : Stops rest) :
    readWhole (ds ++ rest) = (ds.map digitValue, rest) := by
  rcases h.zero with rfl | hz
  · rfl
  · cases ds with
    | nil => exact absurd rfl h.ne_nil
    | cons c ds =>
      have hc : c ≠ '0' := by simpa using hz
      rw [List.cons_append, readWhole.eq_2 _ (by simpa using hc), ← List.cons_append,
        readDigits_append h.digits hr]

lemma readFraction_append (h : ∀ c ∈ ds, c.isDigit = true) (hne : ds ≠ []) (hr : Stops rest) :
    readFraction ('.' :: ds ++ rest) = (some (ds.map digitValue), rest) := by
  rw [List.cons_append, readFraction, readDigits_append h hr]
  cases ds with
  | nil => exact absurd rfl hne
  | cons c ds => rfl

lemma readFraction_none (h : ∀ c ∈ rest.head?, c ≠ '.') : readFraction rest = (none, rest) := by
  unfold readFraction
  split
  · exact absurd rfl (h '.' rfl)
  · rfl

/-- An exponent with its sign. -/
lemma readExponent_append (negative : Bool) (h : ∀ c ∈ ds, c.isDigit = true) (hne : ds ≠ [])
    (hr : Stops rest) :
    readExponent ('e' :: (if negative then '-' else '+') :: ds ++ rest) =
      (some (signed negative (ofDigits (ds.map digitValue))), rest) := by
  have hsign : Numeral.sign ((if negative then '-' else '+') :: (ds ++ rest)) =
      (negative, ds ++ rest) := by cases negative <;> rfl
  rw [List.cons_append, List.cons_append, readExponent, if_pos (by decide), hsign]
  dsimp only
  rw [readDigits_append h hr]
  cases ds with
  | nil => exact absurd rfl hne
  | cons c ds => rfl

lemma readExponent_none (h : Ends rest) : readExponent rest = (none, rest) := by
  cases rest with
  | nil => rfl
  | cons c rest =>
    rw [readExponent]
    rcases h c rfl with rfl | rfl <;> rfl

end Parts

/-- A text with a minus sign before it, if it is one of a negative number. -/
def withSign (negative : Bool) (cs : List Char) : List Char := if negative then '-' :: cs else cs

/-- The parts of a number, read one after the other. -/
lemma readNumber_parts {ws tail after rest : List Char} {f : Option (List Nat)} {x : Option Int}
    {n : Number} (negative : Bool) (hw : IsWhole ws) (ht : Stops tail)
    (hf : readFraction tail = (f, after)) (hx : readExponent after = (x, rest))
    (hn : (Numeral.mk negative (ws.map digitValue) f x).value = .ok n) :
    readNumber (withSign negative (ws ++ tail)) = .ok (.ofNumber n, rest) := by
  have hwhole := readWhole_append hw ht
  obtain ⟨c, cs, rfl⟩ := List.exists_cons_of_ne_nil hw.ne_nil
  have hminus : c ≠ '-' := by
    rintro rfl
    exact absurd (hw.digits _ List.mem_cons_self) (by decide)
  unfold readNumber
  split
  rename_i sgn unsigned heq
  obtain ⟨rfl, rfl⟩ : negative = sgn ∧ c :: cs ++ tail = unsigned := by
    cases negative <;> rw [withSign] at heq <;> split at heq <;> simp_all
  dsimp only
  rw [hwhole, List.map_cons]
  dsimp only
  rw [hf]
  dsimp only
  rw [hx]
  dsimp only
  rw [← List.map_cons, hn]

lemma decimalInt_eq (n : Int) : decimalInt n = withSign (n < 0) (decimal n.natAbs) := by
  unfold decimalInt withSign
  by_cases h : n < 0 <;> simp [h]

lemma withSign_append (negative : Bool) (cs rest : List Char) :
    withSign negative cs ++ rest = withSign negative (cs ++ rest) := by
  cases negative <;> rfl

/-- **A whole number reads back.** -/
theorem readNumber_decimalInt {n : Int} {rest : List Char} (h : Writable n) (hr : Ends rest) :
    readNumber (decimalInt n ++ rest) = .ok (.int n, rest) := by
  have hdot : ∀ c ∈ rest.head?, c ≠ '.' := by
    intro c hc
    rcases hr c hc with rfl | rfl <;> decide
  rw [decimalInt_eq, withSign_append]
  refine readNumber_parts (n := .int n) _ (isWhole_decimal _) hr.stops (readFraction_none hdot)
    (readExponent_none hr) ?_
  rw [Numeral.value, readInt_decimalInt h]
  rfl

/-- The value of a numeral with a point or an exponent. -/
lemma value_real {negative : Bool} {whole : List Nat} {f : Option (List Nat)} {x : Option Int}
    (h : f.isSome ∨ x.isSome) :
    (Numeral.mk negative whole f x).value =
      .ok (.real (ofDecimal negative (ofDigits (whole ++ f.getD []))
        (x.getD 0 - (f.getD []).length))) := by
  unfold Numeral.value
  split
  · rename_i hf hx
    simp only at hf hx
    simp [hf, hx] at h
  · rfl

section Layout

variable {rest : List Char} (negative : Bool)

/-- The digits of a power of ten, at least two of them. -/
def powerDigits (n : Nat) : List Char :=
  if (decimal n).length < 2 then '0' :: decimal n else decimal n

lemma isDigit_of_mem_powerDigits {n : Nat} {c : Char} (h : c ∈ powerDigits n) :
    c.isDigit = true := by
  unfold powerDigits at h
  split at h
  · rcases List.mem_cons.1 h with rfl | h
    · decide
    · exact isDigit_of_mem_decimal h
  · exact isDigit_of_mem_decimal h

lemma powerDigits_ne_nil (n : Nat) : powerDigits n ≠ [] := by
  unfold powerDigits
  split
  · simp
  · exact decimal_ne_nil n

lemma ofDigits_powerDigits (n : Nat) : ofDigits ((powerDigits n).map digitValue) = n := by
  unfold powerDigits
  split
  · exact ofDigits_decimal n
  · exact ofDigits_decimal n

/-- The end of a number with a power of ten. -/
lemma readExponent_power (power : Int) (hr : Ends rest) :
    readExponent ('e' :: (if power < 0 then '-' else '+') :: powerDigits power.natAbs ++ rest) =
      (some power, rest) := by
  have := readExponent_append (decide (power < 0)) (fun c => isDigit_of_mem_powerDigits)
    (powerDigits_ne_nil power.natAbs) hr.stops
  rw [ofDigits_powerDigits, signed_natAbs] at this
  simpa using this

/-- Digits before a power of ten, of which the first stands before a point. -/
lemma readNumber_scientific {d : Char} {ds : List Char} (hw : IsWhole (d :: ds))
    (hd : d ≠ '0') (power : Int) (hr : Ends rest) :
    readNumber (withSign negative
        (d :: (if ds = [] then [] else '.' :: ds) ++
          'e' :: (if power < 0 then '-' else '+') :: powerDigits power.natAbs ++ rest)) =
      .ok (.real (ofDecimal negative (ofDigits ((d :: ds).map digitValue)) (power - ds.length)),
        rest) := by
  have hone : IsWhole [d] :=
    ⟨fun c hc => hw.digits c (by simp_all), by simp, .inr (by simpa using hd)⟩
  have hx := readExponent_power power hr
  rcases eq_or_ne ds [] with rfl | hds
  · rw [if_pos rfl]
    have := readNumber_parts (n := .real _) negative hone (stops_cons (c := 'e') (by decide))
      (readFraction_none (by simp)) hx (value_real (.inr rfl))
    simpa [Value.ofNumber] using this
  · have hf : readFraction ('.' :: ds ++ ('e' :: (if power < 0 then '-' else '+') ::
        powerDigits power.natAbs ++ rest)) = (some (ds.map digitValue), _) :=
      readFraction_append (fun c hc => hw.digits c (.tail _ hc)) hds (stops_cons (by decide))
    rw [if_neg hds]
    have := readNumber_parts (n := .real _) negative hone (stops_cons (c := '.') (by decide)) hf hx
      (value_real (.inl rfl))
    simpa [Value.ofNumber] using this

/-- Digits around a point. -/
lemma readNumber_pointed {ws f : List Char} (hw : IsWhole ws)
    (hf : ∀ c ∈ f, c.isDigit = true) (hne : f ≠ []) (hr : Ends rest) :
    readNumber (withSign negative (ws ++ '.' :: f ++ rest)) =
      .ok (.real (ofDecimal negative (ofDigits ((ws ++ f).map digitValue)) (-f.length)),
        rest) := by
  have := readNumber_parts (n := .real _) negative hw (stops_cons (c := '.') (by decide))
    (readFraction_append hf hne hr.stops) (readExponent_none hr) (value_real (.inl rfl))
  simpa [Value.ofNumber] using this

section Point

variable {s : Nat} (hs : 0 < s) (hr : Ends rest)
include hr

/-- All digits stand behind the point, after zeros. -/
lemma readNumber_small (k : Nat) :
    readNumber (withSign negative ('0' :: '.' :: (List.replicate k '0' ++ decimal s) ++ rest)) =
      .ok (.real (ofDecimal negative s (-(k + (decimal s).length))), rest) := by
  have hfs : ∀ c ∈ List.replicate k '0' ++ decimal s, c.isDigit = true := by
    intro c hc
    rcases List.mem_append.1 hc with hc | hc
    · obtain ⟨-, rfl⟩ := List.mem_replicate.1 hc
      decide
    · exact isDigit_of_mem_decimal hc
  have hval : ofDigits ((['0'] ++ (List.replicate k '0' ++ decimal s)).map digitValue) = s := by
    rw [← List.append_assoc,
      show ['0'] ++ List.replicate k '0' = List.replicate (k + 1) '0' from rfl,
      ofDigits_map_zeros_append, ofDigits_decimal]
  have := readNumber_pointed negative (isWhole_decimal 0) hfs (by simp [decimal_ne_nil]) hr
  rw [show decimal 0 = ['0'] from rfl, hval, List.length_append, List.length_replicate] at this
  exact_mod_cast this

include hs

/-- All digits stand before the point, with zeros after them. -/
lemma readNumber_large (k : Nat) :
    readNumber (withSign negative
        (decimal s ++ List.replicate k '0' ++ ['.', '0'] ++ rest)) =
      .ok (.real (ofDecimal negative s k), rest) := by
  have hws : IsWhole (decimal s ++ List.replicate k '0') :=
    decimal_mul_pow hs k ▸ isWhole_decimal (s * 10 ^ k)
  have hval : decimal s ++ List.replicate k '0' ++ ['0'] = decimal (s * 10 ^ (k + 1)) := by
    rw [decimal_mul_pow hs, List.replicate_succ', List.append_assoc]
  have hpow := ofDecimal_mul_pow negative s k (k + 1)
  rw [show (k : Int) - (k + 1 : Nat) = -1 by omega] at hpow
  have := readNumber_pointed negative hws (f := ['0']) (by simp) (by simp) hr
  rw [hval, ofDigits_decimal] at this
  rw [← hpow]
  exact this

/-- The point stands in the midst of the digits. -/
lemma readNumber_middle {k : Nat} (hk : 0 < k) (hlen : k < (decimal s).length) :
    readNumber (withSign negative
        ((decimal s).take k ++ '.' :: (decimal s).drop k ++ rest)) =
      .ok (.real (ofDecimal negative s (k - (decimal s).length)), rest) := by
  have hw := isWhole_decimal s
  have hhead : ((decimal s).take k).head? = (decimal s).head? := by
    rw [List.head?_take, if_neg hk.ne']
  have hws : IsWhole ((decimal s).take k) := by
    refine ⟨fun c hc => hw.digits c (List.mem_of_mem_take hc), ?_, .inr ?_⟩
    · simp [hk.ne', hw.ne_nil]
    · rw [hhead]
      exact head_decimal hs
  have := readNumber_pointed negative hws (f := (decimal s).drop k)
    (fun c hc => hw.digits c (List.mem_of_mem_drop hc)) (by simpa using hlen) hr
  rw [List.take_append_drop, ofDigits_decimal, List.length_drop] at this
  rw [this, show -(((decimal s).length - k : Nat) : Int) = k - (decimal s).length by omega]

end Point

/-- **The layout of digits** reads back as the number that they are, wherever the point stands. -/
theorem readNumber_layOut {s : Nat} (hs : 0 < s) (power : Int) (hr : Ends rest) :
    readNumber (withSign negative (layOut (decimal s) power ++ rest)) =
      .ok (.real (ofDecimal negative s (power + 1 - (decimal s).length)), rest) := by
  unfold layOut
  split
  · obtain ⟨d, ds, hds⟩ := List.exists_cons_of_ne_nil (decimal_ne_nil s)
    have hd : d ≠ '0' := by simpa [hds] using head_decimal hs
    have := readNumber_scientific negative (hds ▸ isWhole_decimal s) hd power hr
    rw [← hds, ofDigits_decimal] at this
    rw [show power + 1 - (decimal s).length = power - ds.length by simp [hds], ← this, hds]
    cases ds <;> simp [powerDigits]
  · split
    · rw [show power + 1 - (decimal s).length =
        -((power.natAbs - 1 : Nat) + (decimal s).length : Int) by omega]
      simpa using readNumber_small negative hr (s := s) (power.natAbs - 1)
    · dsimp only
      split
      · rw [show power + 1 - (decimal s).length =
          (power.toNat + 1 - (decimal s).length : Nat) by omega]
        exact readNumber_large negative hs hr _
      · rw [show power + 1 - (decimal s).length =
          (power.toNat + 1 : Nat) - (decimal s).length by omega]
        exact readNumber_middle negative hs hr (Nat.succ_pos _) (by omega)

/-- **A floating-point number reads back** from its shortest digits. -/
theorem readNumber_magnitudeText (rank : Fin rankCount) (hr : Ends rest) :
    readNumber (withSign negative (magnitudeText rank ++ rest)) =
      .ok (.real (.finite negative rank), rest) := by
  unfold magnitudeText
  split
  · rename_i hz
    have := readNumber_pointed negative (isWhole_decimal 0) (f := ['0']) (by simp) (by simp) hr
    rw [show rank = ⟨0, by decide⟩ from Fin.ext hz]
    exact this
  · rename_i hz
    have hpos : 0 < rank.val := Nat.pos_of_ne_zero hz
    have hread := ofDecimal_sign negative (ofDecimal_shortest hpos)
    obtain ⟨s, z, hs, hm, hsig⟩ := significant_eq (shortest_pos hpos)
    generalize shortest rank = d at *
    obtain ⟨m, e⟩ := d
    dsimp only at *
    have hpower : e + (decimal m).length - 1 + 1 - (decimal s).length = e + z := by
      rw [hm, length_decimal_mul_pow hs]
      omega
    rw [hsig, readNumber_layOut negative hs _ hr, hpower]
    have hpow := ofDecimal_mul_pow negative s (e + z) z
    rw [← hm, Int.add_sub_cancel, hread] at hpow
    rw [← hpow]

end Layout

/-! ### Scalars -/

/-- A digit comes first. -/
def StartsWithDigit (cs : List Char) : Prop := ∃ c ∈ cs.head?, c.isDigit = true

lemma StartsWithDigit.append {cs : List Char} (h : StartsWithDigit cs) (rest : List Char) :
    StartsWithDigit (cs ++ rest) := by
  obtain ⟨c, hc, hd⟩ := h
  cases cs with
  | nil => simp at hc
  | cons b cs => exact ⟨c, hc, hd⟩

lemma startsWithDigit_decimal (n : Nat) : StartsWithDigit (decimal n) := by
  obtain ⟨d, ds, hds⟩ := List.exists_cons_of_ne_nil (decimal_ne_nil n)
  exact ⟨d, by simp [hds], isDigit_of_mem_decimal (n := n) (by simp [hds])⟩

lemma startsWithDigit_layOut (s : Nat) (power : Int) :
    StartsWithDigit (layOut (decimal s) power) := by
  obtain ⟨d, ds, hds⟩ := List.exists_cons_of_ne_nil (decimal_ne_nil s)
  have hd : d.isDigit = true := isDigit_of_mem_decimal (n := s) (by simp [hds])
  rw [hds]
  unfold layOut
  split
  · cases ds <;> exact ⟨d, rfl, hd⟩
  · split
    · exact ⟨'0', rfl, by decide⟩
    · dsimp only
      split
      · exact ⟨d, rfl, hd⟩
      · exact ⟨d, rfl, hd⟩

lemma startsWithDigit_magnitudeText (rank : Fin rankCount) :
    StartsWithDigit (magnitudeText rank) := by
  unfold magnitudeText
  split
  · exact ⟨'0', rfl, by decide⟩
  · rename_i hz
    have hpos := shortest_pos (Nat.pos_of_ne_zero hz)
    generalize shortest rank = d at *
    obtain ⟨m, e⟩ := d
    obtain ⟨s, -, -, -, hsig⟩ := significant_eq hpos
    dsimp only at *
    rw [hsig]
    exact startsWithDigit_layOut s _

/-- A number is none of the words that a scalar may be. -/
lemma readScalar_number {cs : List Char} (negative : Bool) (h : StartsWithDigit cs) :
    readScalar (withSign negative cs) = readNumber (withSign negative cs) := by
  obtain ⟨c, hc, hd⟩ := h
  cases cs with
  | nil => simp at hc
  | cons b cs =>
    obtain rfl : b = c := by simpa using hc
    unfold readScalar
    cases negative <;> rw [withSign] <;> simp only [if_true, if_false, Bool.false_eq_true] <;>
      split <;> simp_all +decide

end Tabula.Json
