import Mathlib.Data.List.Induction
import Mathlib.Tactic.Lemma
import Mathlib.Tactic.Ring
import Tabula.Number.Decimal

/-!
Decimal digits, written and read back: the digits of a number have its value, a factor of ten is a
zero at the end, and the numbers that can be written are those that can be read.
-/

namespace Tabula

/-- The value of an ASCII digit. -/
abbrev digitValue (c : Char) : Nat := c.toNat - '0'.toNat

lemma ofDigits_map (cs : List Char) : ofDigits (cs.map digitValue) = Nat.ofDigitChars 10 cs 0 := by
  rw [ofDigits, List.foldl_map, Nat.ofDigitChars_eq_foldl]

lemma ofDigits_decimal (n : Nat) : ofDigits ((decimal n).map digitValue) = n := by
  rw [ofDigits_map, decimal, Nat.ofDigitChars_ten_toDigits]

lemma foldl_digits (ds : List Nat) (n : Nat) :
    ds.foldl (fun n d => 10 * n + d) n = n * 10 ^ ds.length + ofDigits ds := by
  unfold ofDigits
  induction ds generalizing n with
  | nil => simp
  | cons d ds ih =>
    rw [List.foldl_cons, List.foldl_cons, ih, ih (10 * 0 + d), List.length_cons]
    ring

lemma ofDigits_append (ds es : List Nat) :
    ofDigits (ds ++ es) = ofDigits ds * 10 ^ es.length + ofDigits es := by
  conv_lhs => unfold ofDigits
  rw [List.foldl_append, foldl_digits]
  rfl

lemma ofDigits_zeros (k : Nat) : ofDigits (List.replicate k 0) = 0 := by
  induction k with
  | zero => rfl
  | succ k ih => rw [List.replicate_succ', ofDigits_append, ih]; rfl

lemma ofDigits_map_zeros_append (k : Nat) (cs : List Char) :
    ofDigits ((List.replicate k '0' ++ cs).map digitValue) = ofDigits (cs.map digitValue) := by
  rw [List.map_append, List.map_replicate, ofDigits_append, show digitValue '0' = 0 from rfl,
    ofDigits_zeros, Nat.zero_mul, Nat.zero_add]

lemma ofDigits_lt {ds : List Nat} (h : ∀ d ∈ ds, d < 10) : ofDigits ds < 10 ^ ds.length := by
  induction ds using List.reverseRecOn with
  | nil => decide
  | append_singleton ds d ih =>
    have hd : d < 10 := h d (by simp)
    have := ih fun e he => h e (by simp [he])
    rw [ofDigits_append, List.length_append, List.length_singleton, pow_succ]
    have : ofDigits [d] = d := by simp [ofDigits]
    omega

lemma isDigit_of_mem_decimal {n : Nat} {c : Char} (h : c ∈ decimal n) : c.isDigit = true :=
  Nat.isDigit_of_mem_toDigits (by decide) (by decide) h

lemma decimal_ne_nil (n : Nat) : decimal n ≠ [] := Nat.toDigits_ne_nil

lemma length_decimal_le_iff {n k : Nat} (h : 0 < k) : (decimal n).length ≤ k ↔ n < 10 ^ k :=
  Nat.length_toDigits_le_iff (by decide) h

lemma lt_length_decimal {n k : Nat} (h : 10 ^ k ≤ n) : k < (decimal n).length := by
  rcases k.eq_zero_or_pos with rfl | hk
  · exact List.length_pos_iff.2 (decimal_ne_nil n)
  · by_contra hc
    have := (length_decimal_le_iff hk).1 (Nat.le_of_not_lt hc)
    omega

/-- A factor of ten is a zero at the end. -/
lemma decimal_mul_pow {n : Nat} (h : 0 < n) (k : Nat) :
    decimal (n * 10 ^ k) = decimal n ++ List.replicate k '0' := by
  induction k with
  | zero => simp
  | succ k ih =>
    have hp : 0 < n * 10 ^ k := Nat.mul_pos h (Nat.pow_pos (by decide))
    have := Nat.toDigits_append_toDigits (b := 10) (d := 0) (by decide) hp (by decide)
    rw [show n * 10 ^ (k + 1) = 10 * (n * 10 ^ k) + 0 by ring, decimal, ← this, ← decimal, ih,
      List.replicate_succ', List.append_assoc]
    rfl

lemma length_decimal_mul_pow {n : Nat} (h : 0 < n) (k : Nat) :
    (decimal (n * 10 ^ k)).length = (decimal n).length + k := by
  rw [decimal_mul_pow h, List.length_append, List.length_replicate]

/-- Few things are fewer than there are numbers that can be written. -/
lemma lt_pow_digitLimit {n : Nat} (h : n < digitLimit) : n < 10 ^ digitLimit :=
  lt_trans h (Nat.lt_pow_self (by decide))

lemma writable_iff_lt (n : Int) : Writable n ↔ n.natAbs < 10 ^ digitLimit := Iff.rfl

lemma writable_iff (n : Int) : Writable n ↔ (decimal n.natAbs).length ≤ digitLimit :=
  (length_decimal_le_iff (by decide)).symm

/-- The value of digits with a sign before them. -/
def signed (negative : Bool) (n : Nat) : Int := if negative then -n else n

lemma natAbs_signed (negative : Bool) (n : Nat) : (signed negative n).natAbs = n := by
  cases negative <;> simp [signed]

lemma signed_natAbs (n : Int) : signed (n < 0) n.natAbs = n := by
  unfold signed
  by_cases h : n < 0
  · rw [if_pos (by simpa using h)]
    omega
  · rw [if_neg (by simpa using h)]
    omega

lemma readInt_eq (negative : Bool) {ds : List Nat} (h : ds.length ≤ digitLimit) :
    readInt negative ds = .ok (signed negative (ofDigits ds)) := by
  rw [readInt, if_pos h]
  rfl

/-- What is read can be written. -/
lemma writable_of_readInt {negative : Bool} {ds : List Nat} {n : Int} (hd : ∀ d ∈ ds, d < 10)
    (h : readInt negative ds = .ok n) : Writable n := by
  unfold readInt at h
  split at h
  · rename_i hl
    obtain rfl : signed negative (ofDigits ds) = n := by simpa [signed] using h
    rw [writable_iff_lt, natAbs_signed]
    exact (ofDigits_lt hd).trans_le (Nat.pow_le_pow_right (by decide) hl)
  · simp at h

/-- A number with its sign reads back. -/
lemma readInt_decimalInt {n : Int} (h : Writable n) :
    readInt (n < 0) ((decimal n.natAbs).map digitValue) = .ok n := by
  rw [readInt_eq _ (by simpa using (writable_iff n).1 h), ofDigits_decimal, signed_natAbs]

end Tabula
