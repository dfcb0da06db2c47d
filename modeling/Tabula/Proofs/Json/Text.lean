import Mathlib.Tactic.Lemma
import Mathlib.Tactic.SplitIfs
import Tabula.Json.Read
import Tabula.Json.Write

/-!
Text in JSON: every character is read back from its escape, be it a letter, a 16-bit unit or a pair
of units.
-/

namespace Tabula.Json

open Text

variable {rest : List Char}

/-- The four digits of a unit. -/
lemma hexDigits_four (n : Nat) :
    hexDigits 4 n = [hexDigit (n / 16 / 16 / 16 % 16), hexDigit (n / 16 / 16 % 16),
      hexDigit (n / 16 % 16), hexDigit (n % 16)] := by
  simp [hexDigits]

lemma unit?_hexDigits {n : Nat} (h : n < 0x10000) :
    unit? (hexDigit (n / 16 / 16 / 16 % 16)) (hexDigit (n / 16 / 16 % 16))
      (hexDigit (n / 16 % 16)) (hexDigit (n % 16)) = some n := by
  have hlt : ∀ k, k % 16 < 16 := fun k => Nat.mod_lt k (by decide)
  unfold unit?
  simp only [hexValue?_hexDigit (hlt _), Option.bind_eq_bind, Option.bind_some, Option.pure_def]
  congr 1
  omega

lemma toNat_lt (c : Char) : c.toNat < 0x110000 := by
  rcases c.valid with hv | hv
  · exact Nat.lt_trans hv (by decide)
  · exact hv.2

/-- Where a unit is escaped, it stands before the text after it. -/
lemma readText_escapeUnit {n : Nat} (h : n < 0x10000) :
    readText (escapeUnit n ++ rest) = (readText rest).map fun p => (addUnit n p.1, p.2) := by
  rw [escapeUnit, hexDigits_four]
  simp only [List.cons_append, List.nil_append]
  rw [show backslash = '\x5c' from rfl, readText]
  simp only [unit?_hexDigits h]

/-- The unit of a character within the first plane is no half of a pair. -/
lemma addUnit_char {c : Char} (h : c.toNat < 0x10000) (s : Wide) :
    addUnit c.toNat s = .char c :: s := by
  have hvalid : c.toNat < 0xD800 ∨ 0xDFFF < c.toNat := by
    rcases c.valid with hv | hv
    · exact .inl hv
    · exact .inr hv.1
  have hlow : isLow c.toNat = false := by
    simp [isLow]
    omega
  have hhigh : isHigh c.toNat = false := by
    simp [isHigh]
    omega
  have hpoint : codePoint c.toNat = .char c := by
    simp [codePoint, hlow, hhigh]
  unfold addUnit
  split
  · rw [hhigh, Bool.false_and, if_neg Bool.false_ne_true, hpoint]
  · rw [hpoint]

/-- The units of any other character are a pair. -/
lemma addUnit_pair {c : Char} (h : 0x10000 ≤ c.toNat) (s : Wide) :
    addUnit (0xD800 + (c.toNat - 0x10000) / 0x400)
      (addUnit (0xDC00 + (c.toNat - 0x10000) % 0x400) s) = .char c :: s := by
  have hlt := toNat_lt c
  generalize hm : c.toNat - 0x10000 = m
  have hhigh : isHigh (0xD800 + m / 0x400) = true := by
    simp [isHigh]
    omega
  have hnhigh : isHigh (0xDC00 + m % 0x400) = false := by
    simp [isHigh]
  have hlow : isLow (0xDC00 + m % 0x400) = true := by
    simp [isLow]
    omega
  have hjoin : joinUnits (0xD800 + m / 0x400) (0xDC00 + m % 0x400) = c := by
    have hvalue : 0x10000 + (0xD800 + m / 0x400 - 0xD800) * 0x400 +
        (0xDC00 + m % 0x400 - 0xDC00) = c.toNat := by omega
    rw [joinUnits, hvalue, Char.ofNat_toNat]
  -- the low unit stays a half until the high one comes before it
  have hhalf : addUnit (0xDC00 + m % 0x400) s = .half (0xDC00 + m % 0x400) :: s := by
    unfold addUnit
    split <;> simp [codePoint, hnhigh, hlow]
  rw [hhalf]
  simp [addUnit, hhigh, hlow, hjoin]

lemma readText_escapeChar (c : Char) :
    readText (escapeChar c ++ rest) = (readText rest).map fun p => (.char c :: p.1, p.2) := by
  unfold escapeChar
  dsimp only
  split_ifs with hquote hn hr ht hf hb hplain hplane
  · simp only [Bool.or_eq_true, decide_eq_true_eq] at hquote
    rcases hquote with rfl | rfl <;> rfl
  · subst hn
    rfl
  · subst hr
    rfl
  · subst ht
    rfl
  · obtain rfl : c = '\x0c' := Char.toNat_inj.1 hf
    rfl
  · obtain rfl : c = '\x08' := Char.toNat_inj.1 hb
    rfl
  · -- the character stands for itself
    simp only [Bool.or_eq_true, decide_eq_true_eq, not_or] at hquote
    simp only [Bool.and_eq_true, decide_eq_true_eq] at hplain
    have hcontrol : (decide (c = '\x5c') || decide (c.toNat < 0x20)) = false := by
      simp [show c ≠ '\x5c' from hquote.2]
      omega
    rw [List.singleton_append, readText.eq_def]
    split
    case h_5 heq =>
      obtain ⟨rfl, rfl⟩ := List.cons.inj heq
      rw [if_neg (by rw [hcontrol]; exact Bool.false_ne_true)]
    all_goals simp_all [doubleQuote, backslash]
  · rw [readText_escapeUnit hplane]
    simp only [addUnit_char hplane]
  · have hlt := toNat_lt c
    rw [List.append_assoc, readText_escapeUnit (by omega), readText_escapeUnit (by omega)]
    cases readText rest with
    | error _ => rfl
    | ok p => simp only [Except.map, addUnit_pair (Nat.le_of_not_lt hplane)]

/-- **Text reads back** up to its closing quote. -/
theorem readText_append (cs : List Char) :
    readText (cs.flatMap escapeChar ++ doubleQuote :: rest) = .ok (cs.map .char, rest) := by
  induction cs with
  | nil => rfl
  | cons c cs ih =>
    rw [List.flatMap_cons, List.append_assoc, readText_escapeChar, ih]
    rfl

end Tabula.Json
