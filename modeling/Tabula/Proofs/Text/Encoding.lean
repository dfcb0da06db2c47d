import Mathlib.Tactic.Lemma
import Tabula.Text.Encoding

/-!
UTF-8 is read back.

Whatever characters are encoded, the lenient reading of their bytes gives them back: nothing of them
is replaced.
-/

namespace Tabula.Text

/-- The bytes of characters. -/
def utf8 (cs : List Char) : List UInt8 := cs.flatMap String.utf8EncodeChar

@[simp] lemma utf8_nil : utf8 [] = [] := rfl

@[simp] lemma utf8_cons (c : Char) (cs : List Char) :
    utf8 (c :: cs) = String.utf8EncodeChar c ++ utf8 cs := rfl

/-! ### Bytes of a text -/

lemma toList_loop (bytes : ByteArray) (i : Nat) (before : List UInt8) :
    ByteArray.toList.loop bytes i before = before.reverse ++ bytes.data.toList.drop i := by
  fun_induction ByteArray.toList.loop bytes i before with
  | case1 i before hi ih =>
    have hget : bytes.get! i = bytes.data[i] := by simp [ByteArray.get!, hi]
    have hdrop : bytes.data.toList.drop i = bytes.data[i] :: bytes.data.toList.drop (i + 1) := by
      rw [List.drop_eq_getElem_cons (by simpa using hi), Array.getElem_toList]
    rw [ih, List.reverse_cons, List.append_assoc, hget, hdrop, List.singleton_append]
  | case2 i before hi =>
    rw [List.drop_of_length_le (by simpa using hi), List.append_nil]

lemma toList_eq (bytes : ByteArray) : bytes.toList = bytes.data.toList := by
  rw [ByteArray.toList, toList_loop]
  simp

lemma toList_toUTF8 (s : String) : s.toUTF8.toList = utf8 s.toList := by
  have hbytes : (String.ofList s.toList).toUTF8 = s.toList.utf8Encode := rfl
  rw [← String.ofList_toList (s := s), hbytes, toList_eq, List.utf8Encode,
    List.toList_data_toByteArray, String.toList_ofList, utf8]

lemma fromUTF8?_toUTF8 (s : String) : String.fromUTF8? s.toUTF8 = some s := by
  have hv : s.toUTF8.IsValidUTF8 := s.isValidUTF8
  rw [String.fromUTF8?, dif_pos hv]
  rfl

/-! ### Reading -/

section Steps

variable {m : Missing} {b : UInt8} {k more low high value : Nat}

lemma decodeAfter_first (hb : b.toNat = k) (h : afterFirst? k = some m) (bytes : List UInt8) :
    decodeAfter none (b :: bytes) = decodeAfter.go m bytes := by
  rw [decodeAfter, decodeAfter.first, hb, h]

/-- A byte that fits continues a character by six bits. -/
lemma go_next (hb : b.toNat = k + 0x80) (hl : low ≤ k + 0x80) (hh : k + 0x80 ≤ high)
    (bytes : List UInt8) :
    decodeAfter.go ⟨more + 1, low, high, value⟩ (b :: bytes) =
      decodeAfter.go ⟨more, 0x80, 0xBF, value * 64 + k⟩ bytes := by
  rw [decodeAfter.go, if_neg (Nat.succ_ne_zero more), decodeAfter, hb, if_pos (by simp [hl, hh]),
    Nat.add_sub_cancel, Nat.add_sub_cancel]

lemma go_complete (bytes : List UInt8) :
    decodeAfter.go ⟨0, low, high, value⟩ bytes = Char.ofNat value :: decodeAfter none bytes := by
  rw [decodeAfter.go, if_pos rfl]

lemma toNat_ofNat (h : k < 256) : (UInt8.ofNat k).toNat = k := by
  rw [UInt8.toNat_ofNat', Nat.mod_eq_of_lt h]

/-- The last six bits of a number, as a byte that continues a character. -/
lemma toNat_tail (k : Nat) : (UInt8.ofNat (k % 0x40 + 0x80)).toNat = k % 0x40 + 0x80 :=
  toNat_ofNat (by omega)

end Steps

/-- A character of one byte up to four is read back. -/
lemma decodeAfter_utf8EncodeChar (c : Char) (bytes : List UInt8) :
    decodeAfter none (String.utf8EncodeChar c ++ bytes) = c :: decodeAfter none bytes := by
  have hvalid : c.val.toNat < 0xD800 ∨ 0xDFFF < c.val.toNat ∧ c.val.toNat < 0x110000 := c.valid
  have hchar : ∀ n, n = c.val.toNat → Char.ofNat n = c := by
    rintro _ rfl
    exact Char.ofNat_toNat c
  unfold String.utf8EncodeChar
  dsimp only
  generalize c.val.toNat = n at hvalid hchar
  split
  · have hfirst : afterFirst? n = some ⟨0, 0x80, 0xBF, n⟩ := if_pos (by omega)
    rw [List.singleton_append, decodeAfter_first (toNat_ofNat (by omega)) hfirst, go_complete,
      hchar n rfl]
  split
  · have hfirst : afterFirst? (n / 64 % 0x20 + 0xC0) = some ⟨1, 0x80, 0xBF, n / 64 % 0x20⟩ := by
      rw [afterFirst?, if_neg (by omega), if_neg (by omega), if_pos (by omega),
        Nat.add_sub_cancel]
    rw [List.cons_append, decodeAfter_first (toNat_ofNat (by omega)) hfirst, List.cons_append,
      go_next (toNat_tail n) (by omega) (by omega), List.nil_append, go_complete,
      hchar _ (by omega)]
  split
  · have hfirst : afterFirst? (n / 4096 % 0x10 + 0xE0) =
        some ⟨2, if n / 4096 % 0x10 + 0xE0 = 0xE0 then 0xA0 else 0x80,
          if n / 4096 % 0x10 + 0xE0 = 0xED then 0x9F else 0xBF, n / 4096 % 0x10⟩ := by
      rw [afterFirst?, if_neg (by omega), if_neg (by omega), if_neg (by omega),
        if_pos (by omega), Nat.add_sub_cancel]
    rw [List.cons_append, decodeAfter_first (toNat_ofNat (by omega)) hfirst, List.cons_append,
      go_next (toNat_tail (n / 64)) (by split <;> omega) (by split <;> omega), List.cons_append,
      go_next (toNat_tail n) (by omega) (by omega), List.nil_append, go_complete,
      hchar _ (by omega)]
  · have hfirst : afterFirst? (n / 262144 % 0x08 + 0xF0) =
        some ⟨3, if n / 262144 % 0x08 + 0xF0 = 0xF0 then 0x90 else 0x80,
          if n / 262144 % 0x08 + 0xF0 = 0xF4 then 0x8F else 0xBF, n / 262144 % 0x08⟩ := by
      rw [afterFirst?, if_neg (by omega), if_neg (by omega), if_neg (by omega),
        if_neg (by omega), if_pos (by omega), Nat.add_sub_cancel]
    rw [List.cons_append, decodeAfter_first (toNat_ofNat (by omega)) hfirst, List.cons_append,
      go_next (toNat_tail (n / 4096)) (by split <;> omega) (by split <;> omega),
      List.cons_append, go_next (toNat_tail (n / 64)) (by omega) (by omega), List.cons_append,
      go_next (toNat_tail n) (by omega) (by omega), List.nil_append, go_complete,
      hchar _ (by omega)]

/-- **Encoded characters are read back.** -/
theorem decodeLeniently_utf8 (cs : List Char) : decodeLeniently (utf8 cs) = cs := by
  unfold decodeLeniently
  induction cs with
  | nil => rw [utf8_nil, decodeAfter]
  | cons c cs ih => rw [utf8_cons, decodeAfter_utf8EncodeChar, ih]

end Tabula.Text
