import Tabula.Column
import Tabula.Proofs.Except
import Tabula.Proofs.Number.Rounding

/-!
Values that read back as they were written: whole numbers that can be written, and everything else
but what is no number. Numerals and casts give such values.
-/

namespace Tabula

/-- A value that reads back as it was written. -/
def Value.Storable : Value → Prop
  | .int n => Writable n
  | .real (.nan _) => False
  | _ => True

namespace Numeral

lemma digits_lt {cs : List Char} : ∀ d ∈ (Text.digits cs).1, d < 10 := by
  induction cs with
  | nil => simp [Text.digits]
  | cons c cs ih =>
    intro d hd
    unfold Text.digits at hd
    split at hd
    · rename_i e he
      rcases List.mem_cons.1 hd with rfl | hd
      · exact Text.digit?_lt he
      · exact ih d hd
    · cases hd

lemma whole_lt {cs rest : List Char} {n : Numeral} (h : scan? cs = some (n, rest)) :
    ∀ d ∈ n.whole, d < 10 := by
  unfold scan? at h
  dsimp only at h
  split at h
  · cases h
  · simp only [Option.some.injEq, Prod.mk.injEq] at h
    rw [← h.1]
    exact digits_lt

lemma storable_real (n : Numeral) : (Value.real n.real).Storable := by
  cases hx : n.real with
  | nan p => exact absurd hx (Binary64.ofDecimal_ne_nan p)
  | finite _ _ => trivial
  | infinite _ => trivial

/-- The value of a numeral reads back. -/
lemma storable_value {cs rest : List Char} {n : Numeral} {v : Number}
    (h : scan? cs = some (n, rest)) (hv : n.value = .ok v) : (Value.ofNumber v).Storable := by
  have hdigits := whole_lt h
  unfold value at hv
  split at hv
  · obtain ⟨k, hread, rfl⟩ := map_eq_ok.1 hv
    exact writable_of_readInt hdigits hread
  · cases hv
    exact storable_real n

lemma writable_leadingInt? {cs : List Char} {n : Int} (h : leadingInt? cs = .ok (some n)) :
    Writable n := by
  unfold leadingInt? at h
  split at h
  rename_i negative rest _
  split at h
  · cases h
  · rename_i ds after _ hd
    obtain ⟨k, hread, hk⟩ := map_eq_ok.1 h
    cases hk
    have hdigits : ∀ d ∈ (Text.digits rest).1, d < 10 := digits_lt
    rw [hd] at hdigits
    exact writable_of_readInt hdigits hread

lemma storable_leadingReal? {cs : List Char} {x : Binary64} (h : leadingReal? cs = some x) :
    (Value.real x).Storable := by
  unfold leadingReal? at h
  obtain ⟨⟨n, rest⟩, -, rfl⟩ := Option.map_eq_some_iff.1 h
  exact storable_real n

end Numeral

/-! ### Casts -/

/-- A floating-point number has fewer digits than the limit. -/
lemma Binary64.writable_truncate? {x : Binary64} {n : Int} (h : x.truncate? = some n) :
    Writable n := by
  match x, h with
  | .finite negative rank, h =>
    have hunits : units rank < unitsPerOne * 2 ^ digitLimit := by
      rw [unitsPerOne_eq, ← Nat.pow_add]
      exact units_lt rank (by decide)
    have hten : 2 ^ digitLimit ≤ 10 ^ digitLimit := Nat.pow_le_pow_left (by decide) _
    have hlt : units rank / unitsPerOne < 10 ^ digitLimit :=
      Nat.div_lt_of_lt_mul (hunits.trans_le (Nat.mul_le_mul_left _ hten))
    obtain rfl : signed negative (units rank / unitsPerOne) = n := by
      rw [signed, Int.natCast_div]
      exact Option.some.inj h
    rwa [writable_iff_lt, natAbs_signed]

lemma Binary64.storable_ofInt {n : Int} {x : Binary64} (h : ofInt n = .ok x) :
    (Value.real x).Storable := by
  unfold ofInt at h
  generalize ofRank (n < 0) (nearestRank n.natAbs 1) = y at h
  unfold finite? at h
  split at h
  · rename_i hf
    cases h
    cases x with
    | nan _ => cases hf
    | finite _ _ | infinite _ => trivial
  · cases h

namespace ColumnType

lemma storable_toInteger {v w : Value} {n : Number} (hv : v.Storable) (hn : v.number? = some n)
    (h : toInteger n = .ok w) : w.Storable := by
  cases n with
  | int k =>
    obtain ⟨_, -, hw⟩ := bind_eq_ok.1 h
    cases hw
    cases v with
    | bool b =>
      cases hn
      cases b with
      | false => exact Nat.pow_pos (n := digitLimit) (by decide)
      | true => exact Nat.one_lt_pow (n := digitLimit) (by decide) (by decide)
    | int m => cases hn; exact hv
    | null | real _ | text _ => cases hn
  | real x =>
    cases h
    cases hx : x.truncate? with
    | none => trivial
    | some k => exact Binary64.writable_truncate? hx

lemma storable_toReal {v w : Value} {n : Number} (hv : v.Storable) (hn : v.number? = some n)
    (h : toReal n = .ok w) : w.Storable := by
  cases n with
  | int k =>
    obtain ⟨x, hx, rfl⟩ := map_eq_ok.1 h
    exact Binary64.storable_ofInt hx
  | real x =>
    cases h
    cases v with
    | real y => cases hn; exact hv
    | null | bool _ | int _ | text _ => cases hn

lemma storable_asText {v w : Value} (h : v.asText = .ok w) : w.Storable := by
  unfold Value.asText at h
  split at h
  · cases h
    trivial
  · split at h
    · obtain ⟨s, -, rfl⟩ := map_eq_ok.1 h
      trivial
    · cases h
      trivial
  · obtain ⟨s, -, rfl⟩ := map_eq_ok.1 h
    trivial

lemma storable_castUndeclared {v w : Value} (h : castUndeclared v = .ok w) : w.Storable := by
  unfold castUndeclared at h
  split at h
  · cases h
    trivial
  · obtain ⟨s, -, rfl⟩ := map_eq_ok.1 h
    trivial

/-- A cast gives a value that reads back. -/
lemma storable_cast {t : ColumnType} {column : String} {v w : Value} {notices : List Notice}
    (hv : v.Storable) (h : t.cast column v = .ok (w, notices)) : w.Storable := by
  unfold cast at h
  split at h
  · -- text
    obtain ⟨u, hu, hw⟩ := map_eq_ok.1 h
    cases hw
    exact storable_asText hu
  · cases h
    trivial
  · -- the whole number at the head of a text
    obtain ⟨found, hfound, hw⟩ := bind_eq_ok.1 h
    cases found with
    | none => cases hw; trivial
    | some n => cases hw; exact Numeral.writable_leadingInt? hfound
  · split at h
    · rename_i x hx
      cases h
      exact Numeral.storable_leadingReal? hx
    · cases h
      trivial
  · obtain ⟨u, hu, hw⟩ := map_eq_ok.1 h
    cases hw
    cases hn : v.number? with
    | none => rw [hn] at hu; cases hu; trivial
    | some n => rw [hn] at hu; exact storable_toInteger hv hn hu
  · obtain ⟨u, hu, hw⟩ := map_eq_ok.1 h
    cases hw
    cases hn : v.number? with
    | none => rw [hn] at hu; cases hu; trivial
    | some n => rw [hn] at hu; exact storable_toReal hv hn hu

end ColumnType

end Tabula
