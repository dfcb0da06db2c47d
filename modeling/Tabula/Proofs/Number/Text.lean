import Tabula.Proofs.Json.Number
import Tabula.Proofs.Number.Grammar
import Tabula.Proofs.Value.Equal
import Tabula.Proofs.Value.Storable

/-!
Numbers that are written as plain text spell themselves.

What reads numbers in a document and what reads numerals agree on every text that is a number in a
document. So the shortest digits of a floating-point number are a numeral of the same number.
-/

namespace Tabula

open Text

/-! ### Numbers of documents are numerals -/

namespace Json

variable {cs rest : List Char} {v : Value}

lemma digits_of_readDigits (h : ∀ c ∈ (readDigits cs).2.head?, digit? c = none) :
    digits cs = readDigits cs := by
  induction cs with
  | nil => rfl
  | cons c cs ih =>
    by_cases hc : c.isDigit = true
    · have hcode := isDigit_iff.1 hc
      have hstep : readDigits (c :: cs) =
          ((c.toNat - 48) :: (readDigits cs).1, (readDigits cs).2) := by
        simp [readDigits, hc]
      rw [hstep] at h ⊢
      rw [digits, digit?_of_lt (by omega), if_pos hcode, ih h]
    · have hstop : readDigits (c :: cs) = ([], c :: cs) := by simp [readDigits, hc]
      rw [hstop] at h ⊢
      exact Token.digits_of_stop h

lemma digits_of_readWhole (h : ∀ c ∈ (readWhole cs).2.head?, digit? c = none) :
    digits cs = readWhole cs := by
  unfold readWhole at h ⊢
  split at h
  · rename_i cs
    have hstop : digits cs = ([], cs) := Token.digits_of_stop h
    rw [digits, hstop]
    rfl
  · exact digits_of_readDigits h

/-- An exponent that is read to the end of the text, if there is one at all. -/
lemma scanExponent_of_readExponent (h : (readExponent cs).2 = []) :
    Numeral.scanExponent cs = readExponent cs ∧ ∀ c ∈ cs.head?, digit? c = none ∧ c ≠ '.' := by
  cases cs with
  | nil => exact ⟨rfl, by simp⟩
  | cons e cs =>
    by_cases he : (e == 'e' || e == 'E') = true
    · cases hread : readDigits (Numeral.sign cs).2 with
      | mk ds after =>
        simp only [readExponent, if_pos he, hread] at h ⊢
        cases ds with
        | nil => cases h
        | cons d ds =>
          obtain rfl : after = [] := h
          have hdigits : digits (Numeral.sign cs).2 = (d :: ds, []) := by
            rw [digits_of_readDigits (by rw [hread]; simp), hread]
          refine ⟨by simp [Numeral.scanExponent, he, hdigits], ?_⟩
          rintro c ⟨⟩
          rcases (by simpa using he : e = 'e' ∨ e = 'E') with rfl | rfl <;> decide
    · simp only [readExponent, if_neg he] at h
      cases h

/-- A fraction behind which no other part of a numeral comes, if there is one at all. -/
lemma scanFraction_of_readFraction
    (h : ∀ c ∈ (readFraction cs).2.head?, digit? c = none ∧ c ≠ '.') :
    Numeral.scanFraction cs = readFraction cs ∧ ∀ c ∈ cs.head?, digit? c = none := by
  by_cases hp : ∃ rest, cs = '.' :: rest
  · obtain ⟨cs, rfl⟩ := hp
    refine ⟨?_, by rintro c ⟨⟩; decide⟩
    cases hread : readDigits cs with
    | mk ds after =>
      simp only [readFraction, hread] at h ⊢
      cases ds with
      | nil => exact absurd rfl (h '.' rfl).2
      | cons d ds =>
        have hdigits : digits cs = readDigits cs :=
          digits_of_readDigits (by rw [hread]; exact fun c hc => (h c hc).1)
        rw [Numeral.scanFraction, hdigits, hread]
  · have hnone : readFraction cs = (none, cs) := by
      unfold readFraction
      split
      · exact absurd ⟨_, rfl⟩ hp
      · rfl
    rw [hnone] at h ⊢
    refine ⟨?_, fun c hc => (h c hc).1⟩
    unfold Numeral.scanFraction
    split
    · exact absurd ⟨_, rfl⟩ hp
    · rfl

/-- Where digits stand, no sign does. -/
lemma sign_of_digits (h : (digits cs).1 ≠ []) : Numeral.sign cs = (false, cs) := by
  unfold Numeral.sign
  split
  · exact absurd rfl h
  · exact absurd rfl h
  · rfl

/-- **A number of a document is a numeral.** -/
theorem scan?_of_readNumber (h : readNumber cs = .ok (v, [])) :
    ∃ n x, Numeral.scan? cs = some (n, []) ∧ n.value = .ok x ∧ v = .ofNumber x := by
  unfold readNumber at h
  split at h
  rename_i negative unsigned hsign
  split at h
  · cases h
  · rename_i whole after hne hwhole
    dsimp only at h
    split at h
    · rename_i x hx
      obtain ⟨rfl, hend⟩ : Value.ofNumber x = v ∧ (readExponent (readFraction after).2).2 = [] := by
        simpa using h
      obtain ⟨hexponent, hhead⟩ := scanExponent_of_readExponent hend
      obtain ⟨hfraction, hafter⟩ := scanFraction_of_readFraction hhead
      have hdigits : digits unsigned = (whole, after) := by
        rw [digits_of_readWhole (by rwa [hwhole]), hwhole]
      have hsigned : Numeral.sign cs = (negative, unsigned) := by
        split at hsign
        · exact hsign
        · cases hsign
          exact sign_of_digits (by rwa [hdigits])
      refine ⟨⟨negative, whole, (readFraction after).1, (readExponent (readFraction after).2).1⟩, x,
        ?_, hx, rfl⟩
      rw [Numeral.scan?, hsigned]
      simp only [hdigits, hfraction, hexponent, hend]
      rw [if_neg (by simp [show whole ≠ [] from hne])]
    · cases h

end Json

/-! ### What numbers are written as -/

namespace Numeral

open Binary64

lemma read?_of_readNumber {cs : List Char} {v : Value} (h : Json.readNumber cs = .ok (v, [])) :
    ∃ x, read? cs = .ok (some x) ∧ v = .ofNumber x := by
  obtain ⟨n, x, hscan, hx, hv⟩ := Json.scan?_of_readNumber h
  refine ⟨x, ?_, hv⟩
  rw [read?_of_scan? hscan, hx]
  rfl

/-- **The text of a finite floating-point number spells it.** -/
theorem read?_text (negative : Bool) (rank : Fin rankCount) :
    read? (text (.finite negative rank)) = .ok (some (.real (.finite negative rank))) := by
  have hends : Json.Ends [] := by simp [Json.Ends]
  have hread := Json.readNumber_magnitudeText negative rank hends
  rw [List.append_nil] at hread
  obtain ⟨x, hx, hv⟩ := read?_of_readNumber hread
  cases x with
  | int n => cases hv
  | real y =>
    cases hv
    exact hx

end Numeral

/-- A number that has a text: a whole one that can be written, or a finite one. -/
def Number.IsFinite : Number → Prop
  | .int n => Writable n
  | .real x => x.isFinite = true

/-- The text spells a number that is equal. -/
def Number.SpelledBy (x : Number) (s : String) : Prop :=
  ∃ n, Numeral.read? s.toList = .ok (some n) ∧ n.equal x = true

namespace Number

variable {x : Number}

/-- A floating-point number without a fraction stands where its whole part does. -/
lemma place_truncate? {y : Binary64} {n : Int} (hw : y.isWhole = true)
    (hn : y.truncate? = some n) : (int n).place = (real y).place := by
  cases y with
  | infinite _ | nan _ => cases hn
  | finite negative rank =>
    rw [Binary64.isWhole, beq_iff_eq] at hw
    have hunits : (Binary64.units rank / unitsPerOne : Int) * unitsPerOne = Binary64.units rank :=
      Int.ediv_mul_cancel (Int.natCast_dvd_natCast.2 (Nat.dvd_of_mod_eq_zero hw))
    obtain rfl := Option.some.inj hn
    rw [place, place, Place.at.injEq]
    cases negative with
    | false => exact hunits
    | true => rw [if_pos rfl, if_pos rfl, Int.neg_mul, hunits]

lemma equal_self {y : Binary64} (h : y.isFinite = true) : (real y).equal (real y) = true := by
  refine equal_of_place rfl ?_
  cases y with
  | finite negative rank => exact Place.noConfusion
  | infinite _ | nan _ => cases h

lemma spelledBy_decimalInt {n : Int} (hn : Writable n) (h : (int n).equal x = true) :
    x.SpelledBy (String.ofList (decimalInt n)) :=
  ⟨.int n, by rw [String.toList_ofList, Numeral.read?_decimalInt hn], h⟩

lemma spelledBy_text {y : Binary64} (h : y.isFinite = true) :
    (real y).SpelledBy (String.ofList y.text) := by
  refine ⟨.real y, ?_, equal_self h⟩
  cases y with
  | finite negative rank => rw [String.toList_ofList, Numeral.read?_text]
  | infinite _ | nan _ => cases h

/-- **A finite number is shown as a text that spells it.** -/
theorem exists_shown (h : x.IsFinite) :
    ∃ s, (Value.ofNumber x).shown = .ok s ∧ x.SpelledBy s := by
  cases x with
  | int n =>
    have hn : Writable n := h
    have hself : (int n).equal (int n) = true := equal_of_place rfl Place.noConfusion
    refine ⟨_, ?_, spelledBy_decimalInt hn hself⟩
    rw [Value.ofNumber, Value.shown, writeInt, if_pos hn]
  | real y => exact ⟨_, rfl, spelledBy_text h⟩

/-- **A finite number is stored as a text that spells it**, also where its fraction is lost. -/
theorem exists_asText (h : x.IsFinite) :
    ∃ s, (Value.ofNumber x).asText = .ok (.text s) ∧ x.SpelledBy s := by
  cases x with
  | int n =>
    obtain ⟨s, hs, hspelled⟩ := exists_shown h
    refine ⟨s, ?_, hspelled⟩
    change Value.text <$> (Value.int n).shown = _
    rw [show (Value.int n).shown = .ok s from hs]
    rfl
  | real y =>
    rw [Value.ofNumber, Value.asText]
    split
    · rename_i n hw hn
      have hwritable := Binary64.writable_truncate? hn
      have hequal := equal_of_place (place_truncate? hw hn) Place.noConfusion
      refine ⟨_, ?_, spelledBy_decimalInt hwritable hequal⟩
      rw [writeInt, if_pos hwritable]
      rfl
    · exact ⟨_, rfl, spelledBy_text h⟩

end Number

end Tabula
