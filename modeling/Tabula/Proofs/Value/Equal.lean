import Mathlib.Tactic.Lemma
import Tabula.Value.Order

/-!
Values that are equal: numbers of all kinds by what they are worth, text and NULL as they are.

Index keys are told apart by this, values that are no number aside.
-/

namespace Tabula

namespace Place

lemma compare?_eq_some_eq {p q : Place} : p.compare? q = some .eq ↔ p = q ∧ p ≠ nowhere := by
  cases p <;> cases q <;> simp [compare?]

end Place

namespace Number

lemma equal_of_place {a b : Number} (h : a.place = b.place) (ha : a.place ≠ .nowhere) :
    a.equal b = true := by
  rw [equal, beq_iff_eq, Place.compare?_eq_some_eq]
  exact ⟨h, ha⟩

end Number

namespace Value

/-- Whether a value is one of those that are no number. -/
def IsNaN : Value → Prop
  | real (.nan _) => True
  | _ => False

/-- Numbers are equal if they are worth the same, and other values if they are the same. -/
def equals (v w : Value) : Bool :=
  match v.number?, w.number? with
  | some a, some b => a.equal b
  | none, none => v == w
  | _, _ => false

lemma sameKey_symm (v w : Value) : v.sameKey w = w.sameKey v := by
  rw [sameKey, sameKey, Bool.beq_comm]

/-- A number is known by its place, and has one. -/
lemma identity_of_number? {v : Value} {a : Number} (h : v.number? = some a) (hv : ¬ v.IsNaN) :
    v.identity = .number a.place ∧ a.place ≠ .nowhere := by
  cases v with
  | null | text _ => cases h
  | bool _ | int _ =>
    cases h
    exact ⟨rfl, Place.noConfusion⟩
  | real x =>
    cases h
    cases x with
    | finite _ _ => exact ⟨rfl, Place.noConfusion⟩
    | infinite negative => exact ⟨rfl, by cases negative <;> exact Place.noConfusion⟩
    | nan _ => exact absurd trivial hv

/-- No value that is a number has the identity of one that is none. -/
lemma identity_ne_of_number? {v w : Value} {a : Number} (hv : v.number? = some a)
    (hw : w.number? = none) : v.identity ≠ w.identity := by
  cases w with
  | bool _ | int _ | real _ => cases hw
  | null | text _ =>
    cases v with
    | null | text _ => cases hv
    | bool _ | int _ => simp [identity]
    | real x => cases x <;> simp [identity]

lemma identity_inj_of_number? {v w : Value} (hv : v.number? = none) (hw : w.number? = none) :
    v.identity = w.identity ↔ v = w := by
  cases v with
  | bool _ | int _ | real _ => cases hv
  | null | text _ =>
    cases w with
    | bool _ | int _ | real _ => cases hw
    | null | text _ => simp [identity]

/-- The place of what is no number is nowhere. -/
lemma identity_of_isNaN {w : Value} {b : Number} (h : w.number? = some b) (hw : w.IsNaN) :
    (∃ payload, w.identity = .nan payload) ∧ b.place = .nowhere := by
  cases w with
  | null | bool _ | int _ | text _ => exact absurd hw id
  | real x =>
    cases h
    cases x with
    | finite _ _ | infinite _ => exact absurd hw id
    | nan payload => exact ⟨⟨payload, rfl⟩, rfl⟩

/-- **Keys are the same exactly if the values are equal**, unless one is no number. -/
theorem sameKey_eq_equals {v : Value} (hv : ¬ v.IsNaN) (w : Value) :
    v.sameKey w = v.equals w := by
  rw [Bool.eq_iff_iff, sameKey, beq_iff_eq, equals]
  cases ha : v.number? with
  | none =>
    cases hb : w.number? with
    | none => simpa using identity_inj_of_number? ha hb
    | some b => simpa using (identity_ne_of_number? hb ha).symm
  | some a =>
    obtain ⟨hidentity, hplace⟩ := identity_of_number? ha hv
    cases hb : w.number? with
    | none => simpa using identity_ne_of_number? ha hb
    | some b =>
      dsimp only
      rw [hidentity, Number.equal, beq_iff_eq, Place.compare?_eq_some_eq]
      by_cases hw : w.IsNaN
      · obtain ⟨⟨payload, hnan⟩, hb⟩ := identity_of_isNaN hb hw
        simp [hnan, hb, hplace]
      · rw [(identity_of_number? hb hw).1, Identity.number.injEq]
        exact (and_iff_left hplace).symm

end Value

end Tabula
