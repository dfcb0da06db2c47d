import Tabula.Keyed
import Tabula.Value.Order

/-!
Labels: what the cells of a row are found under.

A label is text, the name of a column. Rows that were stored can have other scalars for labels, of
which numbers of one worth are the same.
-/

namespace Tabula

structure Label where
  value : Value
deriving DecidableEq

namespace Label

def name (s : String) : Label := ⟨.text s⟩

/-- The name that a label is, if it is one. -/
def name? (l : Label) : Option String :=
  match l.value with
  | .text s => some s
  | _ => none

/-- The label as plain text. -/
def plain (l : Label) : String := l.value.plain

instance : Key Label where
  same a b := a.value.sameKey b.value
  same_refl a := by simp [Value.sameKey]
  same_symm h := by simpa [Value.sameKey] using (by simpa [Value.sameKey] using h : _ = _).symm
  same_trans h k := by
    simp only [Value.sameKey, beq_iff_eq] at *
    exact h.trans k

theorem same_name (s t : String) : Key.same (name s) (name t) = (s == t) :=
  Value.sameKey_text s t

end Label

end Tabula
