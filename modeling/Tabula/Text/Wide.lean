import Tabula.Keyed

/-!
Wide text: code points, of which some may be halves of the pairs of 16-bit units that encode
characters. With such halves it is no text of characters.
-/

namespace Tabula

inductive CodePoint where
  | char (c : Char)
  /-- a unit whose other half is missing -/
  | half (unit : Nat)
deriving DecidableEq

def CodePoint.char? : CodePoint → Option Char
  | char c => some c
  | half _ => none

abbrev Wide := List CodePoint

namespace Wide

def ofString (s : String) : Wide := s.toList.map .char

/-- The text that wide text is, if no half is in it. -/
def string? (w : Wide) : Option String := (w.mapM CodePoint.char?).map String.ofList

instance : Key Wide where
  same a b := a == b
  same_refl a := by simp
  same_symm h := by simpa using (by simpa using h : _ = _).symm
  same_trans h k := by simpa using (by simpa using h : _ = _).trans (by simpa using k : _ = _)

theorem string?_ofString (s : String) : (ofString s).string? = some s := by
  have hchars : ∀ cs : List Char, (cs.map CodePoint.char).mapM CodePoint.char? = some cs := by
    intro cs
    induction cs with
    | nil => rfl
    | cons c cs ih => rw [List.map_cons, List.mapM_cons, ih]; rfl
  rw [string?, ofString, hchars, Option.map_some, String.ofList_toList]

theorem ofString_inj {s t : String} : ofString s = ofString t ↔ s = t := by
  refine ⟨fun h => ?_, congrArg ofString⟩
  have hs := string?_ofString s
  rw [h, string?_ofString] at hs
  exact (Option.some.inj hs).symm

theorem same_ofString (s t : String) : Key.same (ofString s) (ofString t) = Key.same s t := by
  change (ofString s == ofString t) = (s == t)
  rw [Bool.eq_iff_iff, beq_iff_eq, beq_iff_eq, ofString_inj]

end Wide

end Tabula
