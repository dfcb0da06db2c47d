import Tabula.Number.Binary64
import Tabula.Text.Blank
import Tabula.Text.Digit

/-!
The written form of numbers: a sign, digits, a point and an exponent, of which a point with digits
on one side or plain digits are enough. Without point and exponent the number is a whole one.

`Numeral.scan?` reads the longest numeral at the head of a text.
-/

namespace Tabula

/-- A number as people compute with it: whole and exact, or floating. -/
inductive Number where
  | int (n : Int)
  | real (x : Binary64)
deriving DecidableEq

structure Numeral where
  negative : Bool
  whole : List Nat
  /-- the digits after the point, if there is a point -/
  fraction : Option (List Nat)
  exponent : Option Int

namespace Numeral

open Text

/-- A sign, if there is one. -/
def sign : List Char → Bool × List Char
  | '-' :: cs => (true, cs)
  | '+' :: cs => (false, cs)
  | cs => (false, cs)

/-- The digits after a point, if there is a point. -/
def scanFraction : List Char → Option (List Nat) × List Char
  | '.' :: cs => (some (digits cs).1, (digits cs).2)
  | cs => (none, cs)

/-- An exponent counts only if it has a digit; else nothing of it is read. -/
def scanExponent : List Char → Option Int × List Char
  | [] => (none, [])
  | e :: cs =>
    let power := digits (sign cs).2
    if (e == 'e' || e == 'E') && !power.1.isEmpty then
      (some (if (sign cs).1 then -(ofDigits power.1 : Int) else ofDigits power.1), power.2)
    else (none, e :: cs)

def scan? (cs : List Char) : Option (Numeral × List Char) :=
  let whole := digits (sign cs).2
  let fraction := scanFraction whole.2
  let exponent := scanExponent fraction.2
  if whole.1.isEmpty && (fraction.1.getD []).isEmpty then none
  else some (⟨(sign cs).1, whole.1, fraction.1, exponent.1⟩, exponent.2)

theorem sign_suffix (cs : List Char) : (sign cs).2 <:+ cs := by
  unfold sign
  split
  · exact List.suffix_cons _ _
  · exact List.suffix_cons _ _
  · exact List.suffix_refl _

theorem scanFraction_suffix (cs : List Char) : (scanFraction cs).2 <:+ cs := by
  unfold scanFraction
  split
  · exact (digits_suffix _).trans (List.suffix_cons _ _)
  · exact List.suffix_refl _

theorem scanExponent_suffix (cs : List Char) : (scanExponent cs).2 <:+ cs := by
  unfold scanExponent
  split
  · exact List.suffix_refl _
  · dsimp only
    split
    · exact ((digits_suffix _).trans (sign_suffix _)).trans (List.suffix_cons _ _)
    · exact List.suffix_refl _

/-- What is read is a part of the text. -/
theorem scan?_suffix {cs rest : List Char} {n : Numeral} (h : scan? cs = some (n, rest)) :
    rest <:+ cs := by
  unfold scan? at h
  dsimp only at h
  split at h
  · simp at h
  · simp only [Option.some.injEq, Prod.mk.injEq] at h
    rw [← h.2]
    exact (scanExponent_suffix _).trans
      ((scanFraction_suffix _).trans ((digits_suffix _).trans (sign_suffix _)))

/-- Something is read. -/
theorem length_scan?_lt {cs rest : List Char} {n : Numeral} (h : scan? cs = some (n, rest)) :
    rest.length < cs.length := by
  unfold scan? at h
  dsimp only at h
  split at h
  · simp at h
  · rename_i hd
    simp only [Option.some.injEq, Prod.mk.injEq] at h
    rw [← h.2]
    have h1 := (sign_suffix cs).length_le
    have h2 := digits_length (sign cs).2
    have h3 := (scanExponent_suffix (scanFraction (digits (sign cs).2).2).2).length_le
    have h4 := (scanFraction_suffix (digits (sign cs).2).2).length_le
    by_cases hw : (digits (sign cs).2).1 = []
    · -- then there is a point
      rw [hw] at hd
      generalize (digits (sign cs).2).2 = r at *
      unfold scanFraction at h3 h4 hd ⊢
      split at h4
      · rename_i r
        have h5 := (digits_suffix r).length_le
        simp only [List.length_cons] at *
        omega
      · simp at hd
    · have := List.length_pos_iff.2 hw
      omega

/-- The floating-point value. -/
def real (n : Numeral) : Binary64 :=
  let fraction := n.fraction.getD []
  .ofDecimal n.negative (ofDigits (n.whole ++ fraction)) (n.exponent.getD 0 - fraction.length)

def value (n : Numeral) : Except NumberFault Number :=
  match n.fraction, n.exponent with
  | none, none => .int <$> readInt n.negative n.whole
  | _, _ => .ok (.real n.real)

/-- The number that a whole text spells, blanks around it aside. -/
def read? (cs : List Char) : Except NumberFault (Option Number) :=
  match scan? (trim cs) with
  | some (n, []) => some <$> n.value
  | _ => .ok none

/-- The whole number at the head of a text, after blanks. -/
def leadingInt? (cs : List Char) : Except NumberFault (Option Int) :=
  let (negative, rest) := sign (trimLeft cs)
  match digits rest with
  | ([], _) => .ok none
  | (ds, _) => some <$> readInt negative ds

/-- The number at the head of a text, after blanks. -/
def leadingReal? (cs : List Char) : Option Binary64 :=
  (scan? (trimLeft cs)).map fun (n, _) => n.real

/-- Digits in which single underscores may stand between two. -/
def groupedDigits? : List Char → Option (List Nat)
  | [] => none
  | [c] => (digit? c).map ([·])
  | c :: '_' :: cs => do return (← digit? c) :: (← groupedDigits? cs)
  | c :: cs => do return (← digit? c) :: (← groupedDigits? cs)

/-- The whole number that a whole text spells, spaces around it aside; its digits may be grouped. -/
def readInt? (cs : List Char) : Option (Except NumberFault Int) :=
  let (negative, rest) := sign (trimWhere isSpace cs)
  (groupedDigits? rest).map (readInt negative)

end Numeral

end Tabula
