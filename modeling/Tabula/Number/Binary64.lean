import Tabula.Number.Decimal

/-!
Binary floating-point numbers of 64 bits, in exact arithmetic.

A finite magnitude is known by its rank among all of them, zero first. Measured in units of the
least positive one, 2^-1074, each is a whole number. Decimals and whole numbers are rounded to
the nearest magnitude, and halfway to the even rank.
-/

namespace Tabula

/-- There are 2047 exponents and 2^52 fractions. -/
def rankCount : Nat := 2047 * Nat.pow 2 52

/-- The unit goes 2^1074 times into one. -/
def unitsPerOne : Nat := Nat.pow 2 1074

/-- Values that are no number are told apart by a payload. -/
inductive Binary64 where
  | finite (negative : Bool) (rank : Fin rankCount)
  | infinite (negative : Bool)
  | nan (payload : Nat)
deriving DecidableEq

namespace Binary64

/-- The magnitude of a rank, in units. -/
def units (rank : Nat) : Nat :=
  let fractions := Nat.pow 2 52
  if rank < fractions then rank
  else (fractions + rank % fractions) * Nat.pow 2 (rank / fractions - 1)

/-- The whole number nearest to a quotient; of two, the even one. -/
def roundHalfEven (num den : Nat) : Nat :=
  let q := num / den
  let r := num % den
  if 2 * r < den then q else if den < 2 * r then q + 1 else q + q % 2

/-- The rank nearest to `num / den`, as if the ranks never ended. -/
def nearestRank (num den : Nat) : Nat :=
  let shift := Nat.log2 (num * unitsPerOne / den) - 52
  shift * Nat.pow 2 52 + roundHalfEven (num * unitsPerOne) (den * Nat.pow 2 shift)

/-- What lies beyond the greatest rank is infinite. -/
def ofRank (negative : Bool) (rank : Nat) : Binary64 :=
  if h : rank < rankCount then .finite negative ⟨rank, h⟩ else .infinite negative

def zero (negative : Bool) : Binary64 := .finite negative ⟨0, by decide⟩

/-- The number nearest to `m` times ten to the `e`. Powers far out of range are not computed. -/
def ofDecimal (negative : Bool) (m : Nat) (e : Int) : Binary64 :=
  let top := (decimal m).length + e
  if m = 0 then zero negative
  else if 400 < top then .infinite negative
  else if top < -400 then zero negative
  else if 0 ≤ e then ofRank negative (nearestRank (m * Nat.pow 10 e.toNat) 1)
  else ofRank negative (nearestRank m (Nat.pow 10 (-e).toNat))

/-- The number without its fraction. -/
def truncate? : Binary64 → Option Int
  | .finite negative rank =>
    let n : Int := units rank / unitsPerOne
    some (if negative then -n else n)
  | _ => none

def isWhole : Binary64 → Bool
  | .finite _ rank => units rank % unitsPerOne == 0
  | _ => false

def isFinite : Binary64 → Bool
  | .finite .. => true
  | _ => false

/-- The number itself, if it is finite. -/
def finite? (x : Binary64) : Except NumberFault Binary64 :=
  if x.isFinite then .ok x else .error .tooLargeForReal

def ofInt (n : Int) : Except NumberFault Binary64 :=
  (ofRank (n < 0) (nearestRank n.natAbs 1)).finite?

end Binary64

end Tabula
