import Tabula.Number.Binary64

/-!
The text of a floating-point number: the fewest decimal digits that read back as the number, and
of those the nearest to it. From 10^-4 up to 10^16 the digits are written around a point, elsewhere
before a power of ten.
-/

namespace Tabula.Binary64

/-- The power of ten of the first digit of a positive number of units. -/
def leading (u : Nat) : Int :=
  ((decimal (u * Nat.pow 10 400 / unitsPerOne)).length : Int) - 401

/-- A number of units as a fraction of ten to the `e`. -/
def inTens (u : Nat) (e : Int) : Nat × Nat :=
  if 0 ≤ e then (u, unitsPerOne * Nat.pow 10 e.toNat) else (u * Nat.pow 10 (-e).toNat, unitsPerOne)

def readsBack (rank : Fin rankCount) (m : Nat) (e : Int) : Bool :=
  ofDecimal false m e == .finite false rank

/-- The nearer to the number of its two neighbours among the multiples of ten to the `e`, if one
of them reads back. Halfway between two that do, the even one is taken. -/
def onGrid? (rank : Fin rankCount) (e : Int) : Option (Nat × Int) :=
  let (num, den) := inTens (units rank) e
  let low := num / den
  match readsBack rank low e, readsBack rank (low + 1) e with
  | true, true => some (roundHalfEven num den, e)
  | true, false => some (low, e)
  | false, true => some (low + 1, e)
  | false, false => none

/-- Digits and power of ten of a positive number. Seventeen digits are always enough; the exact
value is the end of the search. -/
def shortest (rank : Fin rankCount) : Nat × Int :=
  let top := leading (units rank)
  ((List.range 17).findSome? fun k : Nat => onGrid? rank (top - k)).getD
    (units rank * Nat.pow 5 1074, -1074)

/-- Digits without the zeros at their end. -/
def significant (m : Nat) : List Char :=
  ((decimal m).reverse.dropWhile (· == '0')).reverse

/-- Writes digits with a point after the first of them moved by `power` places. -/
def layOut (ds : List Char) (power : Int) : List Char :=
  if power < -4 || 16 ≤ power then
    let sign := if power < 0 then '-' else '+'
    let digits := decimal power.natAbs
    let tail := 'e' :: sign :: (if digits.length < 2 then '0' :: digits else digits)
    match ds with
    | [d] => d :: tail
    | d :: rest => d :: '.' :: rest ++ tail
    | [] => tail
  else if power < 0 then
    '0' :: '.' :: List.replicate (power.natAbs - 1) '0' ++ ds
  else
    let whole := power.toNat + 1
    if ds.length ≤ whole then ds ++ List.replicate (whole - ds.length) '0' ++ ['.', '0']
    else ds.take whole ++ '.' :: ds.drop whole

def magnitudeText (rank : Fin rankCount) : List Char :=
  if rank.val = 0 then ['0', '.', '0']
  else
    let (m, e) := shortest rank
    layOut (significant m) (e + (decimal m).length - 1)

/-- The signed text of a finite number, or the given words for the others. -/
def textWith (infinity nan : List Char) : Binary64 → List Char
  | .finite negative rank => if negative then '-' :: magnitudeText rank else magnitudeText rank
  | .infinite negative => if negative then '-' :: infinity else infinity
  | .nan _ => nan

def text (x : Binary64) : List Char := textWith ['i', 'n', 'f'] ['n', 'a', 'n'] x

end Tabula.Binary64
