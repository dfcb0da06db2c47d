/-!
Whole numbers in decimal, and the limit on how many digits are read or written.
-/

namespace Tabula

/-- Why a number cannot be converted. -/
inductive NumberFault where
  /-- a whole number with this many digits is to be read -/
  | tooManyDigits (count : Nat)
  /-- a whole number with too many digits is to be written -/
  | tooLongToWrite
  | tooLargeForReal
deriving DecidableEq, Repr

/-- The digits that a whole number may have where it is read or written. -/
def digitLimit : Nat := 4300

namespace NumberFault

def message : NumberFault → String
  | .tooManyDigits count =>
    "Exceeds the limit (4300 digits) for integer string conversion: value has " ++ toString count ++
      " digits; use sys.set_int_max_str_digits() to increase the limit"
  | .tooLongToWrite =>
    "Exceeds the limit (4300 digits) for integer string conversion; " ++
      "use sys.set_int_max_str_digits() to increase the limit"
  | .tooLargeForReal => "int too large to convert to float"

end NumberFault

/-- The decimal digits of a number, the most significant first. -/
def decimal (n : Nat) : List Char := Nat.toDigits 10 n

/-- The number with the given decimal digits, the most significant first. -/
def ofDigits (ds : List Nat) : Nat := ds.foldl (fun n d => 10 * n + d) 0

/-- A minus sign stands before the digits of a negative number. -/
def decimalInt (n : Int) : List Char :=
  if n < 0 then '-' :: decimal n.natAbs else decimal n.natAbs

/-- Whether a number is short enough to be written. -/
def Writable (n : Int) : Prop := n.natAbs < Nat.pow 10 digitLimit

instance (n : Int) : Decidable (Writable n) := by unfold Writable; infer_instance

def writeInt (n : Int) : Except NumberFault String :=
  if Writable n then .ok (String.ofList (decimalInt n)) else .error .tooLongToWrite

/-- Reads digits; leading zeros count towards the limit, a sign does not. -/
def readInt (negative : Bool) (ds : List Nat) : Except NumberFault Int :=
  if ds.length ≤ digitLimit then .ok (if negative then -(ofDigits ds : Int) else ofDigits ds)
  else .error (.tooManyDigits ds.length)

end Tabula
