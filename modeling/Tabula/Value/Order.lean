import Tabula.Value

/-!
Equality and order of values.

There are three equalities. `same` is that of equal kind and value, `sameKey` that of index keys,
where numbers of all kinds are compared by what they are worth, and `looselyEqual` that of
conditions, where text that spells a number counts as the number.
-/

namespace Tabula

/-- Where a number stands on the line, finite ones in units of the least positive magnitude. -/
inductive Place where
  | below
  | at (units : Int)
  | above
  | nowhere
deriving DecidableEq

namespace Place

/-- The order of two places, if both are on the line. -/
def compare? : Place → Place → Option Ordering
  | nowhere, _ | _, nowhere => none
  | below, below | above, above => some .eq
  | below, _ | _, above => some .lt
  | _, below | above, _ => some .gt
  | «at» m, «at» n => some (compare m n)

end Place

namespace Number

def place : Number → Place
  | int n => .at (n * unitsPerOne)
  | real (.finite negative rank) =>
    let u : Int := Binary64.units rank
    .at (if negative then -u else u)
  | real (.infinite negative) => if negative then .below else .above
  | real (.nan _) => .nowhere

def equal (a b : Number) : Bool := a.place.compare? b.place == some .eq

end Number

namespace Value

/-- Two values of one kind that are equal. -/
def same : Value → Value → Bool
  | null, null => true
  | bool a, bool b => a == b
  | int m, int n => m == n
  | real x, real y => (Number.real x).equal (.real y)
  | text s, text t => s == t
  | _, _ => false

/-- What makes a value the key that it is: numbers of all kinds are told apart by their place only,
and what is no number by what tells it apart. -/
inductive Identity where
  | null
  | text (s : String)
  | number (p : Place)
  | nan (payload : Nat)
deriving DecidableEq

def identity : Value → Identity
  | null => .null
  | text s => .text s
  | real (.nan payload) => .nan payload
  | bool b => .number (Number.int (if b then 1 else 0)).place
  | int n => .number (Number.int n).place
  | real x => .number (Number.real x).place

/-- Whether two values are one key. -/
def sameKey (v w : Value) : Bool := v.identity == w.identity

theorem sameKey_text (s t : String) : sameKey (.text s) (.text t) = (s == t) := by
  change (Identity.text s == Identity.text t) = (s == t)
  rw [Bool.eq_iff_iff, beq_iff_eq, beq_iff_eq]
  exact Identity.text.injEq s t ▸ Iff.rfl

/-- Two numbers to be compared, of which text may spell one, or two texts. -/
inductive Pair where
  | numbers (a b : Number)
  | texts (s t : String)
  | incomparable

def pair (v w : Value) : Except NumberFault Pair :=
  match v, w with
  | null, _ | _, null => .ok .incomparable
  | text s, text t => .ok (.texts s t)
  | text s, w =>
    match w.number? with
    | some b => do
      match ← Numeral.read? s.toList with
      | some a => return .numbers a b
      | none => return .incomparable
    | none => .ok .incomparable
  | v, text t =>
    match v.number? with
    | some a => do
      match ← Numeral.read? t.toList with
      | some b => return .numbers a b
      | none => return .incomparable
    | none => .ok .incomparable
  | v, w =>
    match v.number?, w.number? with
    | some a, some b => .ok (.numbers a b)
    | _, _ => .ok .incomparable

/-- Nothing but NULL equals NULL. -/
def looselyEqual (v w : Value) : Except NumberFault Bool :=
  if v = null ∨ w = null then .ok (v == null && w == null)
  else do
    match ← pair v w with
    | .numbers a b => return a.equal b
    | .texts s t => return s == t
    | .incomparable => return false

/-- The order of two values, if they have one. Numbers of which one is not on the line count as
neither greater nor smaller. -/
def looselyCompare (v w : Value) : Except NumberFault (Option Ordering) := do
  match ← pair v w with
  | .numbers a b => return some ((a.place.compare? b.place).getD .eq)
  | .texts s t => return some (if s < t then .lt else if s = t then .eq else .gt)
  | .incomparable => return none

end Value

end Tabula
