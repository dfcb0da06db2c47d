import Tabula.Json
import Tabula.Value.Order

/-!
Equality of documents by what they are worth: numbers of all kinds are compared by their place, and
the order of members does not matter.

What is no number is the same as itself, but does not equal itself.
-/

namespace Tabula.Json

/-- Whether two documents are the same. -/
def same : Json → Json → Bool
  | scalar v, scalar w => v.sameKey w
  | array xs, array ys => items xs ys
  | object xs, object ys => xs.length == ys.length && members xs ys
  | _, _ => false
where
  items : List Json → List Json → Bool
    | [], [] => true
    | x :: xs, y :: ys => x.same y && items xs ys
    | _, _ => false
  /-- Every member of the first is in the second. -/
  members : List (String × Json) → List (String × Json) → Bool
    | [], _ => true
    | (name, x) :: xs, ys =>
      (match Keyed.find? ys name with
        | some y => x.same y
        | none => false) && members xs ys

def isNaN : Json → Bool
  | scalar (.real (.nan _)) => true
  | _ => false

def equal (a b : Json) : Bool := a.same b && !a.isNaN

end Tabula.Json
