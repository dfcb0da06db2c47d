import Tabula.Keyed
import Tabula.Value

/-!
JSON documents. Their scalars are the values of cells, and the members of an object have an order.
-/

namespace Tabula

inductive Json where
  | scalar (v : Value)
  | array (items : List Json)
  | object (members : List (String × Json))
deriving Inhabited

namespace Json

def text (s : String) : Json := scalar (.text s)

def int (n : Int) : Json := scalar (.int n)

def null : Json := scalar .null

mutual

def decEq : (a b : Json) → Decidable (a = b)
  | scalar v, scalar w =>
    if h : v = w then .isTrue (by rw [h]) else .isFalse (by simp [h])
  | array xs, array ys =>
    match decEqItems xs ys with
    | .isTrue h => .isTrue (by rw [h])
    | .isFalse h => .isFalse (by simp [h])
  | object xs, object ys =>
    match decEqMembers xs ys with
    | .isTrue h => .isTrue (by rw [h])
    | .isFalse h => .isFalse (by simp [h])
  | scalar _, array _ | scalar _, object _ | array _, scalar _ | array _, object _
  | object _, scalar _ | object _, array _ => .isFalse (by simp)

def decEqItems : (xs ys : List Json) → Decidable (xs = ys)
  | [], [] => .isTrue rfl
  | [], _ :: _ | _ :: _, [] => .isFalse (by simp)
  | x :: xs, y :: ys =>
    match decEq x y, decEqItems xs ys with
    | .isTrue h, .isTrue k => .isTrue (by rw [h, k])
    | .isFalse h, _ | _, .isFalse h => .isFalse (by simp [h])

def decEqMembers : (xs ys : List (String × Json)) → Decidable (xs = ys)
  | [], [] => .isTrue rfl
  | [], _ :: _ | _ :: _, [] => .isFalse (by simp)
  | (m, x) :: xs, (n, y) :: ys =>
    if h : m = n then
      match decEq x y, decEqMembers xs ys with
      | .isTrue k, .isTrue l => .isTrue (by rw [h, k, l])
      | .isFalse k, _ | _, .isFalse k => .isFalse (by simp [k])
    else .isFalse (by simp [h])

end

instance : DecidableEq Json := decEq

/-- The text that a document is, if it is one. -/
def text? : Json → Option String
  | scalar (.text s) => some s
  | _ => none

/-- What a member of an object stands for. -/
def member? (name : String) : Json → Option Json
  | object members => Keyed.find? members name
  | _ => none

/-- Every scalar of a document, in order. -/
def scalars : Json → List Value
  | scalar v => [v]
  | array items => ofItems items
  | object members => ofMembers members
where
  ofItems : List Json → List Value
    | [] => []
    | x :: xs => x.scalars ++ ofItems xs
  ofMembers : List (String × Json) → List Value
    | [] => []
    | (_, x) :: xs => x.scalars ++ ofMembers xs

/-- The document with every scalar replaced. -/
def mapScalars (f : Value → Value) : Json → Json
  | scalar v => scalar (f v)
  | array items => array (ofItems items)
  | object members => object (ofMembers members)
where
  ofItems : List Json → List Json
    | [] => []
    | x :: xs => x.mapScalars f :: ofItems xs
  ofMembers : List (String × Json) → List (String × Json)
    | [] => []
    | (name, x) :: xs => (name, x.mapScalars f) :: ofMembers xs

end Json

end Tabula
