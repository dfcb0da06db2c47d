import Tabula.Json
import Tabula.Text.Wide
import Tabula.Value.Order

/-!
Documents as they are read. Unlike in `Json`, the texts in them may have halves of pairs.
-/

namespace Tabula

/-- A scalar as it is read. -/
inductive Atom where
  | null
  | bool (b : Bool)
  | int (n : Int)
  | real (x : Binary64)
  | text (s : Wide)
deriving DecidableEq, Inhabited

namespace Atom

def ofValue : Value → Atom
  | .null => null
  | .bool b => bool b
  | .int n => int n
  | .real x => real x
  | .text s => text (Wide.ofString s)

/-- The value that an atom is, unless it is text with halves of pairs. -/
def value? : Atom → Option Value
  | null => some .null
  | bool b => some (.bool b)
  | int n => some (.int n)
  | real x => some (.real x)
  | text s => s.string?.map .text

/-- What makes an atom the key that it is, as it does for values. -/
def identity : Atom → Wide ⊕ Value.Identity
  | null => .inr Value.null.identity
  | bool b => .inr (Value.bool b).identity
  | int n => .inr (Value.int n).identity
  | real x => .inr (Value.real x).identity
  | text s => .inl s

instance : Key Atom where
  same a b := decide (a.identity = b.identity)
  same_refl _ := decide_eq_true rfl
  same_symm h := decide_eq_true (of_decide_eq_true h).symm
  same_trans h k := decide_eq_true ((of_decide_eq_true h).trans (of_decide_eq_true k))

theorem value?_ofValue (v : Value) : (ofValue v).value? = some v := by
  cases v with
  | text s => exact congrArg (Option.map Value.text) (Wide.string?_ofString s)
  | null | bool _ | int _ | real _ => rfl

end Atom

inductive Document where
  | atom (a : Atom)
  | array (items : List Document)
  | object (members : List (Wide × Document))
deriving Inhabited

namespace Document

def null : Document := atom .null

def text (s : Wide) : Document := atom (.text s)

/-- What a member of an object stands for. -/
def member? (name : String) : Document → Option Document
  | object members => Keyed.find? members (Wide.ofString name)
  | _ => none

/-- The document without halves of pairs, if there are none. -/
def json? : Document → Option Json
  | atom a => a.value?.map .scalar
  | array items => (ofItems items).map .array
  | object members => (ofMembers members).map .object
where
  ofItems : List Document → Option (List Json)
    | [] => some []
    | x :: xs => do return (← x.json?) :: (← ofItems xs)
  ofMembers : List (Wide × Document) → Option (List (String × Json))
    | [] => some []
    | (name, x) :: xs => do return (← name.string?, ← x.json?) :: (← ofMembers xs)

end Document

/-- The document as one that might have been read. -/
def Json.document : Json → Document
  | scalar v => .atom (.ofValue v)
  | array items => .array (ofItems items)
  | object members => .object (ofMembers members)
where
  ofItems : List Json → List Document
    | [] => []
    | x :: xs => x.document :: ofItems xs
  ofMembers : List (String × Json) → List (Wide × Document)
    | [] => []
    | (name, x) :: xs => (Wide.ofString name, x.document) :: ofMembers xs

namespace Json

theorem document_array (items : List Json) :
    (array items).document = .array (items.map document) := by
  rw [document]
  induction items with
  | nil => rfl
  | cons x xs ih => rw [document.ofItems, Document.array.inj ih]; rfl

theorem document_object (members : List (String × Json)) :
    (object members).document =
      .object (members.map fun m => (Wide.ofString m.1, m.2.document)) := by
  rw [document]
  induction members with
  | nil => rfl
  | cons m ms ih => rw [document.ofMembers, Document.object.inj ih]; rfl

mutual

/-- A document that might have been read is what it was. -/
theorem json?_document : ∀ j : Json, j.document.json? = some j
  | scalar v => by rw [document, Document.json?, Atom.value?_ofValue]; rfl
  | array items => by rw [document, Document.json?, json?_ofItems items]; rfl
  | object members => by rw [document, Document.json?, json?_ofMembers members]; rfl

theorem json?_ofItems : ∀ xs : List Json, Document.json?.ofItems (document.ofItems xs) = some xs
  | [] => rfl
  | x :: xs => by rw [document.ofItems, Document.json?.ofItems, json?_document x, json?_ofItems xs]; rfl

theorem json?_ofMembers :
    ∀ ms : List (String × Json), Document.json?.ofMembers (document.ofMembers ms) = some ms
  | [] => rfl
  | (name, x) :: ms => by
    rw [document.ofMembers, Document.json?.ofMembers, Wide.string?_ofString, json?_document x,
      json?_ofMembers ms]
    rfl

end

end Json

end Tabula
