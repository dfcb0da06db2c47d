import Tabula.Json
import Tabula.Label

/-!
The shapes of documents, and what a document cannot be used for because of its shape.

A database that was read may name things by documents of any shape. It can be shown and written
back; only where such a name is put to use, its shape counts.
-/

namespace Tabula

namespace Json

inductive Shape where
  | null
  | bool
  | int
  | real
  | text
  | list
  | object
deriving DecidableEq

def Shape.name : Shape → String
  | null => "NoneType"
  | bool => "bool"
  | int => "int"
  | real => "float"
  | text => "str"
  | list => "list"
  | object => "dict"

def Shape.ofValue : Value → Shape
  | .null => null
  | .bool _ => bool
  | .int _ => int
  | .real _ => real
  | .text _ => text

def shape : Json → Shape
  | scalar v => .ofValue v
  | array _ => .list
  | object _ => .object

/-- NULL, zero, and what has nothing in it. -/
def isEmpty : Json → Bool
  | scalar .null => true
  | scalar (.bool b) => !b
  | scalar (.int n) => n == 0
  | scalar (.real (.finite _ rank)) => rank.val == 0
  | scalar (.real _) => false
  | scalar (.text s) => s == ""
  | array items => items.isEmpty
  | object members => members.isEmpty

end Json

/-- Why a document of the wrong shape cannot be used. -/
inductive ShapeFault where
  /-- no cell can be found under it -/
  | noLabel (shape : Json.Shape)
  /-- it is the type of no column -/
  | noType (shape : Json.Shape)
  /-- a table cannot be headed by it -/
  | noHeading (shape : Json.Shape)
deriving DecidableEq

def ShapeFault.message : ShapeFault → String
  | noLabel shape => "unhashable type: '" ++ shape.name ++ "'"
  | noType shape => "'" ++ shape.name ++ "' object has no attribute 'strip'"
  | noHeading shape => "object of type '" ++ shape.name ++ "' has no len()"

/-- The label that a document is. -/
def Json.label : Json → Except ShapeFault Label
  | scalar v => .ok ⟨v⟩
  | j => .error (.noLabel j.shape)

/-- The label as the head of a shown column. -/
def Label.heading (l : Label) : Except ShapeFault String :=
  match l.name? with
  | some s => .ok s
  | none => .error (.noHeading (.ofValue l.value))

end Tabula
