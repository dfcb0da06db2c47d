import Tabula.Failure
import Tabula.Json
import Tabula.Label

/-!
Applications that are reached over the web.

An application has endpoints, each under a method and a path, and turns some failures into responses
of its own. All else is left to a framework: to find the endpoint of a request, to hand over what
the endpoint takes from it, and to encode what comes back.
-/

namespace Tabula.Web

structure Request where
  method : String
  path : String
  body : List UInt8

/-- A response may come without a body that could be told beforehand. -/
structure Response where
  status : Nat
  body : Option Json

/-- What an endpoint gives back, before it is encoded. -/
inductive Content where
  | document (j : Json)
  /-- how many there are of something -/
  | count (n : Nat)
  | list (items : List Content)
  | dict (members : List (Label × Content))

namespace Content

def text (s : String) : Content := document (.text s)

def value (v : Value) : Content := document (.scalar v)

/-- Whether a value can be encoded: a number has to be finite, and a whole one short enough. -/
def encodes : Value → Bool
  | .int n => Writable n
  | .real x => x.isFinite
  | .null | .bool _ | .text _ => true

/-- The content as a document, if it can be encoded. A member stands under the key of its label. -/
def json? (key : Label → String) : Content → Option Json
  | document j => if j.scalars.all encodes then some j else none
  | count n => some (.int n)
  | list items => (ofItems items).map .array
  | dict members => (ofMembers members).map .object
where
  ofItems : List Content → Option (List Json)
    | [] => some []
    | x :: xs => do return (← json? key x) :: (← ofItems xs)
  ofMembers : List (Label × Content) → Option (List (String × Json))
    | [] => some []
    | (l, x) :: xs =>
      if encodes l.value then do return (key l, ← json? key x) :: (← ofMembers xs) else none

end Content

/-- What an endpoint does, by what it takes from a request. -/
inductive Handler (σ : Type) where
  | plain (run : σ → σ × Except Failure Content)
  /-- it takes the text of a member of the body -/
  | ofBody (member : String) (run : String → σ → σ × Except Failure Content)
  /-- it takes the rest of the path -/
  | ofPath (run : String → σ → σ × Except Failure Content)

structure Endpoint (σ : Type) where
  method : String
  path : String
  handler : Handler σ

structure App (σ : Type) where
  endpoints : List (Endpoint σ)
  /-- the status and the content that a failure is answered with, if it is one of those -/
  caught : Failure → Option (Nat × Content)

/-- What serves applications, whatever their states are. -/
structure Framework where
  /-- the name that a member of a document gets for its label -/
  key : Label → String
  handle : {σ : Type} → App σ → σ → Request → σ × Response

namespace Framework

variable {σ : Type}

/-- Requests one after the other. -/
def handleAll (fw : Framework) (app : App σ) (s : σ) : List Request → σ × List Response
  | [] => (s, [])
  | r :: rs =>
    let (next, response) := fw.handle app s r
    let (last, responses) := handleAll fw app next rs
    (last, response :: responses)

end Framework

end Tabula.Web
