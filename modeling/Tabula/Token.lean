import Tabula.Comparison

/-!
The tokens of the command language. A token keeps the text it was written as.
-/

namespace Tabula

inductive Symbol where
  | opening
  | closing
  | comma
  | star
  | dot
  | semicolon
  | comparison (c : Comparison)
deriving DecidableEq

def Symbol.text : Symbol → String
  | opening => "("
  | closing => ")"
  | comma => ","
  | star => "*"
  | dot => "."
  | semicolon => ";"
  | comparison c => c.text

inductive Token where
  | word (text : String)
  | number (text : String) (value : Number)
  | quoted (text content : String)
  | symbol (s : Symbol)
deriving DecidableEq

def Token.text : Token → String
  | word text | number text _ | quoted text _ => text
  | symbol s => s.text

/-- A token and the number of characters before it. -/
structure Placed where
  token : Token
  position : Nat
deriving DecidableEq

end Tabula
