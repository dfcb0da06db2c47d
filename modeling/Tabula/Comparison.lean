import Tabula.Value.Order

/-!
The six comparisons of conditions.
-/

namespace Tabula

inductive Comparison where
  | atLeast
  | atMost
  | notEqual
  | equal
  | greater
  | less
deriving DecidableEq

namespace Comparison

def text : Comparison → String
  | atLeast => ">="
  | atMost => "<="
  | notEqual => "!="
  | equal => "="
  | greater => ">"
  | less => "<"

def all : List Comparison := [atLeast, atMost, notEqual, equal, greater, less]

def ofText? (s : String) : Option Comparison := all.find? (·.text == s)

/-- The message for a text that is no comparison. -/
def unsupported (s : String) : String := "Unsupported operator: " ++ s

/-- Values without an order satisfy no comparison but inequality. -/
def holds (c : Comparison) (v w : Value) : Except NumberFault Bool :=
  match c with
  | equal => v.looselyEqual w
  | notEqual => (!·) <$> v.looselyEqual w
  | less => (· == some .lt) <$> v.looselyCompare w
  | greater => (· == some .gt) <$> v.looselyCompare w
  | atMost => (fun o => o == some .lt || o == some .eq) <$> v.looselyCompare w
  | atLeast => (fun o => o == some .gt || o == some .eq) <$> v.looselyCompare w

end Comparison

end Tabula
