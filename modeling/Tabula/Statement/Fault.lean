import Tabula.Statement.Keyword
import Tabula.Token.Scan

/-!
Why a command of a known kind is not a statement.
-/

namespace Tabula

/-- What a name is the name of. -/
inductive Role where
  | table
  | column
  | columnType
  | index
deriving DecidableEq

def Role.text : Role → String
  | table => "table name"
  | column => "column name"
  | columnType => "column type"
  | index => "index name"

inductive StatementFault where
  | scan (fault : ScanFault)
  | expectedKeyword (k : Keyword)
  | expectedSymbol (s : Symbol)
  | expectedName (role : Role)
  | expectedValue
  | expectedComparison
  | missingCondition
  | unbalanced
  | manyPrimaryKeys
  | unequalCounts (columns values : Nat)
  /-- an operand of a join does not name its table -/
  | unqualifiedJoin
  /-- the operands of a join do not belong to its two tables -/
  | foreignJoin (left right : String)
  | unexpected (text : String)
deriving DecidableEq

def StatementFault.message : StatementFault → String
  | scan fault => fault.message
  | expectedKeyword k => "expected " ++ k.text
  | expectedSymbol s => "expected '" ++ s.text ++ "'"
  | expectedName role => "expected " ++ role.text
  | expectedValue => "expected a value"
  | expectedComparison => "expected a comparison operator"
  | missingCondition => "must include WHERE clause"
  | unbalanced => "unbalanced parentheses"
  | manyPrimaryKeys => "only one PRIMARY KEY is allowed"
  | unequalCounts columns values =>
    "column count (" ++ toString columns ++ ") doesn't match value count (" ++ toString values ++
      ")"
  | unqualifiedJoin => "JOIN condition must use table.column on both sides"
  | foreignJoin left right => "JOIN condition must reference " ++ left ++ " and " ++ right
  | unexpected text => "unexpected '" ++ text ++ "'"

end Tabula
