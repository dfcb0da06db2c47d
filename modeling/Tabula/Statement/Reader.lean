import Tabula.Statement
import Tabula.Statement.Fault

/-!
Reading tokens as statements.

Every reader takes its part from the head of the tokens and leaves the rest; at the first token that
does not fit it says what it expected. `Statement.ofTokens` reads a statement of a given kind to the
end of the tokens, where one semicolon may stand.
-/

namespace Tabula.Statement

abbrev Reader := StateT (List Token) (Except StatementFault)

def fail {α : Type} (fault : StatementFault) : Reader α := fun _ => .error fault

def keywordOr (fault : StatementFault) (k : Keyword) : Reader Unit
  | t :: ts => if t.isKeyword k then .ok ((), ts) else .error fault
  | [] => .error fault

def keyword (k : Keyword) : Reader Unit := keywordOr (.expectedKeyword k) k

def symbol (s : Symbol) : Reader Unit
  | t :: ts => if t = .symbol s then .ok ((), ts) else .error (.expectedSymbol s)
  | [] => .error (.expectedSymbol s)

/-- Takes a keyword if it comes next. -/
def keyword? (k : Keyword) : Reader Bool
  | t :: ts => if t.isKeyword k then .ok (true, ts) else .ok (false, t :: ts)
  | [] => .ok (false, [])

/-- Takes a symbol if it comes next. -/
def symbol? (s : Symbol) : Reader Bool
  | t :: ts => if t = .symbol s then .ok (true, ts) else .ok (false, t :: ts)
  | [] => .ok (false, [])

def name (role : Role) : Reader String
  | .word text :: ts => .ok (text, ts)
  | _ => .error (.expectedName role)

/-- The value of a literal. A word that is not NULL stands for itself. -/
def literal? : Token → Option Value
  | .quoted _ content => some (.text content)
  | .number _ value => some (.ofNumber value)
  | .word text => some (if Keyword.null.spelledBy text then .null else .text text)
  | .symbol _ => none

def literal : Reader Value
  | t :: ts =>
    match literal? t with
    | some v => .ok (v, ts)
    | none => .error .expectedValue
  | [] => .error .expectedValue

def columnName : Reader ColumnName := do
  let first ← name .column
  if ← symbol? .dot then return ⟨some first, ← name .column⟩
  else return ⟨none, first⟩

def comparison : Reader Comparison
  | .symbol (.comparison c) :: ts => .ok (c, ts)
  | _ => .error .expectedComparison

def condition : Reader Condition := do
  let column ← columnName
  let c ← comparison
  return ⟨column, c, ← literal⟩

/-- One item or more with commas between them. -/
def separated {α : Type} (item : Reader α) : Reader (List α) := fun ts => loop ts.length ts
where
  /-- Every round takes a comma, so there are fewer rounds than tokens. -/
  loop : Nat → Reader (List α)
    | 0 => do return [← item]
    | rounds + 1 => do
      let a ← item
      if ← symbol? .comma then return a :: (← loop rounds)
      else return [a]

/-- The rest of a group in parentheses, as the text of its tokens; `depth` groups are open
inside it. -/
def groupText : Nat → Reader String
  | _, [] => .error .unbalanced
  | 0, .symbol .closing :: ts => .ok (")", ts)
  | depth + 1, .symbol .closing :: ts =>
    (groupText depth ts).map fun (text, ts) => (")" ++ text, ts)
  | depth, .symbol .opening :: ts =>
    (groupText (depth + 1) ts).map fun (text, ts) => ("(" ++ text, ts)
  | depth, t :: ts => (groupText depth ts).map fun (text, ts) => (t.text ++ text, ts)

/-- The tokens after the type of a column, up to the comma or parenthesis that ends its definition.
Groups in parentheses are left out; `depth` of them are open. -/
def modifiers : Nat → Reader (List Token)
  | 0, [] => .error (.expectedSymbol .closing)
  | _ + 1, [] => .error .unbalanced
  | 0, .symbol .comma :: ts => .ok ([], .symbol .comma :: ts)
  | 0, .symbol .closing :: ts => .ok ([], .symbol .closing :: ts)
  | depth + 1, .symbol .closing :: ts => modifiers depth ts
  | depth, .symbol .opening :: ts => modifiers (depth + 1) ts
  | 0, t :: ts => (modifiers 0 ts).map fun (found, ts) => (t :: found, ts)
  | depth + 1, _ :: ts => modifiers (depth + 1) ts

/-- The type of a column, with the group in parentheses that may follow it. A definition may go
without. -/
def columnType : Reader String
  | [] => .error (.expectedName .columnType)
  | t :: ts =>
    if t.isKeyword .primary || t.isKeyword .unique || t = .symbol .comma ||
        t = .symbol .closing then .ok ("", t :: ts)
    else
      (do
        let word ← name .columnType
        if ← symbol? .opening then return word ++ "(" ++ (← groupText 0)
        else return word : Reader String) (t :: ts)

/-- Whether PRIMARY and KEY stand side by side. -/
def marksPrimaryKey : List Token → Bool
  | t :: u :: ts => (t.isKeyword .primary && u.isKeyword .key) || marksPrimaryKey (u :: ts)
  | _ => false

def columnDeclaration : Reader ColumnDeclaration := do
  let column ← name .column
  let declared ← columnType
  let marks ← modifiers 0
  return ⟨column, declared, marksPrimaryKey marks, marks.any (·.isKeyword .unique)⟩

def readCreateTable : Reader Statement := do
  keyword .create
  keyword .table
  let table ← name .table
  symbol .opening
  let columns ← separated columnDeclaration
  symbol .closing
  if 1 < columns.countP (·.primaryKey) then fail .manyPrimaryKeys
  else return .createTable table columns

def readInsert : Reader Statement := do
  keyword .insert
  keyword .into
  let table ← name .table
  symbol .opening
  let columns ← separated (name .column)
  symbol .closing
  keyword .values
  symbol .opening
  let values ← separated literal
  symbol .closing
  if columns.length = values.length then return .insert table columns values
  else fail (.unequalCounts columns.length values.length)

def join : Reader Join := do
  let table ← name .table
  keyword .on
  let left ← columnName
  symbol (.comparison .equal)
  let right ← columnName
  if left.table.isSome && right.table.isSome then return ⟨table, left, right⟩
  else fail .unqualifiedJoin

def join? : Reader (Option Join) := do
  if ← keyword? .inner then
    keyword .join
    return some (← join)
  else if ← keyword? .join then return some (← join)
  else return none

def readSelect : Reader Statement := do
  keyword .select
  let columns ← if ← symbol? .star then pure none else some <$> separated columnName
  keyword .from
  let table ← name .table
  let other ← join?
  if ← keyword? .where then return .select table columns other (some (← condition))
  else return .select table columns other none

def assignment : Reader (String × Value) := do
  let column ← name .column
  symbol (.comparison .equal)
  return (column, ← literal)

def readUpdate : Reader Statement := do
  keyword .update
  let table ← name .table
  keyword .set
  let assignments ← separated assignment
  keywordOr .missingCondition .where
  return .update table (Keyed.ofList assignments) (← condition)

def readDelete : Reader Statement := do
  keyword .delete
  keyword .from
  let table ← name .table
  keywordOr .missingCondition .where
  return .delete table (← condition)

def readCreateIndex : Reader Statement := do
  keyword .create
  keyword .index
  let index ← name .index
  keyword .on
  let table ← name .table
  symbol .opening
  let column ← name .column
  symbol .closing
  return .createIndex index table column

def readShowTables : Reader Statement := do
  keyword .show
  keyword .tables
  return .showTables

def readDescribe : Reader Statement := do
  keyword .describe
  return .describe (← name .table)

def read : Kind → Reader Statement
  | .createTable => readCreateTable
  | .insert => readInsert
  | .select => readSelect
  | .update => readUpdate
  | .delete => readDelete
  | .createIndex => readCreateIndex
  | .showTables => readShowTables
  | .describe => readDescribe

/-- One semicolon may stand at the end. -/
def finish : Reader Unit := do
  let _ ← symbol? .semicolon
  fun
  | [] => .ok ((), [])
  | t :: _ => .error (.unexpected t.text)

def ofTokens (kind : Kind) (ts : List Token) : Except StatementFault Statement := do
  let (statement, _) ← (do
    let statement ← read kind
    finish
    return statement : Reader Statement).run ts
  return statement

end Tabula.Statement
