import Mathlib.Tactic.Lemma
import Tabula.Statement
import Tabula.Statement.Keyword

/-!
The grammar of the command language, as a relation between tokens and what they stand for.

There is one production for every kind of statement. What stands for a keyword and for a literal
depends on a spelling: the one that is read leaves more freedom than those that are printed. Of the
declarations of columns only those without parentheses and without further words are covered.
-/

namespace Tabula.Statement

/-- Which tokens stand for a keyword, and which for a literal. -/
structure Spelling where
  keyword (k : Keyword) (t : Token) : Prop
  literal (v : Value) (t : Token) : Prop

/-! ### The spelling that is read -/

/-- A word is a keyword if its upper case is. -/
def IsKeyword (k : Keyword) (t : Token) : Prop := ∃ word, t = .word word ∧ k.spelledBy word = true

/-- A literal is NULL in any case, another word that stands for itself, a number or quoted text. -/
inductive IsLiteral : Value → Token → Prop
  | null {word : String} (h : Keyword.null.spelledBy word = true) : IsLiteral .null (.word word)
  | word {word : String} (h : Keyword.null.spelledBy word = false) :
    IsLiteral (.text word) (.word word)
  | number (text : String) (x : Number) : IsLiteral (.ofNumber x) (.number text x)
  | quoted (text content : String) : IsLiteral (.text content) (.quoted text content)

def Spelling.read : Spelling := ⟨IsKeyword, IsLiteral⟩

/-! ### Parts of statements -/

/-- A column, which may be preceded by its table. -/
inductive Refers : List Token → ColumnName → Prop
  | plain (column : String) : Refers [.word column] ⟨none, column⟩
  | qualified (table column : String) :
    Refers [.word table, .symbol .dot, .word column] ⟨some table, column⟩

/-- A name on its own. -/
inductive Names : List Token → String → Prop
  | word (name : String) : Names [.word name] name

/-- One item or more, with commas between them. -/
inductive Lists {α : Type} (item : List Token → α → Prop) : List Token → List α → Prop
  | last {ts : List Token} {a : α} (h : item ts a) : Lists item ts [a]
  | more {ts us : List Token} {a : α} {as : List α} (h : item ts a) (hs : Lists item us as) :
    Lists item (ts ++ .symbol .comma :: us) (a :: as)

/-- A star for all columns, or a list of some. -/
inductive Selects : List Token → Option (List ColumnName) → Prop
  | star : Selects [.symbol .star] none
  | columns {ts : List Token} {cs : List ColumnName} (h : Lists Refers ts cs) :
    Selects ts (some cs)

/-- A type may be missing. If it is one of the words that mark a column, it is read as missing. -/
inductive Types : List Token → String → Prop
  | nothing : Types [] ""
  | word (type : String) (hne : type ≠ "") (hp : Keyword.primary.spelledBy type = false)
    (hu : Keyword.unique.spelledBy type = false) : Types [.word type] type

namespace Spelling

variable (σ : Spelling)

inductive Denotes : List Token → Value → Prop
  | one {v : Value} {t : Token} (h : σ.literal v t) : Denotes [t] v

inductive Assigns : List Token → String × Value → Prop
  | mk {v : Value} {t : Token} (column : String) (h : σ.literal v t) :
    Assigns [.word column, .symbol (.comparison .equal), t] (column, v)

/-- A comparison of a column with a literal. -/
inductive Compares : List Token → Condition → Prop
  | mk {ts : List Token} {column : ColumnName} {v : Value} {t : Token} (hc : Refers ts column)
    (c : Comparison) (hv : σ.literal v t) :
    Compares (ts ++ [.symbol (.comparison c), t]) ⟨column, c, v⟩

/-- A second table and two columns with their tables. -/
inductive Joins : List Token → Join → Prop
  | mk {on : Token} {ls rs : List Token} {left right : ColumnName} (table : String)
    (hon : σ.keyword .on on) (hl : Refers ls left) (hr : Refers rs right)
    (ql : left.table.isSome = true) (qr : right.table.isSome = true) :
    Joins (.word table :: on :: ls ++ .symbol (.comparison .equal) :: rs) ⟨table, left, right⟩

inductive MayJoin : List Token → Option Join → Prop
  | nothing : MayJoin [] none
  | join {k : Token} {ts : List Token} {j : Join} (hk : σ.keyword .join k) (h : σ.Joins ts j) :
    MayJoin (k :: ts) (some j)
  | inner {i k : Token} {ts : List Token} {j : Join} (hi : σ.keyword .inner i)
    (hk : σ.keyword .join k) (h : σ.Joins ts j) : MayJoin (i :: k :: ts) (some j)

inductive MayCompare : List Token → Option Condition → Prop
  | nothing : MayCompare [] none
  | «where» {k : Token} {ts : List Token} {c : Condition} (hk : σ.keyword .where k)
    (h : σ.Compares ts c) : MayCompare (k :: ts) (some c)

/-- Whether a column is marked as the primary key, and whether as unique. -/
inductive Marks : List Token → Bool → Bool → Prop
  | nothing : Marks [] false false
  | unique {u : Token} (hu : σ.keyword .unique u) : Marks [u] false true
  | primary {p k : Token} (hp : σ.keyword .primary p) (hk : σ.keyword .key k) :
    Marks [p, k] true false
  | primaryFirst {p k u : Token} (hp : σ.keyword .primary p) (hk : σ.keyword .key k)
    (hu : σ.keyword .unique u) : Marks [p, k, u] true true
  | uniqueFirst {p k u : Token} (hu : σ.keyword .unique u) (hp : σ.keyword .primary p)
    (hk : σ.keyword .key k) : Marks [u, p, k] true true

inductive Declares : List Token → ColumnDeclaration → Prop
  | mk {ts ms : List Token} {type : String} {primaryKey unique : Bool} (name : String)
    (ht : Types ts type) (hm : σ.Marks ms primaryKey unique) :
    Declares (.word name :: ts ++ ms) ⟨name, type, primaryKey, unique⟩

/-! ### Statements -/

/-- The tokens of a statement, from the first keyword to the last part. An update assigns to every
column the last value that it is given for it. -/
inductive Derives : List Token → Statement → Prop
  | createTable {create table : Token} {ts : List Token} {columns : List ColumnDeclaration}
    (name : String) (h₁ : σ.keyword .create create) (h₂ : σ.keyword .table table)
    (hc : Lists σ.Declares ts columns) (hp : columns.countP (·.primaryKey) ≤ 1) :
    Derives (create :: table :: .word name :: .symbol .opening :: ts ++ [.symbol .closing])
      (.createTable name columns)
  | insert {insert into values : Token} {cs vs : List Token} {columns : List String}
    {literals : List Value} (table : String) (h₁ : σ.keyword .insert insert)
    (h₂ : σ.keyword .into into) (hc : Lists Names cs columns) (h₃ : σ.keyword .values values)
    (hv : Lists σ.Denotes vs literals) (hl : columns.length = literals.length) :
    Derives (insert :: into :: .word table :: .symbol .opening :: cs ++
        .symbol .closing :: values :: .symbol .opening :: vs ++ [.symbol .closing])
      (.insert table columns literals)
  | select {select from' : Token} {ss js ws : List Token} {columns : Option (List ColumnName)}
    {join : Option Join} {condition : Option Condition} (table : String)
    (h₁ : σ.keyword .select select) (hs : Selects ss columns) (h₂ : σ.keyword .from from')
    (hj : σ.MayJoin js join) (hw : σ.MayCompare ws condition) :
    Derives (select :: ss ++ from' :: .word table :: js ++ ws)
      (.select table columns join condition)
  | update {update set where' : Token} {as cs : List Token}
    {assignments : List (String × Value)} {c : Condition} (table : String)
    (h₁ : σ.keyword .update update) (h₂ : σ.keyword .set set)
    (ha : Lists σ.Assigns as assignments) (h₃ : σ.keyword .where where')
    (hc : σ.Compares cs c) :
    Derives (update :: .word table :: set :: as ++ where' :: cs)
      (.update table (Keyed.ofList assignments) c)
  | delete {delete from' where' : Token} {cs : List Token} {c : Condition} (table : String)
    (h₁ : σ.keyword .delete delete) (h₂ : σ.keyword .from from')
    (h₃ : σ.keyword .where where') (hc : σ.Compares cs c) :
    Derives (delete :: from' :: .word table :: where' :: cs) (.delete table c)
  | createIndex {create index on : Token} (name table column : String)
    (h₁ : σ.keyword .create create) (h₂ : σ.keyword .index index) (h₃ : σ.keyword .on on) :
    Derives [create, index, .word name, on, .word table, .symbol .opening, .word column,
        .symbol .closing]
      (.createIndex name table column)
  | showTables {«show» tables : Token} (h₁ : σ.keyword .show «show»)
    (h₂ : σ.keyword .tables tables) : Derives [«show», tables] .showTables
  | describe {describe : Token} (table : String) (h₁ : σ.keyword .describe describe) :
    Derives [describe, .word table] (.describe table)

end Spelling

/-- Nothing, or one semicolon. -/
def Ends (ts : List Token) : Prop := ts = [] ∨ ts = [.symbol .semicolon]

end Tabula.Statement
