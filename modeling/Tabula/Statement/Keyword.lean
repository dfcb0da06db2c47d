import Tabula.Text.Casing
import Tabula.Token

/-!
The keywords of the command language. A word is a keyword if its upper case is.
-/

namespace Tabula

inductive Keyword where
  | create | table | insert | into | values | select | from | inner | join | on | where | update
  | set | delete | index | show | tables | describe | null | primary | key | unique
deriving DecidableEq

namespace Keyword

def text : Keyword → String
  | create => "CREATE"
  | table => "TABLE"
  | insert => "INSERT"
  | into => "INTO"
  | values => "VALUES"
  | select => "SELECT"
  | «from» => "FROM"
  | inner => "INNER"
  | join => "JOIN"
  | on => "ON"
  | «where» => "WHERE"
  | update => "UPDATE"
  | set => "SET"
  | delete => "DELETE"
  | index => "INDEX"
  | «show» => "SHOW"
  | tables => "TABLES"
  | describe => "DESCRIBE"
  | null => "NULL"
  | primary => "PRIMARY"
  | key => "KEY"
  | unique => "UNIQUE"

def spelledBy (k : Keyword) (word : String) : Bool :=
  Text.capitals word.toList == k.text.toList

end Keyword

def Token.isKeyword (k : Keyword) : Token → Bool
  | word text => k.spelledBy text
  | _ => false

end Tabula
