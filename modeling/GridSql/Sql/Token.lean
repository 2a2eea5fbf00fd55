import GridSql.Sql.Expr

/-!
# Tokens

What a statement is written with. Words and punctuation are fixed; names,
literals, types and functions get their spelling from a dialect.
-/

namespace GridSql

/-- The fixed words of statements. Words that belong together are one keyword. -/
inductive Keyword where
  | select
  | distinct
  | fromWord
  | whereWord
  | groupBy
  | having
  | orderBy
  | asc
  | desc
  | nullsFirst
  | nullsLast
  | limit
  | offset
  | rows
  | fetchNext
  | rowsOnly
  | andWord
  | notWord
  | asWord
  | caseWord
  | whenWord
  | thenWord
  | elseWord
  | endWord
  | inWord
  | existsWord
  | betweenWord
  | like
  | escape
  | isNull
  | isNotNull
  | cast
  | null
deriving DecidableEq, Repr

namespace Keyword

def text : Keyword → String
  | select => "SELECT"
  | distinct => "DISTINCT"
  | fromWord => "FROM"
  | whereWord => "WHERE"
  | groupBy => "GROUP BY"
  | having => "HAVING"
  | orderBy => "ORDER BY"
  | asc => "ASC"
  | desc => "DESC"
  | nullsFirst => "NULLS FIRST"
  | nullsLast => "NULLS LAST"
  | limit => "LIMIT"
  | offset => "OFFSET"
  | rows => "ROWS"
  | fetchNext => "FETCH NEXT"
  | rowsOnly => "ROWS ONLY"
  | andWord => "AND"
  | notWord => "NOT"
  | asWord => "AS"
  | caseWord => "CASE"
  | whenWord => "WHEN"
  | thenWord => "THEN"
  | elseWord => "ELSE"
  | endWord => "END"
  | inWord => "IN"
  | existsWord => "EXISTS"
  | betweenWord => "BETWEEN"
  | like => "LIKE"
  | escape => "ESCAPE"
  | isNull => "IS NULL"
  | isNotNull => "IS NOT NULL"
  | cast => "CAST"
  | null => "NULL"

end Keyword

inductive Token where
  | keyword (k : Keyword)
  | operator (op : BinaryOp)
  | punct (c : Char)
  | space
  | newline
  | indent
  | ident (name : String)
  | table (schema : Option String) (name : String)
  | integer (n : Int64)
  | float (x : Float)
  | decimal (d : Decimal)
  | string (s : String)
  | bool (b : Bool)
  | date (d : Date)
  | timestamp (t : Timestamp)
  | predicate (holds : Bool)
  | type (t : CastType)
  | function (name : String)

namespace Token

def commaSeparated (items : List (List Token)) : List Token :=
  List.intercalate [punct ',', space] items

def ofValue : Value → Token
  | .null => keyword .null
  | .bool b => bool b
  | .int n => integer n
  | .float x => float x
  | .decimal d => decimal d
  | .text s => string s
  | .date d => date d
  | .timestamp t => timestamp t

end Token

end GridSql
