import GridSql.Sql.Token
import GridSql.Text.Blank
import GridSql.Text.Case

/-!
# Dialects

How each database engine spells what a statement needs: quoted names and texts,
constants, dates, types, functions and the row window.
-/

namespace GridSql

inductive Dialect where
  | duckDb
  | tSql
  | mySql
  | postgres
deriving DecidableEq, Repr, Inhabited

structure Spelling where
  name : String
  /-- The characters around a quoted name; the second one is doubled inside. -/
  nameQuotes : Char × Char := ('"', '"')
  /-- Whether a backslash has to be doubled in a text. -/
  backslashEscapes : Bool := false
  /-- Whether a text with other than ASCII characters is marked with an `N`. -/
  marksNational : Bool := false
  trueValue : String := "true"
  falseValue : String := "false"
  truePredicate : String := "TRUE"
  falsePredicate : String := "FALSE"
  /-- Whether date literals begin with the name of their type. -/
  typedDates : Bool := true
  decimalType : String := "DECIMAL(38, 10)"
  textType : String := "VARCHAR"
  dateType : String := "DATE"
  timestampType : String := "TIMESTAMP"
  /-- Own names for functions, by their common name in capitals. -/
  functionNames : List (String × String) := []
  supportsNullsOrder : Bool := true
  /-- Whether a window is `OFFSET … FETCH` and has to stand behind ORDER BY. -/
  fetchesAfterOrder : Bool := false

namespace Dialect

def all : List Dialect := [duckDb, tSql, mySql, postgres]

def spelling : Dialect → Spelling
  | duckDb =>
      { name := "duckdb"
        functionNames :=
          [("IFNULL", "COALESCE"), ("ISNULL", "COALESCE"), ("NVL", "COALESCE"),
            ("LEN", "LENGTH")] }
  | tSql =>
      { name := "tsql"
        nameQuotes := ('[', ']')
        marksNational := true
        trueValue := "1"
        falseValue := "0"
        truePredicate := "1 = 1"
        falsePredicate := "1 = 0"
        typedDates := false
        textType := "NVARCHAR(MAX)"
        timestampType := "DATETIME2"
        functionNames := [("LENGTH", "LEN"), ("IFNULL", "ISNULL"), ("NVL", "ISNULL")]
        supportsNullsOrder := false
        fetchesAfterOrder := true }
  | mySql =>
      { name := "mysql"
        nameQuotes := ('\x60', '\x60')
        backslashEscapes := true
        trueValue := "1"
        falseValue := "0"
        decimalType := "DECIMAL(65, 30)"
        textType := "CHAR"
        timestampType := "DATETIME"
        functionNames :=
          [("ISNULL", "IFNULL"), ("NVL", "IFNULL"), ("LEN", "CHAR_LENGTH"),
            ("LENGTH", "CHAR_LENGTH")]
        supportsNullsOrder := false }
  | postgres =>
      { name := "postgres"
        decimalType := "NUMERIC"
        functionNames :=
          [("IFNULL", "COALESCE"), ("ISNULL", "COALESCE"), ("NVL", "COALESCE"),
            ("LEN", "LENGTH")] }

def name (d : Dialect) : String := d.spelling.name

def synonyms : List (String × String) :=
  [("postgresql", "postgres"), ("pg", "postgres"), ("mssql", "tsql"), ("sqlserver", "tsql")]

def ofExactName? (s : String) : Option Dialect :=
  all.find? (·.name == s)

/-- The dialect with a name or synonym in any case between blanks. -/
def ofName? (s : String) : Option Dialect :=
  let wanted := Text.asciiLower (Text.trim s)
  ofExactName? ((synonyms.lookup wanted).getD wanted)

/-- What is said about a name that no engine has. -/
def unknownMessage (s : String) : String :=
  s!"unknown SQL dialect: {s}"

/-- Writes the character `closing` twice, and all else once. -/
def doubled (closing : Char) (cs : List Char) : List Char :=
  cs.flatMap fun c => if c = closing then [c, c] else [c]

def quoteName (d : Dialect) (name : String) : String :=
  let (opening, closing) := d.spelling.nameQuotes
  String.ofList (opening :: doubled closing name.toList ++ [closing])

def escapedText (d : Dialect) (cs : List Char) : List Char :=
  doubled '\'' (if d.spelling.backslashEscapes then doubled '\\' cs else cs)

def quoteText (d : Dialect) (s : String) : String :=
  let isAscii := s.toList.all (·.toNat < 0x80)
  let mark := if d.spelling.marksNational && !isAscii then ['N'] else []
  String.ofList (mark ++ '\'' :: d.escapedText s.toList ++ ['\''])

/-- A boolean as a value. -/
def boolValue (d : Dialect) (b : Bool) : String :=
  if b then d.spelling.trueValue else d.spelling.falseValue

/-- A boolean as a whole predicate. -/
def boolPredicate (d : Dialect) (b : Bool) : String :=
  if b then d.spelling.truePredicate else d.spelling.falsePredicate

def datedLiteral (d : Dialect) (type text : String) : String :=
  if d.spelling.typedDates then s!"{type} '{text}'" else s!"'{text}'"

def castType (d : Dialect) : CastType → String
  | .decimal => d.spelling.decimalType
  | .text => d.spelling.textType
  | .date => d.spelling.dateType
  | .timestamp => d.spelling.timestampType

def functionName? (d : Dialect) (common : String) : Option String :=
  d.spelling.functionNames.lookup common

/-- A row number of a window; what no engine can count is cut. -/
def windowBound (n : Nat) : Token :=
  .integer (Int64.ofNat (min n Int64.maxValue.toNatClampNeg))

def windowTokens (d : Dialect) (w : Window) : List Token :=
  let part (k : Keyword) (n : Nat) : List Token := [.keyword k, .space, windowBound n]
  if d.spelling.fetchesAfterOrder then
    part .offset (w.offset.getD 0) ++ [.space, .keyword .rows] ++
      match w.limit with
      | some n => .space :: part .fetchNext n ++ [.space, .keyword .rowsOnly]
      | none => []
  else
    match w.limit, w.offset with
    | some n, some m => part .limit n ++ .space :: part .offset m
    | some n, none => part .limit n
    | none, some m => part .offset m
    | none, none => []

end Dialect

namespace Token

def serialize (d : Dialect) : Token → String
  | keyword k => k.text
  | operator op => op.symbol
  | punct c => String.singleton c
  | space => " "
  | newline => "\n"
  | indent => "  "
  | ident name => d.quoteName name
  | table (some schema) name => d.quoteName schema ++ "." ++ d.quoteName name
  | table none name => d.quoteName name
  | integer n => toString n.toInt
  | float x =>
      if Binary64.isFinite x then Binary64.Layout.plain.text x else Keyword.null.text
  | decimal x => x.toText
  | string s => d.quoteText s
  | bool b => d.boolValue b
  | date x => d.datedLiteral "DATE" x.toText
  | timestamp t => d.datedLiteral "TIMESTAMP" (t.toText ' ')
  | predicate holds => d.boolPredicate holds
  | type t => d.castType t
  | function name =>
      let common := Text.asciiUpper name
      (d.functionName? common).getD common

def serializeAll (d : Dialect) (tokens : List Token) : String :=
  String.join (tokens.map (·.serialize d))

end Token

end GridSql
