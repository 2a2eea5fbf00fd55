import GridSql.Value.Basic

/-!
# Expressions and queries

The tree of a SELECT statement over one table, and the short names that
predicates and select lists are built with.
-/

namespace GridSql

inductive BinaryOp where
  | eq
  | ne
  | lt
  | gt
  | le
  | ge
  | and
  | or
  | add
  | sub
  | mul
  | div
deriving DecidableEq, Repr

namespace BinaryOp

def all : List BinaryOp :=
  [eq, ne, lt, gt, le, ge, and, or, add, sub, mul, div]

def symbol : BinaryOp → String
  | eq => "="
  | ne => "<>"
  | lt => "<"
  | gt => ">"
  | le => "<="
  | ge => ">="
  | and => "AND"
  | or => "OR"
  | add => "+"
  | sub => "-"
  | mul => "*"
  | div => "/"

/-- Whether the operator joins predicates. -/
def isLogical : BinaryOp → Bool
  | and | or => true
  | _ => false

end BinaryOp

inductive UnaryOp where
  | not
  | minus
deriving DecidableEq, Repr

inductive CastType where
  | decimal
  | text
  | date
  | timestamp
deriving DecidableEq, Repr

inductive SortDirection where
  | asc
  | desc
deriving DecidableEq, Repr, Inhabited

inductive NullsOrder where
  | first
  | last
deriving DecidableEq, Repr

/-- The table of a query, with the schema it is in and a name for its rows. -/
structure TableRef where
  schema : Option String := none
  table : String
  asName : Option String := none
deriving DecidableEq, Repr, Inhabited

/-- The rows that are returned: skip `offset`, then take `limit`. -/
structure Window where
  limit : Option Nat := none
  offset : Option Nat := none
deriving DecidableEq, Repr, Inhabited

mutual

inductive Expr where
  | column (table : Option String) (name : String)
  | literal (value : Value)
  /-- A predicate that always or never holds. -/
  | truth (holds : Bool)
  | binary (op : BinaryOp) (left right : Expr)
  | unary (op : UnaryOp) (operand : Expr)
  | call (function : String) (args : List Expr) (distinct : Bool)
  /-- Without a subject the branches are tested, with one they are compared. -/
  | choice (subject : Option Expr) (branches : List (Expr × Expr)) (otherwise : Option Expr)
  | cast (operand : Expr) (type : CastType)
  | inList (subject : Expr) (candidates : List Expr) (negated : Bool)
  | inQuery (subject : Expr) (query : Query) (negated : Bool)
  /-- Columns with the name of an enclosing query read that query's row. -/
  | existsIn (query : Query) (negated : Bool)
  | between (subject low high : Expr) (negated : Bool)
  | isNull (subject : Expr) (negated : Bool)
  | like (subject pattern : Expr) (escape : Char) (negated : Bool)
  | star (table : Option String)
  | paren (inner : Expr)

structure SelectItem where
  expr : Expr
  asName : Option String

structure OrderKey where
  expr : Expr
  direction : Option SortDirection
  nulls : Option NullsOrder

structure Query where
  select : List SelectItem
  distinct : Bool
  source : Option TableRef
  filter : Option Expr
  groupBy : List Expr
  having : Option Expr
  orderBy : List OrderKey
  window : Option Window

end

instance : Inhabited Expr := ⟨.truth true⟩

instance : Inhabited Query := ⟨⟨[], false, none, none, [], none, [], none⟩⟩

namespace TableRef

/-- Splits `schema.table` at the last point; a name without one has no schema. -/
def parse (name : String) : TableRef :=
  let cs := name.toList
  if cs.contains '.' then
    let table := (cs.reverse.takeWhile (· ≠ '.')).reverse
    { schema := some (String.ofList (cs.take (cs.length - table.length - 1)))
      table := String.ofList table }
  else
    { table := name }

def referenceName (t : TableRef) : String :=
  t.asName.getD t.table

end TableRef

namespace Expr

def col (name : String) : Expr := column none name

def ofText (s : String) : Expr := literal (.text s)

def ofInt (n : Int64) : Expr := literal (.int n)

def null : Expr := literal .null

def columnName? : Expr → Option String
  | column _ name => some name
  | _ => none

def fn (name : String) (args : List Expr) : Expr :=
  call name args false

def count (e : Expr) : Expr := fn "COUNT" [e]

def countRows : Expr := count (star none)

def countDistinct (e : Expr) : Expr := call "COUNT" [e] true

def eq (l r : Expr) : Expr := binary .eq l r

def and (l r : Expr) : Expr := binary .and l r

def or (l r : Expr) : Expr := binary .or l r

def not (e : Expr) : Expr := unary .not e

/-- Joins predicates from the left; `empty` is the join of none. -/
def joinAll (op : BinaryOp) (empty : Bool) : List Expr → Expr
  | [] => truth empty
  | first :: rest => rest.foldl (binary op) first

/-- All of the predicates; of none, it always holds. -/
def conjunction (es : List Expr) : Expr := joinAll .and true es

/-- At least one of the predicates; of none, it never holds. -/
def disjunction (es : List Expr) : Expr := joinAll .or false es

/-- `CASE WHEN condition THEN result END`. -/
def caseWhen (condition result : Expr) : Expr :=
  choice none [(condition, result)] none

end Expr

namespace OrderKey

/-- A key without a wish for its nulls. -/
def directed (direction : SortDirection) (e : Expr) : OrderKey :=
  ⟨e, some direction, none⟩

end OrderKey

namespace Query

def empty : Query := default

def andInto (clause : Option Expr) (predicate : Expr) : Option Expr :=
  match clause with
  | some existing => some (existing.and predicate)
  | none => some predicate

def withSelect (q : Query) (items : List SelectItem) : Query := { q with select := items }

def withDistinct (q : Query) : Query := { q with distinct := true }

def withSource (q : Query) (t : TableRef) : Query := { q with source := some t }

def where_ (q : Query) (predicate : Expr) : Query :=
  { q with filter := andInto q.filter predicate }

def withGroupBy (q : Query) (keys : List Expr) : Query := { q with groupBy := keys }

def andHaving (q : Query) (predicate : Expr) : Query :=
  { q with having := andInto q.having predicate }

def withOrderBy (q : Query) (keys : List OrderKey) : Query := { q with orderBy := keys }

def withLimit (q : Query) (n : Nat) : Query :=
  { q with window := some { q.window.getD {} with limit := some n } }

def withOffset (q : Query) (n : Nat) : Query :=
  { q with window := some { q.window.getD {} with offset := some n } }

end Query

end GridSql
