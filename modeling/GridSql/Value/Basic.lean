import GridSql.Binary64.Text
import GridSql.Calendar.Timestamp
import GridSql.Decimal.Float

/-!
# Cell values

The scalar values of cells and literals, the order in which cells are sorted and
the texts that they are shown with.
-/

namespace GridSql

inductive ScalarType where
  | text
  | integer
  | decimal
  | boolean
  | date
  | timestamp
  | other
deriving DecidableEq, Repr, Inhabited

namespace ScalarType

def all : List ScalarType :=
  [text, integer, decimal, boolean, date, timestamp, other]

def name : ScalarType → String
  | text => "text"
  | integer => "integer"
  | decimal => "decimal"
  | boolean => "boolean"
  | date => "date"
  | timestamp => "timestamp"
  | other => "other"

def ofName? (s : String) : Option ScalarType :=
  all.find? (·.name == s)

def isNumeric : ScalarType → Bool
  | integer | decimal => true
  | _ => false

def isTemporal : ScalarType → Bool
  | date | timestamp => true
  | _ => false

end ScalarType

inductive Value where
  | null
  | bool (b : Bool)
  | int (n : Int64)
  | float (x : Float)
  | decimal (d : Decimal)
  | text (s : String)
  | date (d : Date)
  | timestamp (t : Timestamp)
deriving BEq, Inhabited

namespace Value

def isNull : Value → Bool
  | null => true
  | _ => false

def scalarType : Value → ScalarType
  | null => .other
  | bool _ => .boolean
  | int _ => .integer
  | float _ | decimal _ => .decimal
  | text _ => .text
  | date _ => .date
  | timestamp _ => .timestamp

def asDecimal? : Value → Option Decimal
  | int n => some (Decimal.ofInt64 n)
  | float x => Decimal.ofFloat? x
  | decimal d => some d
  | _ => none

def asText? : Value → Option String
  | text s => some s
  | _ => none

/-- The order of two doubles, none if one is a NaN. -/
def compareFloat (x y : Float) : Option Ordering :=
  if x < y then some .lt
  else if x == y then some .eq
  else if y < x then some .gt
  else none

def compareNumeric (v w : Value) : Option Ordering :=
  match v.asDecimal?, w.asDecimal? with
  | some x, some y => some (compare x y)
  | _, _ => none

/--
The order of cells: null comes first, numbers compare across representations, a
date stands for its midnight, and values of different kinds have no order.
-/
def order? : Value → Value → Option Ordering
  | null, null => some .eq
  | null, _ => some .lt
  | _, null => some .gt
  | bool a, bool b => some (compare a b)
  | text a, text b => some (compare a b)
  | date a, date b => some (compare a b)
  | timestamp a, timestamp b => some (compare a b)
  | date a, timestamp b => some (compare (Timestamp.atMidnight a) b)
  | timestamp a, date b => some (compare a (Timestamp.atMidnight b))
  | float a, float b => compareFloat a b
  | v, w => compareNumeric v w

/-- Whether two values are the same cell for grouping and matching. -/
def same (v w : Value) : Bool :=
  v.order? w == some .eq

def display : Value → String
  | null => "NULL"
  | bool b => if b then "true" else "false"
  | int n => toString n.toInt
  | float x => Binary64.Layout.plain.text x
  | decimal d => d.toText
  | text s => s
  | date d => d.toText
  | timestamp t => t.toSeconds ' '

/-- The text that a value adds to the name of a generated column. -/
def namePart : Value → String
  | null => "null"
  | timestamp t => t.date.toText
  | v => v.display

end Value

end GridSql
