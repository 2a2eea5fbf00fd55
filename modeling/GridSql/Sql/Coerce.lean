import GridSql.Literal
import GridSql.Sql.Expr

/-!
# Coercion of literals

Before a literal is compared with a column it is converted to the column's type,
and a numeric column is widened, so that both sides are of one kind. Doing it
twice changes nothing.
-/

namespace GridSql

namespace Expr

def widen : Expr → Expr
  | cast e .decimal => cast e .decimal
  | e => cast e .decimal

end Expr

namespace Value

def toNumber : Value → Except LiteralError Decimal
  | text s => Literal.decimal s
  | v =>
      match v.asDecimal? with
      | some d => .ok d
      | none => .error (.number v.display)

def toTimestamp : Value → Except LiteralError Timestamp
  | timestamp t => .ok t
  | date d => .ok (Timestamp.atMidnight d)
  | text s => Literal.timestamp s
  | v => .error (.date v.display)

def toBoolean : Value → Except LiteralError Bool
  | bool b => .ok b
  | text s => Literal.boolean s
  | v => .error (.boolean v.display)

/-- A literal as a value of a column type; null has every type. -/
def coerce (type : ScalarType) (v : Value) : Except LiteralError Value :=
  if v.isNull then .ok v
  else
    match type with
    | .integer | .decimal => v.toNumber.map decimal
    | .date => v.toTimestamp.map fun t => date t.date
    | .timestamp => v.toTimestamp.map timestamp
    | .boolean => v.toBoolean.map bool
    | .text => .ok (text v.display)
    | .other => .ok v

end Value

/-- An expression and a literal that can be compared with it. -/
structure Comparable where
  expr : Expr
  value : Value

/-- Makes a column of the given type and a literal comparable. -/
def synchronize (e : Expr) (type : ScalarType) (v : Value) :
    Except LiteralError Comparable :=
  (v.coerce type).map fun value =>
    { expr := if type.isNumeric && !v.isNull then e.widen else e, value }

end GridSql
