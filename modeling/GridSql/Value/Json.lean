import GridSql.Json.Printer
import GridSql.Literal
import GridSql.Value.Basic

/-!
# Cell values and JSON

What a JSON scalar means as a value, how a value is sent to the grid, and how a
cell of a data file is read as its column's declared type.
-/

namespace GridSql.Value

/-- Integers of 64 bits stay integers; arrays and objects become their text. -/
def ofJson : Json → Value
  | .null => null
  | .bool b => bool b
  | .number n =>
      match n.toInt64? with
      | some i => int i
      | none => float n.toFloat
  | .string s => text s
  | j => text j.compact

/-- A double, or null where JSON has no number for it. -/
def floatJson (x : Float) : Json :=
  if Binary64.isFinite x then .number (.real x) else .null

/-- Whole decimals of 64 bits are sent as integers, dates in ISO form. -/
def toJson : Value → Json
  | null => .null
  | bool b => .bool b
  | int n => .ofInt n.toInt
  | float x => floatJson x
  | decimal d =>
      match d.toInt64? with
      | some n => .ofInt n.toInt
      | none => floatJson d.toFloat
  | text s => .string s
  | date d => .string d.toText
  | timestamp t => .string (t.toSeconds 'T')

/-- The text of a JSON value that is not a string is the value written compactly. -/
def jsonText : Json → String
  | .string s => s
  | j => j.compact

def ofCell (type : ScalarType) (j : Json) : Except LiteralError Value :=
  if j.isNull then .ok null
  else
    match type with
    | .integer =>
        match j.asInt64? with
        | some n => .ok (int n)
        | none => (Literal.decimal (jsonText j)).map decimal
    | .decimal => (Literal.decimal (jsonText j)).map decimal
    | .boolean =>
        match j with
        | .bool b => .ok (bool b)
        | _ => (Literal.boolean (jsonText j)).map bool
    | .date => (Literal.timestamp (jsonText j)).map fun t => date t.date
    | .timestamp => (Literal.timestamp (jsonText j)).map timestamp
    | .text => .ok (text (jsonText j))
    | .other => .ok (ofJson j)

end GridSql.Value
