import GridSql.Table.Error
import GridSql.Value.Json

/-!
# Tables

A table has a name, typed columns and rows. Where two columns have one name, the
last one counts. A data file is a JSON object with the name, the columns and
rows that are objects; a cell that is missing is null.
-/

namespace GridSql

structure Column where
  name : String
  type : ScalarType
deriving DecidableEq, Repr, Inhabited

abbrev Row := List (String × Value)

namespace Row

/-- The cell of a column; the last one of its name counts. -/
def get? (name : String) : Row → Option Value
  | [] => none
  | (column, value) :: rest =>
      match get? name rest with
      | some found => some found
      | none => if column = name then some value else none

/-- The cell of a column, null if there is none. -/
def cell (row : Row) (name : String) : Value :=
  (row.get? name).getD .null

end Row

structure Table where
  name : String
  columns : List Column
  rows : List Row
deriving Inhabited

namespace Table

def empty (name : String) (columns : List Column) : Table :=
  ⟨name, columns, []⟩

def typeOf? (t : Table) (field : String) : Option ScalarType :=
  (t.columns.reverse.find? (·.name = field)).map (·.type)

/-- The declared type of a column; of an unknown one, nothing is known. -/
def fieldType (t : Table) (field : String) : ScalarType :=
  (t.typeOf? field).getD .other

/-- Adds a row that is given in the order of the columns. -/
def push (t : Table) (values : List Value) : Except SourceError Table :=
  if values.length = t.columns.length then
    .ok { t with rows := t.rows ++ [(t.columns.map (·.name)).zip values] }
  else
    .error (.invalidData (.rowWidth t.columns.length values.length))

def pushAll (t : Table) (rows : List (List Value)) : Except SourceError Table :=
  rows.foldlM push t

/-- Sorts values; those that have no order keep their places. -/
def sortValues (values : List Value) : List Value :=
  values.mergeSort fun v w => (v.order? w).getD .eq != .gt

/-- Drops every value that is the same as the one that was kept before it. -/
def dropRepeats : List Value → List Value
  | [] => []
  | v :: rest => v :: after v rest
where
  after (kept : Value) : List Value → List Value
    | [] => []
    | v :: rest => if kept.same v then after kept rest else v :: after v rest

/-- The different cells of a column in ascending order. -/
def distinctValues (t : Table) (field : String) : Except SourceError (List Value) :=
  if (t.typeOf? field).isSome then
    .ok (dropRepeats (sortValues (t.rows.map (·.cell field))))
  else
    .error (.unknownColumn field)

/-- The cells that a record of a data file has in the columns of a table. -/
def readRow (columns : List Column) (index : Nat) (record : List (String × Json)) :
    Except SourceError Row :=
  columns.mapM fun c =>
    match Value.ofCell c.type ((Json.lookup c.name record).getD .null) with
    | .ok v => .ok (c.name, v)
    | .error e => .error (.invalidData (.cell index c.name e))

def readRows (columns : List Column) :
    Nat → List (List (String × Json)) → Except SourceError (List Row)
  | _, [] => .ok []
  | index, record :: rest => do
      let row ← readRow columns index record
      let rows ← readRows columns (index + 1) rest
      .ok (row :: rows)

end Table

end GridSql
