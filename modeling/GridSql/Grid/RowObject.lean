import GridSql.Table.Run
import GridSql.Value.Json

/-!
# Row objects

The JSON objects that result rows are sent as. A column name with points in it may
become a path of nested objects.
-/

namespace GridSql

abbrev RowObject := List (String × Json)

namespace RowObject

/-- Splits at every point. -/
def splitPath : List Char → List (List Char)
  | [] => [[]]
  | c :: cs =>
      if c = '.' then [] :: splitPath cs
      else
        match splitPath cs with
        | [] => [[c]]
        | part :: parts => (c :: part) :: parts

/-- The parts of a column name between its points. -/
def path (name : String) : List String :=
  (splitPath name.toList).map String.ofList

/-- Puts a value at a path; what is in the way and is no object gives way. -/
def put (value : Json) : List String → RowObject → RowObject
  | [], row => row
  | [name], row => Json.insert name value row
  | name :: rest, row =>
      let inner := match Json.lookup name row with
        | some (.object members) => members
        | _ => []
      Json.insert name (.object (put value rest inner)) row

def putCell (nested : Bool) (row : RowObject) (name : String) (v : Value) : RowObject :=
  put v.toJson (if nested then path name else [name]) row

def ofCells (nested : Bool) (cells : List (String × Value)) : RowObject :=
  cells.foldl (fun row (name, v) => putCell nested row name v) []

end RowObject

namespace ResultSet

def rowObjects (r : ResultSet) (nested : Bool) : List RowObject :=
  r.rows.map fun cells => RowObject.ofCells nested (r.columns.zip cells)

end ResultSet

end GridSql
