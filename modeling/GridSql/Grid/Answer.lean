import GridSql.Grid.Compile
import GridSql.Grid.RowObject

/-!
# Answers to requests

The rows of a request's window, the number of rows or groups behind it, and the
values that the set filter of a column offers.
-/

namespace GridSql

structure RowBlock where
  rows : List RowObject
  /-- The number of all rows, once it is known. -/
  rowCount : Option Nat
  /-- The names of the generated columns of a request that pivots. -/
  pivotFields : Option (List String)

namespace RowBlock

/-- The JSON form; members that have no value are left out. -/
def toJson (b : RowBlock) : Json :=
  .object ([("rowData", .array (b.rows.map .object))] ++
    (b.rowCount.map fun n => ("rowCount", .ofNat n)).toList ++
    (b.pivotFields.map fun names => ("pivotResultFields", .ofStrings names)).toList)

end RowBlock

namespace Grid

/-- The largest number of rows that is told. -/
def rowCountLimit : Nat := twoTo 64 - 1

/-- The number of all rows, if a window that is not full shows where they end. -/
def rowCount? (r : Request) (fetched : Nat) : Option Nat :=
  if r.pageSize = 0 ∨ fetched < r.pageSize then some (min (r.startRow + fetched) rowCountLimit)
  else none

def rows (g : Grid) (r : Request) : Except QueryError RowBlock := do
  let (q, pivot) ← g.query r
  let result ← (g.source.run q).mapError .source
  let objects := result.rowObjects (!g.settings.grid.suppressDotNotation)
  .ok {
    rows := objects
    rowCount := rowCount? r objects.length
    pivotFields := if r.isPivoting then some pivot.resultFields else none }

/-- The number of rows or groups that a request selects, regardless of its window. -/
def count (g : Grid) (r : Request) : Except QueryError Nat := do
  let p ← g.plan r
  (g.source.count (g.countQuery r p)).mapError .source

/-- The values that the set filter of a column offers, in ascending order. -/
def filterValues (g : Grid) (field : String) : Except QueryError (List Value) :=
  if !g.columns.knows field then .error (.single field "unknown column")
  else if g.columns.disablesFilter field then
    .error (.single field "filtering is disabled for this column")
  else (g.source.distinctValues field).mapError .source

end Grid

end GridSql
