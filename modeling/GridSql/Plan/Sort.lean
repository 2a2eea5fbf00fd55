import GridSql.Plan.Pivot
import GridSql.Text.Case

/-!
# Sorting

The sort keys of a request. A level of groups is sorted by its group columns
first, then by its value or pivot columns; within each part the order of the
request is kept.
-/

namespace GridSql

/-- The id of the column that the grid makes for row groups. -/
def autoGroupColumn : String := "ag-Grid-AutoColumn"

def isAutoGroupColumn (id : String) : Bool :=
  Text.eqIgnoringCase id autoGroupColumn

namespace SortItem

def key (s : SortItem) (e : Expr) : OrderKey :=
  .directed s.direction e

end SortItem

def selectedValue? (r : Request) (select : List SelectItem) (field : String) : Option Expr :=
  if r.valueCols.any (·.field = field) then
    (select.find? (·.asName = some field)).map (·.expr)
  else
    none

def planOrderBy (r : Request) (select : List SelectItem) (pivot : PivotContext) :
    List OrderKey :=
  let items := r.sortModel.filter fun s => !isAutoGroupColumn s.colId
  if !r.isPivoting && !r.isGrouping then
    items.map fun s => s.key (.col s.colId)
  else
    let groups := items.filter fun s => r.activeGroupCols.any (·.field = s.colId)
    let values := items.filterMap fun s =>
      let e := if r.isPivoting then pivot.expression? s.colId else selectedValue? r select s.colId
      e.map s.key
    groups.map (fun s => s.key (.col s.colId)) ++ values

end GridSql
