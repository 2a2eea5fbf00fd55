import GridSql.Json.Record
import GridSql.Sql.Expr

/-!
# Requests of the grid

One block of rows that the grid asks for: the window, the row groups with the keys
of the expanded ones, values, pivots, filters and sorting.
-/

namespace GridSql

/-- A column that a request groups, aggregates or pivots by. -/
structure ColumnRef where
  id : String := ""
  displayName : String := ""
  field : String
  /-- The aggregate function of a value column. -/
  aggFunc : Option String := none
deriving DecidableEq, Repr

structure SortItem where
  colId : String
  direction : SortDirection
deriving DecidableEq, Repr

/-- A request for the rows from `startRow` up to `endRow`. -/
structure Request where
  startRow : Nat := 0
  endRow : Nat := 0
  rowGroupCols : List ColumnRef := []
  valueCols : List ColumnRef := []
  pivotCols : List ColumnRef := []
  pivotMode : Bool := false
  /-- One key for each expanded level; null is the blank group. -/
  groupKeys : List Json := []
  filterModel : Option Json := none
  sortModel : List SortItem := []
  quickFilter : Option String := none
  externalFilter : Option Json := none
deriving Inhabited

namespace Request

/-- Whether there are row groups that are not expanded. -/
def isGrouping (r : Request) : Bool :=
  r.groupKeys.length < r.rowGroupCols.length

def isPivoting (r : Request) : Bool :=
  r.pivotMode && !r.pivotCols.isEmpty

def activeGroupCols (r : Request) : List ColumnRef :=
  r.rowGroupCols.take (r.groupKeys.length + 1)

def pageSize (r : Request) : Nat :=
  r.endRow - r.startRow

/-- Whether there is a filter model that is neither null nor an empty object. -/
def hasFilterModel (r : Request) : Bool :=
  match r.filterModel with
  | none | some .null => false
  | some (.object members) => !members.isEmpty
  | some _ => true

end Request

namespace ColumnRef

def ofJson? (j : Json) : Option ColumnRef := do
  let r ← Json.Record.read? ["id", "displayName", "field", "aggFunc"] j
  let id ← r.withDefault "id" "" Json.asString?
  let displayName ← r.withDefault "displayName" "" Json.asString?
  let field ← r.required "field" Json.asString?
  let aggFunc ← r.nullable "aggFunc" Json.asString?
  return { id := id, displayName, field, aggFunc }

def toJson (c : ColumnRef) : Json :=
  .object ([("id", .string c.id), ("displayName", .string c.displayName),
    ("field", .string c.field)] ++ (c.aggFunc.map fun f => ("aggFunc", .string f)).toList)

end ColumnRef

namespace SortItem

def directionOfName? : String → Option SortDirection
  | "asc" => some .asc
  | "desc" => some .desc
  | _ => none

def ofJson? (j : Json) : Option SortItem := do
  let r ← Json.Record.read? ["colId", "sort"] j
  let colId ← r.required "colId" Json.asString?
  let direction ← r.required "sort" fun j => j.word?.bind directionOfName?
  return { colId, direction }

def toJson (s : SortItem) : Json :=
  .object [("colId", .string s.colId),
    ("sort", .string (match s.direction with | .asc => "asc" | .desc => "desc"))]

end SortItem

namespace Request

/-- The names of the members, in the order of a request that is written as an array. -/
def memberNames : List String :=
  ["startRow", "endRow", "rowGroupCols", "valueCols", "pivotCols", "pivotMode", "groupKeys",
    "filterModel", "sortModel", "quickFilter", "externalFilter"]

/-- The request that a JSON value stands for; members that are missing have defaults. -/
def ofJson? (j : Json) : Option Request := do
  let r ← Json.Record.read? memberNames j
  let columns (name : String) : Option (List ColumnRef) :=
    r.withDefault name [] (Json.list? ColumnRef.ofJson?)
  let anyJson (j : Json) : Option Json := some j.normalize
  let startRow ← r.withDefault "startRow" 0 Json.asNat?
  let endRow ← r.withDefault "endRow" 0 Json.asNat?
  let rowGroupCols ← columns "rowGroupCols"
  let valueCols ← columns "valueCols"
  let pivotCols ← columns "pivotCols"
  let pivotMode ← r.withDefault "pivotMode" false Json.asBool?
  let groupKeys ← r.withDefault "groupKeys" [] (Json.list? anyJson)
  let filterModel ← r.nullable "filterModel" anyJson
  let sortModel ← r.withDefault "sortModel" [] (Json.list? SortItem.ofJson?)
  let quickFilter ← r.nullable "quickFilter" Json.asString?
  let externalFilter ← r.nullable "externalFilter" anyJson
  return {
    startRow := startRow
    endRow, rowGroupCols, valueCols, pivotCols, pivotMode, groupKeys
    filterModel, sortModel, quickFilter, externalFilter }

/-- The JSON form of a request; optional members are left out where there is none. -/
def toJson (r : Request) : Json :=
  let optional (name : String) (j : Option Json) : List (String × Json) :=
    (j.map fun j => (name, j)).toList
  .object ([("startRow", .ofNat r.startRow), ("endRow", .ofNat r.endRow),
    ("rowGroupCols", .array (r.rowGroupCols.map (·.toJson))),
    ("valueCols", .array (r.valueCols.map (·.toJson))),
    ("pivotCols", .array (r.pivotCols.map (·.toJson))),
    ("pivotMode", .bool r.pivotMode), ("groupKeys", .array r.groupKeys)] ++
    optional "filterModel" r.filterModel ++
    [("sortModel", .array (r.sortModel.map (·.toJson)))] ++
    optional "quickFilter" (r.quickFilter.map .string) ++
    optional "externalFilter" r.externalFilter)

end Request

end GridSql
