import GridSql.Grid.Basic

/-!
# Validation

Every violation of a request, in the order of its members. A function that is not
registered is no violation: it ends validation at once.
-/

namespace GridSql.Grid

def columnViolation (path message name : String) : Violation :=
  { field := path, message, rejected := some (.string name) }

def columnUse (g : Grid) (path : String) (c : ColumnRef) (isEnabled : ColumnDef → Bool) :
    List Violation :=
  match g.columns.get? c.field with
  | some d =>
      if isEnabled d then [] else [columnViolation path "is not enabled for this use" c.field]
  | none =>
      if g.columns.knows c.field then [] else [columnViolation path "unknown column" c.field]

def columnUses (g : Grid) (list : String) (isEnabled : ColumnDef → Bool)
    (cols : List ColumnRef) : List Violation :=
  cols.zipIdx.flatMap fun (c, i) => g.columnUse s!"{list}[{i}]" c isEnabled

def aggregateUse (g : Grid) (path : String) (c : ColumnRef) : List Violation :=
  match c.aggFunc with
  | none => [{ field := path, message := "is required for value columns" }]
  | some name =>
      match g.columns.get? c.field with
      | some d =>
          if d.allowsAggregate name then []
          else [columnViolation path "aggregate function is not allowed for this column" name]
      | none => []

def valueUses (g : Grid) (cols : List ColumnRef) : List Violation :=
  cols.zipIdx.flatMap fun (c, i) =>
    let path := s!"valueCols[{i}]"
    g.columnUse path c (·.enableValue) ++ g.aggregateUse s!"{path}.aggFunc" c

def sortUse (g : Grid) (r : Request) (path : String) (s : SortItem) : List Violation :=
  if isAutoGroupColumn s.colId || g.namesPivotColumn r s.colId then []
  else
    match g.columns.get? s.colId with
    | some d =>
        if d.sortable then [] else [columnViolation path "column is not sortable" s.colId]
    | none =>
        if g.columns.knows s.colId then [] else [columnViolation path "unknown column" s.colId]

def sortUses (g : Grid) (r : Request) : List Violation :=
  r.sortModel.zipIdx.flatMap fun (s, i) => g.sortUse r s!"sortModel[{i}].colId" s

def windowFaults (r : Request) : List Violation :=
  (if r.rowGroupCols.length < r.groupKeys.length then
    [{ field := "groupKeys", message := "has more keys than rowGroupCols"
       rejected := some (.array r.groupKeys) }]
  else []) ++
  (if r.endRow < r.startRow then
    [{ field := "endRow", message := "must not be less than startRow"
       rejected := some (.ofNat r.endRow) }]
  else [])

def filterUse (g : Grid) (r : Request) (field : String) : List Violation :=
  let path := s!"filterModel.{field}"
  if g.namesPivotColumn r field then []
  else if !g.columns.knows field then [{ field := path, message := "unknown column" }]
  else if g.columns.disablesFilter field then
    [{ field := path, message := "filtering is disabled for this column" }]
  else []

/-- What is wrong with the columns that the filter model names, or with its form. -/
def filterUses (g : Grid) (r : Request) : List Violation :=
  match r.filterModel with
  | some (.object payload) =>
      if Recognizers.isColumnKeyed payload then payload.flatMap fun (id, _) => g.filterUse r id
      else if g.settings.grid.enableAdvancedFilter then []
      else [{ field := "filterModel", message := "advanced filtering is disabled" }]
  | _ => []

def violations (g : Grid) (r : Request) : List Violation :=
  g.columnUses "rowGroupCols" (·.enableRowGroup) r.rowGroupCols ++
    g.valueUses r.valueCols ++
    g.columnUses "pivotCols" (·.enablePivot) r.pivotCols ++
    g.sortUses r ++ windowFaults r ++ g.filterUses r

def unknownAggregate? (g : Grid) (r : Request) : Option String :=
  (r.valueCols.filterMap (·.aggFunc)).find? fun name => !g.aggregates.contains name

def validate (g : Grid) (r : Request) : Except QueryError Unit :=
  match g.unknownAggregate? r with
  | some name => .error (.unrecognized "aggregate function" name)
  | none => Violations.finish (g.violations r) ()

end GridSql.Grid
