import GridSql.Grid.Validate

/-!
# Filters of a request

The predicates that the rows of the requested level have to pass. Violations of
the request and of its filters are reported together.
-/

namespace GridSql

namespace Violations

/-- Takes over the results of a list of steps, and keeps their values. -/
def takeAll {α β : Type} (step : α → Except QueryError β) (vs : Violations) :
    List α → Except QueryError (List β × Violations)
  | [] => .ok ([], vs)
  | a :: rest => do
      let (b, vs) ← take vs (step a)
      let (bs, vs) ← takeAll step vs rest
      .ok (b.toList ++ bs, vs)

end Violations

abbrev ColumnFilters := List (String × ColumnFilter)

/-- How the filter model applies to the requested level. -/
inductive LevelFiltering where
  /-- Every filter restricts the rows. -/
  | direct
  /-- Only the expanded groups restrict the rows. -/
  | suppressed
  /-- Filters of value columns keep the groups in which something passes. -/
  | aggregated (entries : ColumnFilters)

structure LevelFilters where
  rows : List Expr
  /-- Filters of generated columns, which are known later. -/
  pivots : ColumnFilters := []

namespace Grid

def levelFiltering (g : Grid) (r : Request) (model : Option FilterModel) : LevelFiltering :=
  let usual : LevelFiltering :=
    if g.settings.grid.suppressesGroupFilters then .suppressed else .direct
  if !r.isGrouping || r.isPivoting then .direct
  else
    match model with
    | some (.columns entries) =>
        let filtersValues := entries.any fun (id, _) => r.valueCols.any (·.field = id)
        if g.settings.grid.filterAggregates && filtersValues then .aggregated entries
        else usual
    | _ => usual

/-- Whether a row is in the group of the outer query's row; blanks are a group. -/
def sameGroup (table field : String) : Expr :=
  let own := Expr.col field
  let outer := Expr.column (some table) field
  (own.eq outer).or ((Expr.isNull own false).and (.isNull outer false))

/-- The rows that share the first `depth` groups with the outer query's row. -/
def correlated (g : Grid) (r : Request) (asName : String) (depth : Nat) : Query :=
  let rows := (Query.empty.withSelect [⟨.ofInt 1, none⟩]).withSource
    { g.table with asName := some asName }
  (r.rowGroupCols.take depth).foldl
    (fun q c => q.where_ (sameGroup g.table.table c.field)) rows

def valueFilters (r : Request) (entries : ColumnFilters) : List (ColumnRef × ColumnFilter) :=
  r.valueCols.filterMap fun c => (entries.find? (·.1 = c.field)).map fun (_, f) => (c, f)

def leafPasses (g : Grid) (r : Request) (filters : List (ColumnRef × ColumnFilter)) :
    Except QueryError Expr := do
  let (predicates, vs) ← Violations.takeAll
    (fun (c, f) => g.filterContext.compileColumn c.field f) [] filters
  let leaves := predicates.foldl Query.where_ (g.correlated r "leaf" (r.groupKeys.length + 1))
  Violations.finish vs (.existsIn leaves false)

def aggregatePredicate (g : Grid) (c : ColumnRef) (f : ColumnFilter) :
    Except QueryError Expr := do
  let e ← g.aggregates.aggregate c
  f.compile { g.filterContext.columnTarget c.field with expr := e } (g.columns.rulesFor c.field)

def groupPasses (g : Grid) (r : Request) (filters : List (ColumnRef × ColumnFilter))
    (depth : Nat) : Except QueryError Expr := do
  let predicates ← filters.mapM fun (c, f) => g.aggregatePredicate c f
  let keys := (r.rowGroupCols.take depth).map fun c => Expr.col c.field
  let groups := (g.correlated r "grp" depth).withGroupBy keys
  .ok (.existsIn (predicates.foldl Query.andHaving groups) false)

/--
Whether a row belongs to a group that passes: a leaf of its group does, or the
aggregates of a group that it is in at any depth do.
-/
def groupAggregatePredicate (g : Grid) (r : Request) (entries : ColumnFilters) :
    Except QueryError Expr := do
  let filters := valueFilters r entries
  let leaf ← g.leafPasses r filters
  let groups ← (List.range r.rowGroupCols.length).mapM fun i => g.groupPasses r filters (i + 1)
  .ok (Expr.disjunction (leaf :: groups))

def quickColumns (g : Grid) : List Column :=
  let column (field : String) : Column := ⟨field, g.source.fieldType field⟩
  match g.quickFilter.fields with
  | some fields => fields.map column
  | none => (g.columns.fields.map column).filter (·.type = .text)

/-- The predicates of the external filter and of the quick filter. -/
def freePredicates (g : Grid) (r : Request) : List Expr :=
  let external := do
    let hook ← g.externalFilter
    let payload ← r.externalFilter
    if payload.isNull then none else hook payload
  let quick := r.quickFilter.bind fun s => g.quickFilter.predicate s g.quickColumns
  external.toList ++ quick.toList

def filterModel (g : Grid) (r : Request) : Except QueryError (Option FilterModel) :=
  match r.filterModel with
  | some payload =>
      if r.hasFilterModel then (g.recognizers.recognize payload).map some else .ok none
  | none => .ok none

/-- The filters of a model that restrict the rows, added to the predicates before them. -/
def directFilters (g : Grid) (r : Request) (before : List Expr) (vs : Violations) :
    Option FilterModel → Except QueryError LevelFilters
  | none => Violations.finish vs { rows := before }
  | some (.advanced filter) => do
      let (predicate, vs) ← Violations.take vs (g.filterContext.compileAdvanced filter)
      Violations.finish vs { rows := before ++ predicate.toList }
  | some (.columns entries) => do
      let (pivots, own) := entries.partition fun (id, _) => g.namesPivotColumn r id
      let (predicates, vs) ← Violations.takeAll
        (fun (id, f) => g.filterContext.compileColumn id f) vs own
      Violations.finish vs { rows := before ++ predicates, pivots }

def levelFilters (g : Grid) (r : Request) : Except QueryError LevelFilters := do
  let (_, vs) ← Violations.take [] (g.validate r)
  let (model, vs) ← Violations.take vs (g.filterModel r)
  let (keys, vs) ← Violations.take vs (groupKeyPredicates r g.source.fieldType)
  let groups := keys.getD []
  match g.levelFiltering r model.join with
  | .suppressed => Violations.finish vs { rows := groups }
  | .aggregated entries =>
      if vs.isEmpty then do
        let predicate ← g.groupAggregatePredicate r entries
        .ok { rows := groups ++ [predicate] }
      else
        Violations.finish vs { rows := groups }
  | .direct => g.directFilters r (groups ++ g.freePredicates r) vs model.join

end Grid

end GridSql
