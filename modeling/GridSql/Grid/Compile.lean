import GridSql.Grid.Filters

/-!
# Queries of requests

A request becomes one query: the pivot columns are looked up, the select list and
the grouping are planned, and the filters are put in front of or behind the
grouping.
-/

namespace GridSql

/-- The clauses of a request's query without sorting and window. -/
structure RequestPlan where
  select : List SelectItem
  groupBy : List Expr
  rows : List Expr
  having : List Expr
  pivot : PivotContext

namespace Grid

/-- The values of pivot columns; the search ends when there are too many combinations. -/
def pivotValues (g : Grid) (count : Nat) :
    List ColumnRef → Except QueryError (List (String × List Value))
  | [] => .ok []
  | c :: rest => do
      let values ← (g.source.distinctValues c.field).mapError .source
      let count := PivotContext.multiply count values.length
      PivotContext.checkCount g.settings.pivot.maxColumns count
      let others ← g.pivotValues count rest
      .ok ((c.field, values) :: others)

def pivotContext (g : Grid) (r : Request) : Except QueryError PivotContext :=
  if r.isPivoting then do
    let values ← g.pivotValues 1 r.pivotCols
    PivotContext.build r values g.aggregates g.settings.pivot.separator
      g.settings.pivot.maxColumns
  else .ok {}

def pivotPredicates (g : Grid) (pivot : PivotContext) :
    ColumnFilters → Except QueryError (List Expr)
  | [] => .ok []
  | (id, f) :: rest =>
      match pivot.expression? id with
      | none => g.pivotPredicates pivot rest
      | some e => do
          let field := valueField id pivot.separator
          let target : FilterTarget :=
            { label := s!"filterModel.{id}", expr := e, type := g.source.fieldType field }
          let predicate ← f.compile target (g.columns.rulesFor field)
          let others ← g.pivotPredicates pivot rest
          .ok (predicate :: others)

def childCountName? (g : Grid) (r : Request) : Option String :=
  if g.settings.grid.countChildren && r.isGrouping then some g.settings.grid.childCountName
  else none

def plan (g : Grid) (r : Request) : Except QueryError RequestPlan := do
  let filters ← g.levelFilters r
  let pivot ← g.pivotContext r
  let level ← GroupingPlan.ofRequest r g.aggregates g.columns.fields (g.childCountName? r)
  let select :=
    if pivot.isEmpty then level.select
    else (if r.isGrouping then level.select else []) ++ pivot.selectItems
  let having ← g.pivotPredicates pivot filters.pivots
  .ok { select, groupBy := level.groupBy, rows := filters.rows, having, pivot }

def filtered (g : Grid) (predicates : List Expr) : Query :=
  predicates.foldl Query.where_ (Query.empty.withSource g.table)

def assemble (g : Grid) (r : Request) (p : RequestPlan) : Query :=
  let q := (g.filtered p.rows).withSelect p.select
  let q := (p.having.foldl Query.andHaving (q.withGroupBy p.groupBy)).withOrderBy
    (planOrderBy r p.select p.pivot)
  let q := if r.pageSize = 0 then q else q.withLimit r.pageSize
  if r.startRow = 0 then q else q.withOffset r.startRow

def query (g : Grid) (r : Request) : Except QueryError (Query × PivotContext) := do
  let p ← g.plan r
  .ok (g.assemble r p, p.pivot)

/-- The group column whose groups are counted; none if rows are. -/
def countedColumn? (g : Grid) (r : Request) : Option ColumnRef :=
  if g.settings.grid.paginateChildRows then r.rowGroupCols[r.groupKeys.length]?
  else r.rowGroupCols.head?

/-- The query that counts what a plan selects, regardless of the window. -/
def countQuery (g : Grid) (r : Request) (p : RequestPlan) : Query :=
  let q := g.filtered p.rows
  match g.countedColumn? r with
  | none => q.withSelect [⟨.countRows, none⟩]
  | some c =>
      let key := Expr.col c.field
      let counted := q.withSelect [⟨.countDistinct key, none⟩]
      if p.having.isEmpty then counted
      else
        let groupBy := if p.groupBy.isEmpty then [key] else p.groupBy
        let groups := p.having.foldl Query.andHaving
          ((q.withSelect [⟨key, none⟩]).withGroupBy groupBy)
        counted.where_ (.inQuery key groups false)

end Grid

end GridSql
