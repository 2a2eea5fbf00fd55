import GridSql.Sql.Render
import GridSql.Table.Eval

/-!
# Running queries

A query filters rows, groups them, projects rows or groups, drops duplicates,
sorts and cuts out a window. An IN subquery is run once, before the rows are
filtered. An EXISTS subquery is run for every row; in its WHERE and HAVING, a
column that is qualified with another name than the subquery's own reads that
row.
-/

namespace GridSql

structure ResultSet where
  columns : List String
  rows : List (List Value)
deriving Inhabited

namespace ResultSet

/-- The value of a column in a row; the first column of a name counts. -/
def get? (r : ResultSet) (row : Nat) (column : String) : Option Value := do
  let index ← r.columns.idxOf? column
  let values ← r.rows[row]?
  values[index]?

end ResultSet

/-- The row that encloses a subquery, and the name that the subquery's own columns have. -/
structure OuterRow where
  innerName : String
  row : Row

namespace Expr

mutual

/--
Replaces columns of the enclosing row by their values. Subqueries inside are left
as they are.
-/
def bindOuter (o : OuterRow) : Expr → Expr
  | column (some table) name =>
      if Text.eqIgnoringCase table o.innerName then column (some table) name
      else literal (o.row.cell name)
  | column none name => column none name
  | binary op l r => binary op (l.bindOuter o) (r.bindOuter o)
  | unary op e => unary op (e.bindOuter o)
  | paren e => paren (e.bindOuter o)
  | call name args distinct => call name (bindOuterAll o args) distinct
  | cast e type => cast (e.bindOuter o) type
  | isNull e negated => isNull (e.bindOuter o) negated
  | inList e candidates negated => inList (e.bindOuter o) (bindOuterAll o candidates) negated
  | between e low high negated =>
      between (e.bindOuter o) (low.bindOuter o) (high.bindOuter o) negated
  | like e pattern escape negated => like (e.bindOuter o) (pattern.bindOuter o) escape negated
  | choice subject branches otherwise =>
      choice (bindOuterOption o subject) (bindOuterBranches o branches)
        (bindOuterOption o otherwise)
  | literal v => literal v
  | truth holds => truth holds
  | star table => star table
  | inQuery e query negated => inQuery e query negated
  | existsIn query negated => existsIn query negated

def bindOuterAll (o : OuterRow) : List Expr → List Expr
  | [] => []
  | e :: es => e.bindOuter o :: bindOuterAll o es

def bindOuterOption (o : OuterRow) : Option Expr → Option Expr
  | some e => some (e.bindOuter o)
  | none => none

def bindOuterBranches (o : OuterRow) : List (Expr × Expr) → List (Expr × Expr)
  | [] => []
  | (condition, result) :: rest =>
      (condition.bindOuter o, result.bindOuter o) :: bindOuterBranches o rest

end

/-- An expression inside a subquery of `outer`, if there is one. -/
def within (outer : Option OuterRow) (e : Expr) : Expr :=
  match outer with
  | some o => e.bindOuter o
  | none => e

end Expr

namespace Table

def sameValues : List Value → List Value → Bool
  | [], [] => true
  | v :: vs, w :: ws => v.same w && sameValues vs ws
  | _, _ => false

/-- A group: the values of its keys and its rows. -/
structure Group where
  key : List Value
  rows : List Row

/-- Adds a row to the first group with its key, or a group behind the others. -/
def addToGroup (key : List Value) (row : Row) : List Group → List Group
  | [] => [⟨key, [row]⟩]
  | g :: rest =>
      if sameValues g.key key then { g with rows := g.rows ++ [row] } :: rest
      else g :: addToGroup key row rest

def groupRows (t : Table) (keys : List Expr) (rows : List Row) :
    Except SourceError (List (List Row)) :=
  if keys.isEmpty then .ok [rows]
  else do
    let groups ← rows.foldlM
      (fun groups row => do
        let key ← t.evalAll (.row row) keys
        pure (addToGroup key row groups))
      ([] : List Group)
    .ok (groups.map (·.rows))

/-- Compares one sort key; nulls stand where the key says, else before all when ascending. -/
def compareKey (key : OrderKey) (v w : Value) : Ordering :=
  let descending := key.direction == some .desc
  let nullsFirst :=
    match key.nulls with
    | some .first => true
    | some .last => false
    | none => !descending
  match v.isNull, w.isNull with
  | true, true => .eq
  | true, false => if nullsFirst then .lt else .gt
  | false, true => if nullsFirst then .gt else .lt
  | false, false =>
      let order := (v.order? w).getD .eq
      if descending then order.swap else order

/-- Compares lists of sort keys; the first difference decides. -/
def compareKeys : List OrderKey → List Value → List Value → Ordering
  | key :: keys, v :: vs, w :: ws => (compareKey key v w).then (compareKeys keys vs ws)
  | _, _, _ => .eq

/-- An output row with the values that it is sorted by. -/
structure Projected where
  values : List Value
  keys : List Value

def evalItems (t : Table) (s : Scope) : List SelectItem → Except SourceError (List Value)
  | [] => .ok []
  | item :: rest => do
      let values ←
        if item.expr.isStar then t.evalAll s (t.columns.map fun c => .col c.name)
        else (t.eval s item.expr).map ([·])
      let others ← t.evalItems s rest
      .ok (values ++ others)

def project (t : Table) (q : Query) (s : Scope) : Except SourceError Projected := do
  let values ← t.evalItems s q.select
  let keys ← t.evalAll s (q.orderBy.map (·.expr))
  .ok ⟨values, keys⟩

/-- The names of the output columns; a star gives those of the table. -/
def outputColumns (t : Table) (items : List SelectItem) : List String :=
  items.flatMap fun item =>
    if item.expr.isStar then t.columns.map (·.name) else [item.outputName]

/-- Drops every output row that is the same as an earlier one. -/
def dropDuplicates (seen : List Projected) : List Projected → List Projected
  | [] => seen.reverse
  | p :: rest =>
      if seen.any (sameValues ·.values p.values) then dropDuplicates seen rest
      else dropDuplicates (p :: seen) rest

/-- Sorts output rows; equal ones keep their order. -/
def sortRows (keys : List OrderKey) (rows : List Projected) : List Projected :=
  if keys.isEmpty then rows
  else rows.mergeSort fun a b => compareKeys keys a.keys b.keys != .gt

def cut {α : Type} (window : Option Window) (rows : List α) : List α :=
  match window with
  | none => rows
  | some w =>
      let rest := rows.drop (w.offset.getD 0)
      match w.limit with
      | some n => rest.take n
      | none => rest

def isGrouped (q : Query) : Bool :=
  !q.groupBy.isEmpty || q.having.isSome || q.select.any (·.expr.hasAggregate)

def projectGroups (t : Table) (q : Query) (having : Option Expr) :
    List (List Row) → Except SourceError (List Projected)
  | [] => .ok []
  | rows :: rest => do
      let keep ←
        match having with
        | some h => t.test (.group rows) h
        | none => .ok true
      if keep then
        let p ← t.project q (.group rows)
        let ps ← t.projectGroups q having rest
        .ok (p :: ps)
      else
        t.projectGroups q having rest

def output (t : Table) (q : Query) (having : Option Expr) (rows : List Row) :
    Except SourceError ResultSet := do
  let projected ←
    if isGrouped q then do
      let groups ← t.groupRows q.groupBy rows
      t.projectGroups q having groups
    else
      rows.mapM fun r => t.project q (.row r)
  let distinct := if q.distinct then dropDuplicates [] projected else projected
  let sorted := sortRows q.orderBy distinct
  .ok { columns := t.outputColumns q.select, rows := (cut q.window sorted).map (·.values) }

/-- A predicate whose IN subqueries have been run. -/
structure Resolved where
  /-- The predicate, with its EXISTS subqueries left in. -/
  expr : Expr
  /-- The predicate with its EXISTS subqueries decided for a row. -/
  onRow : Row → Except SourceError Expr

/-- A predicate without subqueries. -/
def Resolved.plain (e : Expr) : Resolved :=
  ⟨e, fun _ => .ok e⟩

def checkSource (t : Table) (source : Option TableRef) : Except SourceError Unit :=
  match source with
  | some r => if Text.eqIgnoringCase r.table t.name then .ok () else .error (.unknownTable r.table)
  | none => .ok ()

mutual

def runWithin (t : Table) (outer : Option OuterRow) : Query → Except SourceError ResultSet
  | ⟨select, distinct, source, filter, groupBy, having, orderBy, window⟩ => do
      t.checkSource source
      let resolvedFilter ← t.resolveOption outer filter
      let resolvedHaving ← t.resolveOption outer having
      let kept ←
        match resolvedFilter with
        | some p => t.rows.filterM fun row => do t.test (.row row) (← p.onRow row)
        | none => .ok t.rows
      t.output ⟨select, distinct, source, filter, groupBy, having, orderBy, window⟩
        (resolvedHaving.map (·.expr)) kept

/-- Runs the IN subqueries of a predicate inside the given row. -/
def resolve (t : Table) (outer : Option OuterRow) : Expr → Except SourceError Resolved
  | .inQuery e query negated => do
      let result ← t.runWithin none query
      let subject ← t.resolve none e
      let candidates := result.rows.filterMap fun row => row.head?.map Expr.literal
      .ok (.plain (.inList subject.expr candidates negated))
  | .existsIn query negated =>
      .ok
        { expr := .existsIn query negated
          onRow := fun row => do
            let name := (query.source.map (·.referenceName)).getD t.name
            let result ← t.runWithin (some ⟨name, row⟩) query
            .ok (.truth (!result.rows.isEmpty != negated)) }
  | .binary op l r => do
      let left ← t.resolve outer l
      let right ← t.resolve outer r
      .ok
        { expr := .binary op left.expr right.expr
          onRow := fun row => do .ok (.binary op (← left.onRow row) (← right.onRow row)) }
  | .unary op e => do
      let operand ← t.resolve outer e
      .ok
        { expr := .unary op operand.expr
          onRow := fun row => do .ok (.unary op (← operand.onRow row)) }
  | .paren e => do
      let inner ← t.resolve outer e
      .ok { expr := .paren inner.expr, onRow := fun row => do .ok (.paren (← inner.onRow row)) }
  | .column table name => .ok (.plain ((Expr.column table name).within outer))
  | .literal v => .ok (.plain (.literal v))
  | .truth holds => .ok (.plain (.truth holds))
  | .call name args distinct => .ok (.plain ((Expr.call name args distinct).within outer))
  | .choice subject branches otherwise =>
      .ok (.plain ((Expr.choice subject branches otherwise).within outer))
  | .cast e type => .ok (.plain ((Expr.cast e type).within outer))
  | .inList e candidates negated =>
      .ok (.plain ((Expr.inList e candidates negated).within outer))
  | .between e low high negated =>
      .ok (.plain ((Expr.between e low high negated).within outer))
  | .isNull e negated => .ok (.plain ((Expr.isNull e negated).within outer))
  | .like e pattern escape negated =>
      .ok (.plain ((Expr.like e pattern escape negated).within outer))
  | .star table => .ok (.plain (.star table))

def resolveOption (t : Table) (outer : Option OuterRow) :
    Option Expr → Except SourceError (Option Resolved)
  | some e => (t.resolve outer e).map some
  | none => .ok none

end

def run (t : Table) (q : Query) : Except SourceError ResultSet :=
  t.runWithin none q

/-- The number in the first cell of a query's answer. -/
def count (t : Table) (q : Query) : Except SourceError Nat := do
  let result ← t.run q
  match result.rows.head?.bind List.head? with
  | none => .error (.evaluation .noCount)
  | some cell =>
      match cell.asDecimal?.bind Decimal.toCount? with
      | some n => .ok n
      | none => .error (.evaluation (.notACount cell))

end Table

end GridSql
