import GridSql.Error
import GridSql.Grid.Request
import GridSql.Sql.Coerce
import GridSql.Value.Json

/-!
# Grouping

The aggregate functions that value columns can name, the select list and the
grouping of a request's level, and the predicates of its expanded groups.
-/

namespace GridSql

/-- A named function that makes an aggregate of an expression. -/
structure AggregateFn where
  name : String
  apply : Expr → Expr

structure AggregateRegistry where
  functions : List AggregateFn

namespace AggregateRegistry

/-- The functions that are always there. -/
def builtin : AggregateRegistry :=
  ⟨[("avg", "AVG"), ("sum", "SUM"), ("min", "MIN"), ("max", "MAX"), ("count", "COUNT")].map
    fun (name, sql) => ⟨name, fun e => .fn sql [e]⟩⟩

/-- Replaces the function of a name, or adds one. -/
def registerInto (f : AggregateFn) : List AggregateFn → List AggregateFn
  | [] => [f]
  | g :: rest => if g.name = f.name then f :: rest else g :: registerInto f rest

def register (r : AggregateRegistry) (f : AggregateFn) : AggregateRegistry :=
  ⟨registerInto f r.functions⟩

def get? (r : AggregateRegistry) (name : String) : Option AggregateFn :=
  r.functions.find? (·.name = name)

def contains (r : AggregateRegistry) (name : String) : Bool :=
  (r.get? name).isSome

def names (r : AggregateRegistry) : List String :=
  (r.functions.map (·.name)).mergeSort (· ≤ ·)

def apply (r : AggregateRegistry) (name : String) (e : Expr) : Except QueryError Expr :=
  match r.get? name with
  | some f => .ok (f.apply e)
  | none => .error (.unrecognized "aggregate function" name)

def functionName (c : ColumnRef) : Except QueryError String :=
  match c.aggFunc with
  | some name => .ok name
  | none => .error (.single s!"valueCols.{c.field}.aggFunc" "is required for value columns")

def aggregate (r : AggregateRegistry) (c : ColumnRef) : Except QueryError Expr := do
  let name ← functionName c
  r.apply name (.col c.field)

end AggregateRegistry

structure GroupingPlan where
  select : List SelectItem
  groupBy : List Expr

namespace GroupingPlan

def valueItems (aggregates : AggregateRegistry) (cols : List ColumnRef) :
    Except QueryError (List SelectItem) :=
  cols.mapM fun c => do
    let e ← aggregates.aggregate c
    .ok ⟨e, some c.field⟩

/--
A level of groups selects the active group columns, the child count if it is
wanted, and the value columns unless they are pivoted. The leaf level selects the
projected fields, or everything when there are none.
-/
def ofRequest (r : Request) (aggregates : AggregateRegistry) (projection : List String)
    (childCount : Option String) : Except QueryError GroupingPlan :=
  if r.isGrouping then do
    let keys := r.activeGroupCols.map fun c => Expr.col c.field
    let values ← if r.isPivoting then .ok [] else valueItems aggregates r.valueCols
    let count : List SelectItem :=
      (childCount.map fun asName => ⟨Expr.countRows, some asName⟩).toList
    .ok { select := keys.map (⟨·, none⟩) ++ count ++ values, groupBy := keys }
  else
    let select : List SelectItem :=
      if projection.isEmpty then [⟨.star none, none⟩]
      else projection.map fun field => ⟨.col field, none⟩
    .ok { select, groupBy := [] }

end GroupingPlan

def groupKeyPredicate (type : String → ScalarType) (index : Nat) (c : ColumnRef) (key : Json) :
    Except Violation Expr :=
  if key.isNull then .ok (.isNull (.col c.field) false)
  else
    match synchronize (.col c.field) (type c.field) (.text (Value.jsonText key)) with
    | .ok s => .ok (s.expr.eq (.literal s.value))
    | .error e =>
        .error { field := s!"groupKeys[{index}]", message := e.message, rejected := some key }

/-- The predicates of expanded groups from number `index` on, and all that is wrong. -/
def groupKeyPredicatesAux (type : String → ScalarType) (index : Nat) :
    List ColumnRef → List Json → List Expr × Violations
  | c :: cols, key :: keys =>
      let (es, vs) := groupKeyPredicatesAux type (index + 1) cols keys
      match groupKeyPredicate type index c key with
      | .ok e => (e :: es, vs)
      | .error v => (es, v :: vs)
  | _, _ => ([], [])

def groupKeyPredicates (r : Request) (type : String → ScalarType) :
    Except QueryError (List Expr) :=
  let (es, vs) := groupKeyPredicatesAux type 0 r.rowGroupCols r.groupKeys
  Violations.finish vs es

end GridSql
