import GridSql.Filter.Predicate

/-!
# Predicates of filters

Filters become predicates by recursion: the parts of a combined filter or a join
are joined by its operator, the children of a multi filter have to pass all. The
first part that cannot be compiled decides the error.
-/

namespace GridSql

/-- What is known about the columns that filters name. -/
structure FilterContext where
  /-- The rules that a column is set up with; defaults hold without. -/
  rules : String → Option FilterRules
  type : String → ScalarType

namespace JoinOp

def joinExprs : JoinOp → List Expr → Expr
  | and, es => Expr.conjunction es
  | or, es => Expr.disjunction es

end JoinOp

mutual

def ColumnFilter.compile (t : FilterTarget) (rules : Option FilterRules) :
    ColumnFilter → Except QueryError Expr
  | .text f => do
      let r := (rules.bind FilterRules.textRules?).getD {}
      t.checkOption r.options f.option
      Predicate.text t f.option f.filter r
  | .number f => Predicate.number t f ((rules.bind FilterRules.numberRules?).getD {})
  | .date f => Predicate.date t f ((rules.bind FilterRules.dateRules?).getD {})
  | .set values =>
      Predicate.set t values ((rules.bind FilterRules.setForm?).getD FilterRules.defaultSet)
  | .multi children =>
      (ColumnFilter.compileChildren t rules 0 children).map Expr.conjunction
  | .combined op conditions =>
      (ColumnFilter.compileAll t rules conditions).map op.joinExprs

/-- The predicates of the children of a multi filter from number `index` on. -/
def ColumnFilter.compileChildren (t : FilterTarget) (rules : Option FilterRules)
    (index : Nat) : List (Option ColumnFilter) → Except QueryError (List Expr)
  | [] => .ok []
  | none :: rest => ColumnFilter.compileChildren t rules (index + 1) rest
  | some child :: rest => do
      let e ← child.compile t (FilterRules.child? rules index)
      let es ← ColumnFilter.compileChildren t rules (index + 1) rest
      .ok (e :: es)

def ColumnFilter.compileAll (t : FilterTarget) (rules : Option FilterRules) :
    List ColumnFilter → Except QueryError (List Expr)
  | [] => .ok []
  | f :: fs => do
      let e ← f.compile t rules
      let es ← ColumnFilter.compileAll t rules fs
      .ok (e :: es)

end

namespace AdvancedCondition

def compileDate (t : FilterTarget) (rules : Option FilterRules) (option : ScalarOption)
    (filter : Option Date) : Except QueryError Expr := do
  let r := (rules.bind FilterRules.dateRules?).getD {}
  match filter with
  | none => Predicate.scalar t option.toFilterOption t.expr none none r.toScalarRules
  | some d =>
      t.checkDate r "filter" d
      let c ← t.synchronize (.date d) "filter"
      Predicate.scalar t option.toFilterOption c.expr (some (.literal c.value)) none
        r.toScalarRules

def compile (t : FilterTarget) (rules : Option FilterRules) :
    AdvancedCondition → Except QueryError Expr
  | text option filter | object option filter =>
      Predicate.text t option.toFilterOption filter
        ((rules.bind FilterRules.textRules?).getD {})
  | number option filter =>
      Predicate.scalar t option.toFilterOption t.expr.widen
        (filter.map fun d => .literal (.decimal d)) none
        ((rules.bind FilterRules.numberRules?).getD {})
  | date option filter | dateString option filter => compileDate t rules option filter
  | boolean option => .ok (Predicate.boolean t.expr option)

end AdvancedCondition

namespace FilterContext

def columnTarget (c : FilterContext) (field : String) : FilterTarget :=
  { label := s!"filterModel.{field}", expr := .col field, type := c.type field }

def compileColumn (c : FilterContext) (field : String) (f : ColumnFilter) :
    Except QueryError Expr :=
  f.compile (c.columnTarget field) (c.rules field)

mutual

def compileAdvanced (c : FilterContext) : AdvancedFilter → Except QueryError Expr
  | .column id condition => condition.compile (c.columnTarget id) (c.rules id)
  | .join op conditions => (c.compileAllAdvanced conditions).map op.joinExprs

def compileAllAdvanced (c : FilterContext) :
    List AdvancedFilter → Except QueryError (List Expr)
  | [] => .ok []
  | f :: fs => do
      let e ← c.compileAdvanced f
      let es ← c.compileAllAdvanced fs
      .ok (e :: es)

end

end FilterContext

end GridSql
