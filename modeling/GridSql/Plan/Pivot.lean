import GridSql.Plan.Grouping

/-!
# Pivot columns

Every combination of pivot values makes one column for each value column: the
aggregate over the rows that match the combination. Its name is made of the
values and the value column's field.
-/

namespace GridSql

structure PivotPair where
  field : String
  value : Value

structure PivotColumn where
  name : String
  expr : Expr

/-- The generated columns of a request and where they come from. -/
structure PivotContext where
  /-- The different values of each pivot column. -/
  values : List (String × List Value) := []
  pairs : List (List PivotPair) := []
  combinations : List (List PivotPair) := []
  columns : List PivotColumn := []
  separator : String := ""

/-- Every choice of one item from each list; the last list varies fastest. -/
def cartesianProduct {α : Type} (lists : List (List α)) : List (List α) :=
  lists.foldl (fun acc items => acc.flatMap fun chosen => items.map fun a => chosen ++ [a]) [[]]

/-- What stands behind the last separator of a text, if there is one in it. -/
def afterLast? (separator : List Char) : List Char → Option (List Char)
  | [] => if separator.isEmpty then some [] else none
  | c :: rest =>
      match afterLast? separator rest with
      | some found => some found
      | none =>
          if separator.isPrefixOf (c :: rest) then some ((c :: rest).drop separator.length)
          else none

/-- The value column that a generated name was made from: all behind the last separator. -/
def valueField (name separator : String) : String :=
  match afterLast? separator.toList name.toList with
  | some cs => String.ofList cs
  | none => name

namespace PivotPair

def condition (p : PivotPair) : Expr :=
  if p.value.isNull then .isNull (.col p.field) false
  else (Expr.col p.field).eq (.literal p.value)

end PivotPair

namespace PivotContext

/-- The largest number of combinations that is counted. -/
def countLimit : Nat := twoTo 64 - 1

/-- Multiplies a number of combinations; it does not grow over the limit. -/
def multiply (count values : Nat) : Nat :=
  min (count * values) countLimit

def checkCount (limit : Option Nat) (actual : Nat) : Except QueryError Unit :=
  match limit with
  | some n => if n < actual then .error (.pivotTooWide n actual) else .ok ()
  | none => .ok ()

def columnName (separator : String) (combination : List PivotPair) (field : String) : String :=
  separator.intercalate (combination.map (·.value.namePart)) ++ separator ++ field

/-- A field where the row matches a combination, null elsewhere. -/
def matching (combination : List PivotPair) (field : String) : Expr :=
  combination.foldr (fun p inner => .caseWhen p.condition inner) (.col field)

def columnsOf (aggregates : AggregateRegistry) (separator : String) (valueCols : List ColumnRef)
    (combination : List PivotPair) : Except QueryError (List PivotColumn) :=
  valueCols.mapM fun c => do
    let function ← AggregateRegistry.functionName c
    let expr ← aggregates.apply function (matching combination c.field)
    .ok { name := columnName separator combination c.field, expr }

def build (r : Request) (values : List (String × List Value)) (aggregates : AggregateRegistry)
    (separator : String) (limit : Option Nat) : Except QueryError PivotContext := do
  checkCount limit (values.foldl (fun count (_, vs) => multiply count vs.length) 1)
  let pairs := values.map fun (field, vs) => vs.map fun v => (⟨field, v⟩ : PivotPair)
  let combinations := cartesianProduct pairs
  let columns ← combinations.mapM (columnsOf aggregates separator r.valueCols)
  .ok { values, pairs, combinations, columns := columns.flatten, separator }

def isEmpty (p : PivotContext) : Bool := p.columns.isEmpty

def resultFields (p : PivotContext) : List String := p.columns.map (·.name)

def expression? (p : PivotContext) (name : String) : Option Expr :=
  (p.columns.find? (·.name = name)).map (·.expr)

def selectItems (p : PivotContext) : List SelectItem :=
  p.columns.map fun c => ⟨c.expr, some c.name⟩

end PivotContext

end GridSql
