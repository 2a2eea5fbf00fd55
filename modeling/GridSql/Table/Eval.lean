import GridSql.Sql.Expr
import GridSql.Table.Basic
import GridSql.Table.Pattern

/-!
# Evaluation of expressions

Expressions are evaluated on a row or on a group of rows with three truth
values: a comparison with null is null, and a predicate passes only if it is
true. Operands are evaluated from left to right; AND and OR stop at the first
operand that decides them.
-/

namespace GridSql

/-- What column references read. -/
inductive Scope where
  | row (r : Row)
  /-- Columns read the first row; aggregates fold over all rows. -/
  | group (rows : List Row)

namespace Scope

def cell (s : Scope) (name : String) : Value :=
  match s with
  | row r => r.cell name
  | group [] => .null
  | group (first :: _) => first.cell name

end Scope

inductive Aggregate where
  | count
  | sum
  | avg
  | min
  | max
deriving DecidableEq, Repr

namespace Aggregate

def all : List Aggregate := [count, sum, avg, min, max]

def name : Aggregate → String
  | count => "COUNT"
  | sum => "SUM"
  | avg => "AVG"
  | min => "MIN"
  | max => "MAX"

/-- The aggregate with a name in any case. -/
def ofName? (s : String) : Option Aggregate :=
  all.find? fun a => Text.eqIgnoringCase a.name s

/-- The sum of numbers from the left. -/
def total (a : Aggregate) (start : Decimal) : List Value → Except EvalFault Decimal
  | [] => .ok start
  | v :: rest =>
      match v.asDecimal? with
      | none => .error (.cannotApply a.name v)
      | some d =>
          match start.add? d with
          | none => .error .sumOverflow
          | some next => total a next rest

/-- The first value before or behind which, by `wanted`, no other one stands. -/
def extreme (wanted : Ordering) : List Value → Value
  | [] => .null
  | v :: rest => rest.foldl (fun best w => if w.order? best == some wanted then w else best) v

/-- The aggregate of the values of a group that are not null. -/
def apply (a : Aggregate) (values : List Value) : Except EvalFault Value :=
  match a with
  | count => .ok (.int (Int64.ofNat values.length))
  | sum =>
      if values.isEmpty then .ok .null
      else (total a Decimal.zero values).map .decimal
  | avg =>
      if values.isEmpty then .ok .null
      else do
        let sum ← total a Decimal.zero values
        match sum.div? (Decimal.ofInt64 (Int64.ofNat values.length)) with
        | some d => .ok (.decimal d)
        | none => .error .averageOverflow
  | min => .ok (extreme .lt values)
  | max => .ok (extreme .gt values)

/-- The values without those that are the same as an earlier one. -/
def unique (seen : List Value) : List Value → List Value
  | [] => seen.reverse
  | v :: rest =>
      if seen.any (·.same v) then unique seen rest else unique (v :: seen) rest

end Aggregate

namespace Value

/-- A truth value: true, false or unknown. -/
def truth : Value → Except EvalFault (Option Bool)
  | null => .ok none
  | bool b => .ok (some b)
  | v => .error (.cannotApply "boolean logic" v)

def ofTruth : Option Bool → Value
  | some b => bool b
  | none => null

/-- The result of an ordering test; values without order give null. -/
def ordered (test : Ordering → Bool) : Option Ordering → Value
  | some o => bool (test o)
  | none => null

def arithmetic (f : Decimal → Decimal → Option Decimal) (v w : Value) :
    Except EvalFault Value :=
  match v.asDecimal? with
  | none => .error (.cannotApply "arithmetic" v)
  | some x =>
      match w.asDecimal? with
      | none => .error (.cannotApply "arithmetic" w)
      | some y =>
          match f x y with
          | some z => .ok (decimal z)
          | none => .error .arithmetic

/-- The result of an operator that is not logical; with a null operand it is null. -/
def operate (op : BinaryOp) (v w : Value) : Except EvalFault Value :=
  if v.isNull || w.isNull then .ok null
  else
    let order := v.order? w
    match op with
    | .eq => .ok (bool (order == some .eq))
    | .ne => .ok (bool (order != some .eq))
    | .lt => .ok (ordered (· == .lt) order)
    | .le => .ok (ordered (· != .gt) order)
    | .gt => .ok (ordered (· == .gt) order)
    | .ge => .ok (ordered (· != .lt) order)
    | .add => arithmetic Decimal.add? v w
    | .sub => arithmetic Decimal.sub? v w
    | .mul => arithmetic Decimal.mul? v w
    | .div => arithmetic Decimal.div? v w
    | .and | .or => .ok null

def applyUnary (op : UnaryOp) (v : Value) : Except EvalFault Value :=
  match op, v with
  | _, null => .ok null
  | .not, bool b => .ok (bool (!b))
  | .not, v => .error (.cannotApply "NOT" v)
  | .minus, v =>
      match v.asDecimal? with
      | some d => .ok (decimal (-d))
      | none => .error (.cannotApply "negate" v)

def castNumber : Value → Except EvalFault Decimal
  | text s => (Literal.decimal s).mapError .literal
  | bool b => .ok (Decimal.ofInt64 (if b then 1 else 0))
  | v =>
      match v.asDecimal? with
      | some d => .ok d
      | none => .error (.cannotApply "CAST AS DECIMAL" v)

def castTimestamp : Value → Except EvalFault Timestamp
  | date d => .ok (Timestamp.atMidnight d)
  | timestamp t => .ok t
  | text s => (Literal.timestamp s).mapError .literal
  | v => .error (.cannotApply "CAST AS DATE" v)

def castTo (type : CastType) (v : Value) : Except EvalFault Value :=
  if v.isNull then .ok v
  else
    match type with
    | .text => .ok (text v.display)
    | .decimal => v.castNumber.map decimal
    | .date => v.castTimestamp.map fun t => date t.date
    | .timestamp => v.castTimestamp.map timestamp

def mapText (f : String → String) : Value → Value
  | null => null
  | v => text (f v.display)

/-- The functions of single rows, by their name in capitals. -/
def applyFunction (name : String) (args : List Value) : Except SourceError Value :=
  let first := args.headD null
  if name = "LOWER" then .ok (first.mapText Text.lower)
  else if name = "UPPER" then .ok (first.mapText Text.upper)
  else if name = "TRIM" then .ok (first.mapText Text.trim)
  else if name = "LENGTH" ∨ name = "LEN" then
    .ok (if first.isNull then null else int (Int64.ofNat first.display.length))
  else if name = "CONCAT" then
    .ok (text (String.join ((args.filter (!·.isNull)).map display)))
  else if name = "COALESCE" ∨ name = "IFNULL" ∨ name = "ISNULL" then
    .ok ((args.find? (!·.isNull)).getD null)
  else .error (.unsupported (.function name))

/-- Whether a value lies between two others; with a null it is unknown. -/
def isBetween (v low high : Value) (negated : Bool) : Value :=
  if v.isNull || low.isNull || high.isNull then null
  else
    let above := v.order? low == some .gt || v.order? low == some .eq
    let below := v.order? high == some .lt || v.order? high == some .eq
    bool ((above && below) != negated)

/-- Whether the text of a value is like a pattern; with a null it is unknown. -/
def isLike (v pattern : Value) (escape : Char) (negated : Bool) : Except EvalFault Value :=
  if v.isNull || pattern.isNull then .ok null
  else (Like.like v.display pattern.display escape).map fun matched => bool (matched != negated)

end Value

namespace Expr

mutual

/-- Whether there is an aggregate call in an expression, subqueries apart. -/
def hasAggregate : Expr → Bool
  | call name args _ => (Aggregate.ofName? name).isSome || anyAggregate args
  | binary _ l r => l.hasAggregate || r.hasAggregate
  | unary _ e | cast e _ | isNull e _ | paren e | inQuery e _ _ => e.hasAggregate
  | choice subject branches otherwise =>
      optionAggregate subject || branchAggregate branches || optionAggregate otherwise
  | inList e candidates _ => e.hasAggregate || anyAggregate candidates
  | between e low high _ => e.hasAggregate || low.hasAggregate || high.hasAggregate
  | like e pattern _ _ => e.hasAggregate || pattern.hasAggregate
  | existsIn _ _ | column _ _ | literal _ | truth _ | star _ => false

def anyAggregate : List Expr → Bool
  | [] => false
  | e :: es => e.hasAggregate || anyAggregate es

def optionAggregate : Option Expr → Bool
  | some e => e.hasAggregate
  | none => false

def branchAggregate : List (Expr × Expr) → Bool
  | [] => false
  | (condition, result) :: rest =>
      condition.hasAggregate || result.hasAggregate || branchAggregate rest

end

def isStar : Expr → Bool
  | star _ => true
  | _ => false

end Expr

namespace Table

def lift {α : Type} (r : Except EvalFault α) : Except SourceError α :=
  r.mapError .evaluation

mutual

/-- The value of an expression. -/
def eval (t : Table) (s : Scope) : Expr → Except SourceError Value
  | .column _ name =>
      if (t.typeOf? name).isSome then .ok (s.cell name) else .error (.unknownColumn name)
  | .literal v => .ok v
  | .truth holds => .ok (.bool holds)
  | .paren e => t.eval s e
  | .binary op l r =>
      match op with
      | .and => do
          let left ← lift (← t.eval s l).truth
          if left = some false then .ok (.bool false)
          else do
            let right ← lift (← t.eval s r).truth
            .ok (.ofTruth (if right = some false then right
              else if left = some true then right else none))
      | .or => do
          let left ← lift (← t.eval s l).truth
          if left = some true then .ok (.bool true)
          else do
            let right ← lift (← t.eval s r).truth
            .ok (.ofTruth (if right = some true then right
              else if left = some false then right else none))
      | op => do
          let left ← t.eval s l
          let right ← t.eval s r
          lift (left.operate op right)
  | .unary op e => do
      let v ← t.eval s e
      lift (v.applyUnary op)
  | .call name args distinct =>
      match Aggregate.ofName? name with
      | some a =>
          match s with
          | .row _ => .error (.unsupported (.aggregateOutsideGroup name))
          | .group rows =>
              match args with
              | [] => .error (.evaluation (.noArgument a.name))
              | arg :: _ =>
                  if a = .count && arg.isStar then
                    .ok (.int (Int64.ofNat rows.length))
                  else do
                    let all ← rows.mapM fun r => t.eval (.row r) arg
                    let values := all.filter (!·.isNull)
                    lift (a.apply (if distinct then Aggregate.unique [] values else values))
      | none => do
          let values ← t.evalAll s args
          Value.applyFunction (Text.asciiUpper name) values
  | .choice subject branches otherwise => do
      let v ← t.evalOption s subject
      match ← t.evalBranches s v branches with
      | some result => .ok result
      | none => .ok ((← t.evalOption s otherwise).getD .null)
  | .cast e type => do
      let v ← t.eval s e
      lift (v.castTo type)
  | .inList e candidates negated => do
      let v ← t.eval s e
      if v.isNull then .ok .null else t.evalIn s v negated false candidates
  | .inQuery _ _ _ => .error (.unsupported .unresolvedInQuery)
  | .existsIn _ _ => .error (.unsupported .unboundExists)
  | .between e low high negated => do
      let v ← t.eval s e
      let l ← t.eval s low
      let h ← t.eval s high
      .ok (v.isBetween l h negated)
  | .isNull e negated => do
      let v ← t.eval s e
      .ok (.bool (v.isNull != negated))
  | .like e pattern escape negated => do
      let v ← t.eval s e
      let p ← t.eval s pattern
      lift (v.isLike p escape negated)
  | .star _ => .error (.unsupported .starOutsideCount)

def evalAll (t : Table) (s : Scope) : List Expr → Except SourceError (List Value)
  | [] => .ok []
  | e :: es => do
      let v ← t.eval s e
      let vs ← t.evalAll s es
      .ok (v :: vs)

def evalOption (t : Table) (s : Scope) : Option Expr → Except SourceError (Option Value)
  | some e => (t.eval s e).map some
  | none => .ok none

/-- The result of the first branch that is hit. -/
def evalBranches (t : Table) (s : Scope) (subject : Option Value) :
    List (Expr × Expr) → Except SourceError (Option Value)
  | [] => .ok none
  | (condition, result) :: rest => do
      let v ← t.eval s condition
      let hit := match subject with
        | some w => w.same v && !w.isNull
        | none => match v with
          | .bool b => b
          | _ => false
      if hit then (t.eval s result).map some else t.evalBranches s subject rest

/-- Looks for a value among candidates; `sawNull` tells whether one was null. -/
def evalIn (t : Table) (s : Scope) (v : Value) (negated sawNull : Bool) :
    List Expr → Except SourceError Value
  | [] => .ok (if sawNull then .null else .bool negated)
  | e :: es => do
      let w ← t.eval s e
      if w.isNull then t.evalIn s v negated true es
      else if v.same w then .ok (.bool (!negated))
      else t.evalIn s v negated sawNull es

end

/-- Whether a predicate is true. -/
def test (t : Table) (s : Scope) (e : Expr) : Except SourceError Bool := do
  match ← t.eval s e with
  | .bool b => .ok b
  | _ => .ok false

end Table

end GridSql
