import GridSql.Error
import GridSql.Filter.Model
import GridSql.Filter.Rules
import GridSql.Sql.Coerce
import GridSql.Value.Json

/-!
# Predicates of conditions

The SQL predicate of a single condition on an expression. Literals are made
comparable with the expression first; a text that is searched for is escaped, so
that its characters stand for themselves.
-/

namespace GridSql

structure FilterTarget where
  /-- The path that violations name. -/
  label : String
  expr : Expr
  type : ScalarType

namespace FilterTarget

def field (t : FilterTarget) (key : String) : String :=
  s!"{t.label}.{key}"

def textExpr (t : FilterTarget) : Expr :=
  match t.type with
  | .text | .other => t.expr
  | _ => .cast t.expr .text

/-- A literal that can be compared with the expression. -/
def synchronize (t : FilterTarget) (v : Value) (key : String) :
    Except QueryError Comparable :=
  match GridSql.synchronize t.expr t.type v with
  | .ok c => .ok c
  | .error e => .error (.refused (t.field key) e.message v.toJson)

/-- A literal that an operator cannot do without. -/
def need {α : Type} (t : FilterTarget) (option : FilterOption) (key : String) :
    Option α → Except QueryError α
  | some a => .ok a
  | none => .error (.single (t.field key) s!"is required for '{option.name}'")

/-- Refuses an operator that the rules do not allow. -/
def checkOption (t : FilterTarget) (allowed : List FilterOption) (option : FilterOption) :
    Except QueryError Unit :=
  if allowed.contains option then .ok ()
  else
    .error (.refused (t.field "type")
      s!"filter option '{option.name}' is not allowed for this column" (.string option.name))

/-- Refuses a date outside the bounds of the rules. -/
def checkDate (t : FilterTarget) (rules : DateRules) (key : String) (d : Date) :
    Except QueryError Unit :=
  match rules.brokenBound? d with
  | none => .ok ()
  | some bound => .error (.refused (t.field key) (bound.message d) (.string d.toText))

end FilterTarget

namespace Predicate

def likeEscape : Char := '\\'

def escapeChars (cs : List Char) : List Char :=
  cs.flatMap fun c => if c = '%' ∨ c = '_' ∨ c = likeEscape then [likeEscape, c] else [c]

/-- The text as a pattern that only it matches. -/
def escapeLike (s : String) : String :=
  String.ofList (escapeChars s.toList)

/-- A pattern for a text, with anything before or behind it where that is wanted. -/
def likePattern (e : Expr) (leading trailing : Bool) : Expr :=
  let wild (wanted : Bool) : String := if wanted then "%" else ""
  match e with
  | .literal (.text s) => .ofText (wild leading ++ escapeLike s ++ wild trailing)
  | e =>
      let any (wanted : Bool) : List Expr := if wanted then [.ofText "%"] else []
      .fn "CONCAT" (any leading ++ [e] ++ any trailing)

def matching (e text : Expr) (leading trailing negated : Bool) : Expr :=
  .like e (likePattern text leading trailing) likeEscape negated

/--
The predicate of a condition on texts. The filter text is trimmed if the rules
say so; both sides are compared in the same form.
-/
def text (t : FilterTarget) (option : FilterOption) (filter : Option String)
    (rules : TextRules) : Except QueryError Expr :=
  let raw := t.textExpr
  let value := rules.ofExpr raw
  let filterText := filter.map fun s => rules.ofText (if rules.trimInput then Text.trim s else s)
  match rules.matcher with
  | some f => .ok (f { option, value, filterText })
  | none =>
      let withText (f : Expr → Expr) : Except QueryError Expr :=
        (t.need option "filter" filterText).map f
      match option with
      | .empty | .blank => .ok ((Expr.isNull raw false).or (raw.eq (.ofText "")))
      | .notBlank => .ok ((Expr.isNull raw true).and (.binary .ne raw (.ofText "")))
      | .equals => withText (value.eq ·)
      | .notEqual => withText (.binary .ne value ·)
      | .contains => withText (matching value · true true false)
      | .notContains => withText (matching value · true true true)
      | .startsWith => withText (matching value · false true false)
      | .endsWith => withText (matching value · true false false)
      | option => .error (.unrecognized "text filter option" option.name)

def range (e low high : Expr) (inclusive : Bool) : Expr :=
  if inclusive then (Expr.binary .ge e low).and (.binary .le e high)
  else (Expr.binary .gt e low).and (.binary .lt e high)

/-- The predicate of a condition on numbers or dates, given as SQL literals. -/
def scalar (t : FilterTarget) (option : FilterOption) (e : Expr) (low high : Option Expr)
    (rules : ScalarRules) : Except QueryError Expr :=
  let lowKey := if t.type.isTemporal then "dateFrom" else "filter"
  let highKey := if t.type.isTemporal then "dateTo" else "filterTo"
  let orBlank (p : Expr) : Expr :=
    if rules.includesBlanks option then p.or (.isNull e false) else p
  let compared (op : BinaryOp) : Except QueryError Expr :=
    (t.need option lowKey low).map fun l => orBlank (.binary op e l)
  match option with
  | .empty | .blank => .ok (.isNull e false)
  | .notBlank => .ok (.isNull e true)
  | .equals => compared .eq
  | .notEqual => compared .ne
  | .lessThan => compared .lt
  | .lessThanOrEqual => compared .le
  | .greaterThan => compared .gt
  | .greaterThanOrEqual => compared .ge
  | .inRange => do
      let l ← t.need option lowKey low
      let h ← t.need option highKey high
      .ok (orBlank (range e l h rules.inRangeInclusive))
  | option => .error (.unrecognized "scalar filter option" option.name)

def number (t : FilterTarget) (f : NumberFilter) (rules : ScalarRules) :
    Except QueryError Expr := do
  t.checkOption rules.options f.option
  let literal (d : Decimal) : Expr := .literal (.decimal d)
  scalar t f.option t.expr.widen (f.filter.map literal) (f.filterTo.map literal) rules

def dateBound (t : FilterTarget) (rules : DateRules) (key : String) :
    Option Timestamp → Except QueryError (Option Comparable)
  | none => .ok none
  | some dt => do
      t.checkDate rules key dt.date
      (t.synchronize (.timestamp dt) key).map some

def date (t : FilterTarget) (f : DateFilter) (rules : DateRules) :
    Except QueryError Expr := do
  t.checkOption rules.options f.option
  let low ← dateBound t rules "dateFrom" f.dateFrom
  let high ← dateBound t rules "dateTo" f.dateTo
  let e := ((high.orElse fun _ => low).map (·.expr)).getD t.expr
  let literal (c : Comparable) : Expr := .literal c.value
  scalar t f.option e (low.map literal) (high.map literal) rules.toScalarRules

/-- The members of a set as literals, and the expression that they are compared with. -/
def setMembers (t : FilterTarget) (form : TextForm) (members : List String) :
    Except QueryError Expr :=
  match t.type with
  | .text | .other =>
      .ok (.inList (form.ofExpr t.expr) (members.map form.ofText) false)
  | _ => do
      let synced ← members.mapM fun s => t.synchronize (.text s) "values"
      let e := (synced.getLast?.map (·.expr)).getD t.expr
      .ok (.inList e (synced.map fun c => .literal c.value) false)

/-- The predicate of a set filter: no entry matches nothing, the blank entry null. -/
def set (t : FilterTarget) (values : List (Option String)) (form : TextForm) :
    Except QueryError Expr :=
  if values.isEmpty then .ok (.truth false)
  else
    let members := values.filterMap id
    let blank := Expr.isNull t.expr false
    if members.isEmpty then .ok blank
    else
      (setMembers t form members).map fun membership =>
        if values.any (·.isNone) then membership.or blank else membership

def boolean (e : Expr) : BooleanOption → Expr
  | .isTrue => e.eq (.literal (.bool true))
  | .isFalse => e.eq (.literal (.bool false))
  | .blank => .isNull e false
  | .notBlank => .isNull e true

end Predicate

end GridSql
