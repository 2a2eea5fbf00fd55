import GridSql.Filter.Predicate
import GridSql.Table.Basic

/-!
# The quick filter

A free text is split into words, and a row passes if every word is in at least
one of the searched columns.
-/

namespace GridSql

structure QuickFilter extends TextForm where
  /-- The searched columns; by default all text columns that the server has defined. -/
  fields : Option (List String) := none
  trimInput : Bool := false
  /-- Replaces splitting at blanks. -/
  parser : Option (String → List String) := none
  /-- Replaces the built-in matching of words and columns. -/
  matcher : Option (List Expr → List Expr → Expr) := none

namespace QuickFilter

/-- The words of a text, without empty ones. -/
def words (q : QuickFilter) (s : String) : List String :=
  let split := match q.parser with
    | some f => f s
    | none => Text.words s
  (split.map fun w => if q.trimInput then Text.trim w else w).filter (· ≠ "")

def column (q : QuickFilter) (c : Column) : Expr :=
  q.ofExpr (match c.type with
    | .text | .other => .col c.name
    | _ => .cast (.col c.name) .text)

/-- The predicate for a text; none if there is no word in it. -/
def predicate (q : QuickFilter) (s : String) (fields : List Column) : Option Expr :=
  let words := (q.words s).map q.ofText
  if words.isEmpty then none
  else
    let columns := fields.map q.column
    match q.matcher with
    | some f => some (f words columns)
    | none =>
        some (Expr.conjunction (words.map fun word =>
          Expr.disjunction (columns.map fun c =>
            Predicate.matching c word true true false)))

end QuickFilter

end GridSql
