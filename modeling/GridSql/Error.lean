import GridSql.Json.Printer
import GridSql.Settings.Error
import GridSql.Table.Error

/-!
# Errors of requests

A request that is not valid is answered with all of its violations at once. Any
other error ends the work on a request where it arises.
-/

namespace GridSql

/-- One fault of a request: the field it is in and what is wrong with it. -/
structure Violation where
  field : String
  message : String
  /-- The value that was refused, if it is shown. -/
  rejected : Option Json := none
deriving Inhabited

namespace Violation

def text (v : Violation) : String :=
  s!"{v.field}: {v.message}"

end Violation

inductive QueryError where
  /-- A word that stands for nothing, with what it was taken for. -/
  | unrecognized (construct value : String)
  | pivotTooWide (limit actual : Nat)
  | invalid (violations : List Violation)
  | source (error : SourceError)
  | settings (error : SettingsError)

namespace QueryError

def single (field message : String) : QueryError :=
  invalid [{ field, message }]

def refused (field message : String) (rejected : Json) : QueryError :=
  invalid [{ field, message, rejected := some rejected }]

def message : QueryError → String
  | unrecognized construct value => s!"Unrecognized {construct}: {value}"
  | pivotTooWide limit actual =>
      s!"Pivot max columns exceeded, limit: {limit}, actual columns: {actual}"
  | invalid violations =>
      "Request validation failed:" ++ String.join (violations.map fun v => "\n- " ++ v.text)
  | source error => error.message
  | settings error => error.message

end QueryError

/-- The violations that have been found so far, in order. -/
abbrev Violations := List Violation

namespace Violations

/--
Takes over the result of a step: a value is handed on, violations are added to
those found before, and any other error ends the work.
-/
def take {α : Type} (vs : Violations) (r : Except QueryError α) :
    Except QueryError (Option α × Violations) :=
  match r with
  | .ok a => .ok (some a, vs)
  | .error (.invalid more) => .ok (none, vs ++ more)
  | .error e => .error e

/-- The value, if no violation has been found. -/
def finish {α : Type} (vs : Violations) (a : α) : Except QueryError α :=
  if vs.isEmpty then .ok a else .error (.invalid vs)

end Violations

end GridSql
