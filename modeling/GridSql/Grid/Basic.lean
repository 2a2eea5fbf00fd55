import GridSql.Filter.Compile
import GridSql.Filter.Quick
import GridSql.Filter.Recognize
import GridSql.Grid.Columns
import GridSql.Plan.Sort
import GridSql.Settings.Basic

/-!
# Grids

A grid answers requests over one table. It is set up with settings, column
definitions and the server's own aggregates, recognizers and hooks; the settings
of a grid are always valid.
-/

namespace GridSql

structure GridConfig where
  source : Table
  settings : Settings := {}
  columns : ColumnRegistry := {}
  aggregates : AggregateRegistry := .builtin
  recognizers : Recognizers := {}
  quickFilter : QuickFilter := {}
  /-- Reads the external filter of a request. -/
  externalFilter : Option (Json → Option Expr) := none

structure Grid extends GridConfig where
  table : TableRef
  isValid : toGridConfig.settings.fault? = none

namespace GridConfig

/--
The grid over the table with the given name. Without a name it is the table of the
settings.
-/
def build (c : GridConfig) (table : Option String) (env : Environment) :
    Except QueryError Grid :=
  match h : c.settings.fault? with
  | some fault => .error (.settings (.invalid fault))
  | none => do
      let name ← match table with
        | some name => .ok name
        | none =>
            match c.settings.resolvedTable env with
            | .ok (some name) => .ok name
            | .ok none => .error (.settings (.invalid .noTable))
            | .error e => .error (.settings e)
      .ok { toGridConfig := c, table := TableRef.parse name, isValid := h }

end GridConfig

namespace Grid

/-- What the filters of a request may know about the columns. -/
def filterContext (g : Grid) : FilterContext :=
  { rules := g.columns.rulesFor, type := g.source.fieldType }

/--
Whether a name is that of a generated column: what stands behind its last separator
is the field of a value column.
-/
def namesPivotColumn (g : Grid) (r : Request) (name : String) : Bool :=
  let field := valueField name g.settings.pivot.separator
  r.isPivoting && field ≠ name && r.valueCols.any (·.field = field)

end Grid

end GridSql
