import GridSql.Json.Record
import GridSql.Settings.Environment
import GridSql.Sql.Dialect

/-!
# Settings

How a grid answers requests: the SQL dialect, the source table, the names and the
number of pivot columns, and the switches of the grid. Everything has a default.
-/

namespace GridSql

structure PivotSettings where
  /-- Joins the pivot values and the value column in a generated name. -/
  separator : String := "_"
  /-- How many columns may be generated; none sets no limit. -/
  maxColumns : Option Nat := none
deriving DecidableEq, Repr

structure GridSettings where
  /-- Counts the next level that is not expanded, not the first one. -/
  paginateChildRows : Bool := false
  /-- Leaves names with points in them flat in result rows. -/
  suppressDotNotation : Bool := false
  /-- A group passes if its aggregates, or anything below it, do. -/
  filterAggregates : Bool := false
  /-- Levels of groups ignore filters. -/
  filterLeavesOnly : Bool := false
  /-- Accepts filter models that are trees. -/
  enableAdvancedFilter : Bool := false
  /-- Adds the number of rows to every group. -/
  countChildren : Bool := false
  childCountName : String := "childCount"
deriving DecidableEq, Repr

structure Settings where
  dialect : Dialect := .duckDb
  /-- The source table, which may refer to the environment. -/
  table : Option String := none
  pivot : PivotSettings := {}
  grid : GridSettings := {}
deriving DecidableEq, Repr

namespace GridSettings

/-- Whether levels of groups are not filtered directly. -/
def suppressesGroupFilters (g : GridSettings) : Bool :=
  g.filterAggregates || g.filterLeavesOnly

end GridSettings

namespace Settings

def fault? (s : Settings) : Option InvalidSetting :=
  if s.pivot.separator = "" then some .emptySeparator
  else if s.pivot.maxColumns = some 0 then some .noGeneratedColumns
  else if s.grid.childCountName = "" then some .emptyChildCountName
  else none

def validate (s : Settings) : Except SettingsError Unit :=
  match s.fault? with
  | some fault => .error (.invalid fault)
  | none => .ok ()

def resolvedTable (s : Settings) (env : Environment) : Except SettingsError (Option String) :=
  s.table.mapM env.expand

end Settings

namespace PivotSettings

/-- The names of the members, in the order of settings that are written as an array. -/
def memberNames : List String :=
  ["separator", "max_generated_columns"]

def ofJson? (j : Json) : Option PivotSettings := do
  let r ← Json.Record.read? memberNames j
  let separator ← r.withDefault "separator" "_" Json.asString?
  let maxColumns ← r.nullable "max_generated_columns" Json.asNat?
  return { separator := separator, maxColumns }

def toJson (p : PivotSettings) : Json :=
  .object [("separator", .string p.separator),
    ("max_generated_columns", .ofOption .ofNat p.maxColumns)]

end PivotSettings

namespace GridSettings

/-- The names of the members, in the order of settings that are written as an array. -/
def memberNames : List String :=
  ["paginate_child_rows", "suppress_field_dot_notation", "group_agg_filtering",
    "suppress_agg_filtered_only", "enable_advanced_filter", "get_child_count",
    "child_count_field_name"]

def ofJson? (j : Json) : Option GridSettings := do
  let r ← Json.Record.read? memberNames j
  let switch (name : String) : Option Bool := r.withDefault name false Json.asBool?
  let paginateChildRows ← switch "paginate_child_rows"
  let suppressDotNotation ← switch "suppress_field_dot_notation"
  let filterAggregates ← switch "group_agg_filtering"
  let filterLeavesOnly ← switch "suppress_agg_filtered_only"
  let enableAdvancedFilter ← switch "enable_advanced_filter"
  let countChildren ← switch "get_child_count"
  let childCountName ← r.withDefault "child_count_field_name" "childCount" Json.asString?
  return {
    paginateChildRows := paginateChildRows
    suppressDotNotation, filterAggregates, filterLeavesOnly, enableAdvancedFilter
    countChildren, childCountName }

def toJson (g : GridSettings) : Json :=
  .object [("paginate_child_rows", .bool g.paginateChildRows),
    ("suppress_field_dot_notation", .bool g.suppressDotNotation),
    ("group_agg_filtering", .bool g.filterAggregates),
    ("suppress_agg_filtered_only", .bool g.filterLeavesOnly),
    ("enable_advanced_filter", .bool g.enableAdvancedFilter),
    ("get_child_count", .bool g.countChildren),
    ("child_count_field_name", .string g.childCountName)]

end GridSettings

namespace Settings

/-- The settings that a JSON value stands for; members that are missing have defaults. -/
def ofJson? (j : Json) : Option Settings := do
  let r ← Json.Record.read? ["dialect", "table", "pivot", "grid"] j
  let dialect ← r.withDefault "dialect" .duckDb fun j => j.word?.bind Dialect.ofExactName?
  let table ← r.nullable "table" Json.asString?
  let pivot ← r.withDefault "pivot" {} PivotSettings.ofJson?
  let grid ← r.withDefault "grid" {} GridSettings.ofJson?
  return { dialect := dialect, table, pivot, grid }

def toJson (s : Settings) : Json :=
  .object [("dialect", .string s.dialect.name), ("table", .ofOption .string s.table),
    ("pivot", s.pivot.toJson), ("grid", s.grid.toJson)]

end Settings

end GridSql
