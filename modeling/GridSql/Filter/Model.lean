import GridSql.Calendar.Timestamp
import GridSql.Filter.Option

/-!
# Filter models

What the filter of a request means: one filter for each column, or a tree of
conditions.
-/

namespace GridSql

structure TextFilter where
  option : FilterOption
  filter : Option String
  filterTo : Option String
deriving DecidableEq

structure NumberFilter where
  option : FilterOption
  filter : Option Decimal
  filterTo : Option Decimal
deriving DecidableEq

structure DateFilter where
  option : FilterOption
  dateFrom : Option Timestamp
  dateTo : Option Timestamp
deriving DecidableEq

inductive ColumnFilter where
  | text (f : TextFilter)
  | number (f : NumberFilter)
  | date (f : DateFilter)
  /-- The selected members; the blank entry is none. -/
  | set (values : List (Option String))
  /-- One filter for each child, or none. -/
  | multi (children : List (Option ColumnFilter))
  | combined (op : JoinOp) (conditions : List ColumnFilter)
deriving Inhabited

namespace ColumnFilter

def family : ColumnFilter → String
  | text _ => "text"
  | number _ => "number"
  | date _ => "date"
  | set _ => "set"
  | multi _ => "multi"
  | combined _ [] => "text"
  | combined _ (first :: _) => first.family

end ColumnFilter

inductive AdvancedCondition where
  | text (option : TextOption) (filter : Option String)
  | object (option : TextOption) (filter : Option String)
  | number (option : ScalarOption) (filter : Option Decimal)
  | date (option : ScalarOption) (filter : Option Date)
  | dateString (option : ScalarOption) (filter : Option Date)
  | boolean (option : BooleanOption)
deriving DecidableEq

namespace AdvancedCondition

def family : AdvancedCondition → String
  | text _ _ => "text"
  | object _ _ => "object"
  | number _ _ => "number"
  | date _ _ => "date"
  | dateString _ _ => "dateString"
  | boolean _ => "boolean"

end AdvancedCondition

inductive AdvancedFilter where
  | column (id : String) (condition : AdvancedCondition)
  | join (op : JoinOp) (conditions : List AdvancedFilter)

namespace AdvancedFilter

mutual

def columnIds : AdvancedFilter → List String
  | column id _ => [id]
  | join _ conditions => allColumnIds conditions

def allColumnIds : List AdvancedFilter → List String
  | [] => []
  | f :: fs => f.columnIds ++ allColumnIds fs

end

end AdvancedFilter

inductive FilterModel where
  /-- Filters by column, in the order of the columns' names. -/
  | columns (entries : List (String × ColumnFilter))
  | advanced (filter : AdvancedFilter)
deriving Inhabited

namespace FilterModel

def isEmpty : FilterModel → Bool
  | columns [] => true
  | _ => false

end FilterModel

end GridSql
