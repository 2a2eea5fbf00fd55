import GridSql.Literal

/-!
# Errors of a table

Why a query cannot be answered or a data file cannot be loaded.
-/

namespace GridSql

/-- An expression that the evaluator has no meaning for. -/
inductive Unsupported where
  | aggregateOutsideGroup (name : String)
  | function (name : String)
  | unresolvedInQuery
  | unboundExists
  | starOutsideCount
deriving DecidableEq, Repr

namespace Unsupported

def message : Unsupported → String
  | aggregateOutsideGroup name => s!"aggregate {name} outside a group"
  | function name => s!"function {name}"
  | unresolvedInQuery => "unresolved IN subquery"
  | unboundExists => "unbound EXISTS subquery"
  | starOutsideCount => "* outside COUNT(*)"

end Unsupported

inductive EvalFault where
  | cannotApply (operation : String) (operand : Value)
  | literal (error : LiteralError)
  | noArgument (aggregate : String)
  | sumOverflow
  | averageOverflow
  | arithmetic
  | noCount
  | notACount (cell : Value)
  /-- The expression of a pattern is refused, with the reason for it. -/
  | pattern (reason : String)

namespace EvalFault

def message : EvalFault → String
  | cannotApply operation operand => s!"cannot apply {operation} to {operand.display}"
  | literal error => error.message
  | noArgument aggregate => s!"{aggregate} needs an argument"
  | sumOverflow => "SUM overflow"
  | averageOverflow => "AVG overflow"
  | arithmetic => "arithmetic overflow or division by zero"
  | noCount => "count query returned no rows"
  | notACount cell => s!"count is not a number: {cell.display}"
  | pattern reason => reason

end EvalFault

inductive DataFault where
  | rowWidth (expected actual : Nat)
  | cell (row : Nat) (column : String) (error : LiteralError)
deriving DecidableEq, Repr

namespace DataFault

def message : DataFault → String
  | rowWidth expected actual => s!"expected {expected} values, got {actual}"
  | cell row column error => s!"row {row} column {column}: {error.message}"

end DataFault

/-- Why a table cannot answer. -/
inductive SourceError where
  | unknownTable (name : String)
  | unknownColumn (name : String)
  | unsupported (what : Unsupported)
  | evaluation (fault : EvalFault)
  | invalidData (fault : DataFault)
  /-- The data file cannot be read, with the system's reason. -/
  | unreadable (reason : String)
  /-- The data file does not have the form of one. -/
  | malformed

namespace SourceError

def message : SourceError → String
  | unknownTable name => s!"Unknown table: {name}"
  | unknownColumn name => s!"Unknown column: {name}"
  | unsupported what => s!"Unsupported expression: {what.message}"
  | evaluation fault => s!"Evaluation failed: {fault.message}"
  | invalidData fault => s!"Invalid data: {fault.message}"
  | unreadable reason => s!"Failed to read data: {reason}"
  | malformed => "Failed to parse data"

end SourceError

end GridSql
