import GridSql.Calendar.Instant
import GridSql.Decimal.Literal
import GridSql.Text.Case
import GridSql.Value.Basic

/-!
# Textual literals

Reads the texts that stand for numbers, booleans, dates and date-times in
requests, data files and casts.
-/

namespace GridSql

/-- A text that cannot be read as the kind of value that is wanted. -/
inductive LiteralError where
  | date (text : String)
  | number (text : String)
  | boolean (text : String)
deriving DecidableEq, Repr

namespace LiteralError

def message : LiteralError → String
  | date s => s!"Could not parse '{s}' as a date"
  | number s => s!"Could not parse '{s}' as a number"
  | boolean s => s!"Could not parse '{s}' as a boolean"

end LiteralError

namespace Literal

/-- A decimal number between blanks. -/
def decimal (s : String) : Except LiteralError Decimal :=
  match Decimal.parse? (Text.trim s) with
  | some d => .ok d
  | none => .error (.number s)

/-- The word true or false in any case between blanks. -/
def boolean (s : String) : Except LiteralError Bool :=
  let word := Text.trim s
  if Text.eqIgnoringCase word "true" then .ok true
  else if Text.eqIgnoringCase word "false" then .ok false
  else .error (.boolean s)

/-- The text without a zone in brackets at its end. -/
def withoutZone (cs : List Char) : List Char :=
  if cs.getLast? = some ']' && cs.contains '[' then cs.takeWhile (· ≠ '[') else cs

/--
A date or date-time between blanks: an instant, whose time becomes universal, a
local date-time, or a date, which stands for its midnight.
-/
def timestamp (s : String) : Except LiteralError Timestamp :=
  let cs := Text.trimChars s.toList
  let found :=
    (Instant.parse? (withoutZone cs)).orElse fun _ =>
      (DateLayout.timestamps.findSome? (·.timestamp? cs)).orElse fun _ =>
        (DateLayout.dates.findSome? (·.date? cs)).map Timestamp.atMidnight
  match found with
  | some t => .ok t
  | none => .error (.date s)

end Literal

end GridSql
