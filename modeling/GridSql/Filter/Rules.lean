import GridSql.Filter.Option
import GridSql.Calendar.Date
import GridSql.Sql.Expr

/-!
# Filter rules

How the server has set up the filter of a column: which operators it allows, how
texts are compared, which blanks pass and which dates are valid.
-/

namespace GridSql

/-- How texts are brought into the form in which they are compared. -/
structure TextForm where
  caseSensitive : Bool := false
  /-- Replaces lowering the case, on both sides. -/
  formatter : Option (Expr → Expr) := none

namespace TextForm

def ofExpr (form : TextForm) (e : Expr) : Expr :=
  match form.formatter with
  | some f => f e
  | none => if form.caseSensitive then e else .fn "LOWER" [e]

def ofText (form : TextForm) (s : String) : Expr :=
  match form.formatter with
  | some f => f (.ofText s)
  | none => .ofText (if form.caseSensitive then s else Text.lower s)

end TextForm

structure TextMatch where
  option : FilterOption
  /-- The column, in the form in which it is compared. -/
  value : Expr
  /-- The filter text in that form; none where there is no text. -/
  filterText : Option Expr

structure TextRules extends TextForm where
  trimInput : Bool := false
  options : List FilterOption := FilterOption.all
  /-- Replaces all built-in predicates. -/
  matcher : Option (TextMatch → Expr) := none

/-- The rules that number and date filters share. -/
structure ScalarRules where
  options : List FilterOption := FilterOption.all
  inRangeInclusive : Bool := false
  blanksInEquals : Bool := false
  blanksInNotEqual : Bool := false
  blanksInLessThan : Bool := false
  blanksInGreaterThan : Bool := false
  blanksInRange : Bool := false
deriving DecidableEq

namespace ScalarRules

/-- Whether a null cell passes a comparison. -/
def includesBlanks (rules : ScalarRules) : FilterOption → Bool
  | .equals => rules.blanksInEquals
  | .notEqual => rules.blanksInNotEqual
  | .lessThan | .lessThanOrEqual => rules.blanksInLessThan
  | .greaterThan | .greaterThanOrEqual => rules.blanksInGreaterThan
  | .inRange => rules.blanksInRange
  | _ => false

end ScalarRules

structure DateRules extends ScalarRules where
  minYear : Option Int := some 1000
  maxYear : Option Int := none
  minDate : Option Date := none
  maxDate : Option Date := none
deriving DecidableEq

inductive DateBound where
  | maxYear (year : Int)
  | minYear (year : Int)
  | maxDate (date : Date)
  | minDate (date : Date)
deriving DecidableEq

namespace DateBound

def message (d : Date) : DateBound → String
  | maxYear year => s!"Date {d.toText} is after the maximum valid year {year}"
  | minYear year => s!"Date {d.toText} is before the minimum valid year {year}"
  | maxDate date => s!"Date {d.toText} is after the maximum valid date {date.toText}"
  | minDate date => s!"Date {d.toText} is before the minimum valid date {date.toText}"

end DateBound

namespace DateRules

/-- The first bound that a date does not keep; years come before dates. -/
def brokenBound? (rules : DateRules) (d : Date) : Option DateBound :=
  let broken {α : Type} (bound : Option α) (isBroken : α → Bool) (make : α → DateBound) :
      Option DateBound :=
    (bound.filter isBroken).map make
  (broken rules.maxYear (· < d.year) .maxYear).orElse fun _ =>
    (broken rules.minYear (d.year < ·) .minYear).orElse fun _ =>
      (broken rules.maxDate (compare · d == .lt) .maxDate).orElse fun _ =>
        broken rules.minDate (compare d · == .lt) .minDate

end DateRules

inductive FilterRules where
  | text (rules : TextRules)
  | number (rules : ScalarRules)
  | date (rules : DateRules)
  | set (form : TextForm)
  /-- Child filters, by position. -/
  | multi (children : List FilterRules)

instance : Inhabited FilterRules := ⟨.multi []⟩

namespace FilterRules

/-- The rules of a set filter compare exactly unless they say otherwise. -/
def defaultSet : TextForm := { caseSensitive := true }

mutual

/-- The first rules that a function finds, looking into child filters. -/
def findRules {α : Type} (own : FilterRules → Option α) : FilterRules → Option α
  | multi children => findChildRules own children
  | rules => own rules

def findChildRules {α : Type} (own : FilterRules → Option α) : List FilterRules → Option α
  | [] => none
  | rules :: rest =>
      match findRules own rules with
      | some a => some a
      | none => findChildRules own rest

end

def textRules? : FilterRules → Option TextRules :=
  findRules fun
    | text rules => some rules
    | _ => none

def numberRules? : FilterRules → Option ScalarRules :=
  findRules fun
    | number rules => some rules
    | _ => none

def dateRules? : FilterRules → Option DateRules :=
  findRules fun
    | date rules => some rules
    | _ => none

def setForm? : FilterRules → Option TextForm :=
  findRules fun
    | set form => some form
    | _ => none

/-- The rules for a child of a multi filter; other rules hold for every child. -/
def child? (rules : Option FilterRules) (index : Nat) : Option FilterRules :=
  match rules with
  | some (multi children) => children[index]?
  | rules => rules

end FilterRules

end GridSql
