import GridSql.Text.Case

/-!
# Filter options

The operators that a filter condition can have, and the operators that join
conditions.
-/

namespace GridSql

inductive JoinOp where
  | and
  | or
deriving DecidableEq, Repr

namespace JoinOp

def name : JoinOp → String
  | and => "AND"
  | or => "OR"

def ofName? (s : String) : Option JoinOp :=
  [and, or].find? (·.name == s)

end JoinOp

inductive FilterOption where
  | empty
  | equals
  | notEqual
  | lessThan
  | lessThanOrEqual
  | greaterThan
  | greaterThanOrEqual
  | inRange
  | contains
  | notContains
  | startsWith
  | endsWith
  | blank
  | notBlank
deriving DecidableEq, Repr

namespace FilterOption

def all : List FilterOption :=
  [empty, equals, notEqual, lessThan, lessThanOrEqual, greaterThan, greaterThanOrEqual,
    inRange, contains, notContains, startsWith, endsWith, blank, notBlank]

def name : FilterOption → String
  | empty => "empty"
  | equals => "equals"
  | notEqual => "notEqual"
  | lessThan => "lessThan"
  | lessThanOrEqual => "lessThanOrEqual"
  | greaterThan => "greaterThan"
  | greaterThanOrEqual => "greaterThanOrEqual"
  | inRange => "inRange"
  | contains => "contains"
  | notContains => "notContains"
  | startsWith => "startsWith"
  | endsWith => "endsWith"
  | blank => "blank"
  | notBlank => "notBlank"

def ofName? (s : String) : Option FilterOption :=
  all.find? (·.name == s)

/-- Whether the operator compares with nothing. -/
def isNullary : FilterOption → Bool
  | empty | blank | notBlank => true
  | _ => false

end FilterOption

/-- The operators of numbers and dates in an advanced filter. -/
inductive ScalarOption where
  | equals
  | notEqual
  | lessThan
  | lessThanOrEqual
  | greaterThan
  | greaterThanOrEqual
  | blank
  | notBlank
deriving DecidableEq, Repr

namespace ScalarOption

def all : List ScalarOption :=
  [equals, notEqual, lessThan, lessThanOrEqual, greaterThan, greaterThanOrEqual, blank, notBlank]

def toFilterOption : ScalarOption → FilterOption
  | equals => .equals
  | notEqual => .notEqual
  | lessThan => .lessThan
  | lessThanOrEqual => .lessThanOrEqual
  | greaterThan => .greaterThan
  | greaterThanOrEqual => .greaterThanOrEqual
  | blank => .blank
  | notBlank => .notBlank

def ofName? (s : String) : Option ScalarOption :=
  all.find? (·.toFilterOption.name == s)

end ScalarOption

/-- The operators of texts and objects in an advanced filter. -/
inductive TextOption where
  | equals
  | notEqual
  | contains
  | notContains
  | startsWith
  | endsWith
  | blank
  | notBlank
deriving DecidableEq, Repr

namespace TextOption

def all : List TextOption :=
  [equals, notEqual, contains, notContains, startsWith, endsWith, blank, notBlank]

def toFilterOption : TextOption → FilterOption
  | equals => .equals
  | notEqual => .notEqual
  | contains => .contains
  | notContains => .notContains
  | startsWith => .startsWith
  | endsWith => .endsWith
  | blank => .blank
  | notBlank => .notBlank

def ofName? (s : String) : Option TextOption :=
  all.find? (·.toFilterOption.name == s)

end TextOption

inductive BooleanOption where
  | isTrue
  | isFalse
  | blank
  | notBlank
deriving DecidableEq, Repr

namespace BooleanOption

def name : BooleanOption → String
  | isTrue => "true"
  | isFalse => "false"
  | blank => "blank"
  | notBlank => "notBlank"

/-- The words true and false are read in any case. -/
def ofName? (s : String) : Option BooleanOption :=
  if s = "blank" then some blank
  else if s = "notBlank" then some notBlank
  else if Text.eqIgnoringCase s "true" then some isTrue
  else if Text.eqIgnoringCase s "false" then some isFalse
  else none

end BooleanOption

end GridSql
