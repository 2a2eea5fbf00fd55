import GridSql.Filter.Compile
import GridSql.Proofs.Value.Content

/-!
# The meaning of column filters

What a filter says of a cell, without SQL. Numbers are compared as rational numbers,
dates and date-times in calendar order, texts in the form that the rules ask for. A
condition on a null cell holds only where it asks for blanks.
-/

namespace GridSql

/-! ## Rules without hooks -/

/-- Whether texts are compared as they are or in lower case, without a formatter. -/
def TextForm.IsPlain (form : TextForm) : Prop :=
  form.formatter = none

def TextForm.normal (form : TextForm) (s : String) : String :=
  if form.caseSensitive then s else Text.lower s

/-- Whether no formatter and no matcher of the server takes part. -/
def FilterRules.IsPlain : FilterRules → Prop
  | text rules => rules.toTextForm.IsPlain ∧ rules.matcher = none
  | set form => form.IsPlain
  | number _ => True
  | date _ => True
  | multi children => ∀ rules (_ : rules ∈ children), rules.IsPlain

/-! ## Conditions on cells -/

namespace Value

def day? : Value → Option Date
  | date d => some d
  | _ => none

/-- The point in time in a cell of date-times. -/
def instant? : Value → Option Timestamp
  | timestamp t => some t
  | _ => none

end Value

/--
What an operator says of a number or a date in a cell, none for a null cell. A null
cell passes where blanks are asked for, and a comparison if the rules include blanks.
-/
def ScalarRules.Holds {α : Type} [LinearOrder α] (rules : ScalarRules) (option : FilterOption)
    (low high : Option α) : Option α → Prop
  | none => option = .empty ∨ option = .blank ∨ rules.includesBlanks option = true
  | some x =>
      match option with
      | .notBlank => True
      | .equals => ∃ l ∈ low, x = l
      | .notEqual => ∃ l ∈ low, x ≠ l
      | .lessThan => ∃ l ∈ low, x < l
      | .lessThanOrEqual => ∃ l ∈ low, x ≤ l
      | .greaterThan => ∃ l ∈ low, l < x
      | .greaterThanOrEqual => ∃ l ∈ low, l ≤ x
      | .inRange => ∃ l ∈ low, ∃ h ∈ high,
          if rules.inRangeInclusive then l ≤ x ∧ x ≤ h else l < x ∧ x < h
      | _ => False

/-- What an operator says of the text that a cell is shown with. -/
def TextRules.Holds (rules : TextRules) (option : FilterOption) (filter : Option String)
    (cell : Value) : Prop :=
  let shown := rules.normal cell.display
  let wanted (s : String) := rules.normal (if rules.trimInput then Text.trim s else s)
  match option with
  | .empty | .blank => cell = .null ∨ cell.display = ""
  | .notBlank => cell ≠ .null ∧ cell.display ≠ ""
  | .equals => cell ≠ .null ∧ ∃ s ∈ filter, shown = wanted s
  | .notEqual => cell ≠ .null ∧ ∃ s ∈ filter, shown ≠ wanted s
  | .contains => cell ≠ .null ∧ ∃ s ∈ filter, (wanted s).toList <:+: shown.toList
  | .notContains => cell ≠ .null ∧ ∃ s ∈ filter, ¬ (wanted s).toList <:+: shown.toList
  | .startsWith => cell ≠ .null ∧ ∃ s ∈ filter, (wanted s).toList <+: shown.toList
  | .endsWith => cell ≠ .null ∧ ∃ s ∈ filter, (wanted s).toList <:+ shown.toList
  | _ => False

/-- Whether a cell that is not null is the member of a set, read as the column's type. -/
def TextForm.Selects (form : TextForm) (type : ScalarType) (member : String) (cell : Value) :
    Prop :=
  match type with
  | .text | .other => form.normal cell.display = form.normal member
  | type => ∃ v, (Value.text member).coerce type = .ok v ∧ v.content? = cell.content?

namespace ColumnFilter

/-- What a date filter says of a cell; on a column of dates its literals are days. -/
def DateHolds (type : ScalarType) (rules : ScalarRules) (f : DateFilter) (cell : Value) : Prop :=
  match type with
  | .date =>
      rules.Holds f.option (f.dateFrom.map (·.date.key)) (f.dateTo.map (·.date.key))
        (cell.day?.map Date.key)
  | _ =>
      rules.Holds f.option (f.dateFrom.map Timestamp.key) (f.dateTo.map Timestamp.key)
        (cell.instant?.map Timestamp.key)

/-- What a filter says of a cell of the given type under the given rules. -/
def Holds (type : ScalarType) (cell : Value) (rules : Option FilterRules) : ColumnFilter → Prop
  | text f => ((rules.bind FilterRules.textRules?).getD {}).Holds f.option f.filter cell
  | number f =>
      ((rules.bind FilterRules.numberRules?).getD {}).Holds f.option
        (f.filter.map Decimal.toRat) (f.filterTo.map Decimal.toRat) cell.number?
  | date f =>
      DateHolds type ((rules.bind FilterRules.dateRules?).getD {}).toScalarRules f cell
  | set values =>
      (cell = .null ∧ none ∈ values) ∨
        (cell ≠ .null ∧ ∃ member, some member ∈ values ∧
          ((rules.bind FilterRules.setForm?).getD FilterRules.defaultSet).Selects
            type member cell)
  | multi children =>
      ∀ (i : Nat) child (_ : children[i]? = some (some child)),
        child.Holds type cell (FilterRules.child? rules i)
  | combined .and conditions => ∀ c (_ : c ∈ conditions), c.Holds type cell rules
  | combined .or conditions => ∃ c, ∃ _ : c ∈ conditions, c.Holds type cell rules
termination_by f => sizeOf f
decreasing_by
  · rename_i h
    have := List.sizeOf_lt_of_mem (List.mem_of_getElem? h)
    simp only [Option.some.sizeOf_spec] at this
    simp only [multi.sizeOf_spec]
    omega
  · rename_i h
    have := List.sizeOf_lt_of_mem h
    simp only [combined.sizeOf_spec]
    omega
  · rename_i h
    have := List.sizeOf_lt_of_mem h
    simp only [combined.sizeOf_spec]
    omega

/-- Whether number filters are on a column of numbers and date filters on one of dates. -/
def Suits (type : ScalarType) : ColumnFilter → Prop
  | text _ => True
  | set _ => True
  | number _ => type.isNumeric = true
  | date _ => type.isTemporal = true
  | multi children => ∀ child (_ : some child ∈ children), child.Suits type
  | combined _ conditions => ∀ c (_ : c ∈ conditions), c.Suits type
termination_by f => sizeOf f
decreasing_by
  · rename_i h
    have := List.sizeOf_lt_of_mem h
    simp only [Option.some.sizeOf_spec] at this
    simp only [multi.sizeOf_spec]
    omega
  · rename_i h
    have := List.sizeOf_lt_of_mem h
    simp only [combined.sizeOf_spec]
    omega

end ColumnFilter

end GridSql
