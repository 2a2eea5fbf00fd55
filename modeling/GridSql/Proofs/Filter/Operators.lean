import GridSql.Proofs.Filter.AdvancedFilters

/-!
# Operators that the rules allow

The rules of a column can restrict the operators of its conditions. A column filter is compiled
only if the rules of every condition in it allow its operator, on whatever the filter applies to
and however deep the condition is. The conditions of advanced filters are compiled without a look
at the restriction, so it makes no difference to them.
-/

namespace GridSql

/-! ## Column filters -/

namespace ColumnFilter

/--
The operators of the conditions in a filter, each with those that are allowed by the rules that
the condition is compiled under.
-/
inductive Uses : Option FilterRules → ColumnFilter → FilterOption → List FilterOption → Prop where
  | text (rules : Option FilterRules) (f : TextFilter) :
      Uses rules (.text f) f.option ((rules.bind FilterRules.textRules?).getD {}).options
  | number (rules : Option FilterRules) (f : NumberFilter) :
      Uses rules (.number f) f.option ((rules.bind FilterRules.numberRules?).getD {}).options
  | date (rules : Option FilterRules) (f : DateFilter) :
      Uses rules (.date f) f.option ((rules.bind FilterRules.dateRules?).getD {}).options
  /-- A child of a multi filter has the rules of its position. -/
  | child {rules : Option FilterRules} {children : List (Option ColumnFilter)} {i : Nat}
      {child : ColumnFilter} {option : FilterOption} {allowed : List FilterOption}
      (listed : children[i]? = some (some child))
      (uses : Uses (FilterRules.child? rules i) child option allowed) :
      Uses rules (.multi children) option allowed
  | condition {rules : Option FilterRules} {op : JoinOp} {conditions : List ColumnFilter}
      {condition : ColumnFilter} {option : FilterOption} {allowed : List FilterOption}
      (listed : condition ∈ conditions) (uses : Uses rules condition option allowed) :
      Uses rules (.combined op conditions) option allowed

variable {t : FilterTarget} {rules : Option FilterRules} {f : ColumnFilter} {e : Expr}
  {option : FilterOption} {allowed : List FilterOption}

theorem mem_of_checkOption (h : t.checkOption allowed option = .ok ()) : option ∈ allowed := by
  unfold FilterTarget.checkOption at h
  split at h
  · next listed => simpa using listed
  · cases h

/-- Each child of a multi filter is compiled under the rules of its position. -/
theorem exists_of_compileChildren {index : Nat} {children : List (Option ColumnFilter)}
    {es : List Expr} (h : compileChildren t rules index children = .ok es) {i : Nat}
    {child : ColumnFilter} (listed : children[i]? = some (some child)) :
    ∃ e, child.compile t (FilterRules.child? rules (index + i)) = .ok e := by
  induction children generalizing index i es with
  | nil => cases listed
  | cons first rest ih =>
      cases first with
      | none =>
          cases i with
          | zero => cases listed
          | succ i =>
              have found := @ih (index + 1) es h i listed
              rwa [Nat.add_assoc, Nat.add_comm 1 i] at found
      | some c =>
          obtain ⟨e, he, h⟩ := bind_ok_iff.1 h
          obtain ⟨others, hothers, -⟩ := bind_ok_iff.1 h
          cases i with
          | zero =>
              cases listed
              exact ⟨e, he⟩
          | succ i =>
              have found := ih hothers listed
              rwa [Nat.add_assoc, Nat.add_comm 1 i] at found

theorem exists_of_compileAll {conditions : List ColumnFilter} {es : List Expr}
    (h : compileAll t rules conditions = .ok es) {c : ColumnFilter} (listed : c ∈ conditions) :
    ∃ e, c.compile t rules = .ok e := by
  induction conditions generalizing es with
  | nil => cases listed
  | cons first rest ih =>
      obtain ⟨e, he, h⟩ := bind_ok_iff.1 h
      obtain ⟨others, hothers, -⟩ := bind_ok_iff.1 h
      rcases List.mem_cons.1 listed with rfl | listed
      · exact ⟨e, he⟩
      · exact ih hothers listed

/-- A filter is compiled only if the rules of every condition in it allow its operator. -/
theorem Uses.mem_allowed (uses : f.Uses rules option allowed)
    (compiled : f.compile t rules = .ok e) :
    option ∈ allowed := by
  induction uses generalizing e with
  | text rules f =>
      obtain ⟨⟨⟩, checked, -⟩ := bind_ok_iff.1 compiled
      exact mem_of_checkOption checked
  | number rules f =>
      obtain ⟨⟨⟩, checked, -⟩ := bind_ok_iff.1 compiled
      exact mem_of_checkOption checked
  | date rules f =>
      obtain ⟨⟨⟩, checked, -⟩ := bind_ok_iff.1 compiled
      exact mem_of_checkOption checked
  | child listed _ ih =>
      obtain ⟨es, hes, -⟩ := map_ok_iff.1 compiled
      obtain ⟨e, he⟩ := exists_of_compileChildren hes listed
      rw [Nat.zero_add] at he
      exact ih he
  | condition listed _ ih =>
      obtain ⟨es, hes, -⟩ := map_ok_iff.1 compiled
      obtain ⟨e, he⟩ := exists_of_compileAll hes listed
      exact ih he

end ColumnFilter

/-! ## Advanced filters -/

/-- The operator of a condition, with those that are allowed by the rules it is compiled under. -/
inductive AdvancedCondition.Uses (rules : Option FilterRules) :
    AdvancedCondition → FilterOption → List FilterOption → Prop where
  | text (option : TextOption) (filter : Option String) :
      Uses rules (.text option filter) option.toFilterOption
        ((rules.bind FilterRules.textRules?).getD {}).options
  | object (option : TextOption) (filter : Option String) :
      Uses rules (.object option filter) option.toFilterOption
        ((rules.bind FilterRules.textRules?).getD {}).options
  | number (option : ScalarOption) (filter : Option Decimal) :
      Uses rules (.number option filter) option.toFilterOption
        ((rules.bind FilterRules.numberRules?).getD {}).options
  | date (option : ScalarOption) (filter : Option Date) :
      Uses rules (.date option filter) option.toFilterOption
        ((rules.bind FilterRules.dateRules?).getD {}).options
  | dateString (option : ScalarOption) (filter : Option Date) :
      Uses rules (.dateString option filter) option.toFilterOption
        ((rules.bind FilterRules.dateRules?).getD {}).options

namespace FilterRules

mutual

def withOptions (options : List FilterOption) : FilterRules → FilterRules
  | text rules => text { rules with options }
  | number rules => number { rules with options }
  | date rules => date { rules with options }
  | set form => set form
  | multi children => multi (childrenWithOptions options children)

def childrenWithOptions (options : List FilterOption) : List FilterRules → List FilterRules
  | [] => []
  | rules :: rest => rules.withOptions options :: childrenWithOptions options rest

end

variable {α : Type} {own : FilterRules → Option α} {change : α → α} {options : List FilterOption}

mutual

/-- What is found in rules with other operators is what was found before, with the change. -/
theorem findRules_withOptions
    (step : ∀ rules : FilterRules, (∀ children, rules ≠ multi children) →
      own (rules.withOptions options) = (own rules).map change) :
    ∀ rules : FilterRules,
      findRules own (rules.withOptions options) = (findRules own rules).map change
  | text rules => step (text rules) fun _ h => by cases h
  | number rules => step (number rules) fun _ h => by cases h
  | date rules => step (date rules) fun _ h => by cases h
  | set form => step (set form) fun _ h => by cases h
  | multi children => findChildRules_withOptions step children

theorem findChildRules_withOptions
    (step : ∀ rules : FilterRules, (∀ children, rules ≠ multi children) →
      own (rules.withOptions options) = (own rules).map change) :
    ∀ children : List FilterRules,
      findChildRules own (childrenWithOptions options children) =
        (findChildRules own children).map change
  | [] => rfl
  | rules :: rest => by
      rw [childrenWithOptions, findChildRules, findChildRules,
        findRules_withOptions step rules]
      cases findRules own rules with
      | none => exact findChildRules_withOptions step rest
      | some a => rfl

end

theorem textRules?_withOptions (rules : FilterRules) :
    (rules.withOptions options).textRules? = rules.textRules?.map ({ · with options }) :=
  findRules_withOptions (fun rules _ => by cases rules <;> rfl) rules

theorem numberRules?_withOptions (rules : FilterRules) :
    (rules.withOptions options).numberRules? = rules.numberRules?.map ({ · with options }) :=
  findRules_withOptions (fun rules _ => by cases rules <;> rfl) rules

theorem dateRules?_withOptions (rules : FilterRules) :
    (rules.withOptions options).dateRules? = rules.dateRules?.map ({ · with options }) :=
  findRules_withOptions (fun rules _ => by cases rules <;> rfl) rules

end FilterRules

namespace FilterContext

variable {c : FilterContext} {options : List FilterOption}

def Uses (c : FilterContext) (filter : AdvancedFilter) (option : FilterOption)
    (allowed : List FilterOption) : Prop :=
  ∃ leaf ∈ filter.conditions, leaf.2.Uses (c.rules leaf.1) option allowed

def withOptions (c : FilterContext) (options : List FilterOption) : FilterContext :=
  { c with rules := fun field => (c.rules field).map (FilterRules.withOptions options) }

theorem bind_withOptions (options : List FilterOption) {α : Type}
    {find : FilterRules → Option α} {change : α → α}
    (found : ∀ rules : FilterRules, find (rules.withOptions options) = (find rules).map change)
    (rules : Option FilterRules) :
    (rules.map (FilterRules.withOptions options)).bind find = (rules.bind find).map change := by
  cases rules with
  | none => rfl
  | some rules => exact found rules

theorem compile_withOptions (t : FilterTarget) (rules : Option FilterRules)
    (condition : AdvancedCondition) :
    condition.compile t (rules.map (FilterRules.withOptions options)) =
      condition.compile t rules := by
  have texts := bind_withOptions options FilterRules.textRules?_withOptions rules
  have numbers := bind_withOptions options FilterRules.numberRules?_withOptions rules
  have dates := bind_withOptions options FilterRules.dateRules?_withOptions rules
  -- Where rules are found, only their operators differ, and none of the predicates reads these.
  have dated (option : ScalarOption) (filter : Option Date) :
      AdvancedCondition.compileDate t (rules.map (FilterRules.withOptions options)) option filter =
        AdvancedCondition.compileDate t rules option filter := by
    unfold AdvancedCondition.compileDate
    rw [dates]
    cases rules.bind FilterRules.dateRules? <;> rfl
  cases condition with
  | text option filter =>
      simp only [AdvancedCondition.compile, texts]
      cases rules.bind FilterRules.textRules? <;> rfl
  | object option filter =>
      simp only [AdvancedCondition.compile, texts]
      cases rules.bind FilterRules.textRules? <;> rfl
  | number option filter =>
      simp only [AdvancedCondition.compile, numbers]
      cases rules.bind FilterRules.numberRules? <;> rfl
  | date option filter => exact dated option filter
  | dateString option filter => exact dated option filter
  | boolean option => rfl

mutual

/-- An advanced filter is compiled to the same predicate whatever operators are allowed. -/
theorem compileAdvanced_withOptions (c : FilterContext) (options : List FilterOption) :
    ∀ filter : AdvancedFilter,
      (c.withOptions options).compileAdvanced filter = c.compileAdvanced filter
  | .column id condition => compile_withOptions (c.columnTarget id) (c.rules id) condition
  | .join op conditions => by
      rw [compileAdvanced, compileAdvanced, compileAllAdvanced_withOptions c options conditions]

theorem compileAllAdvanced_withOptions (c : FilterContext) (options : List FilterOption) :
    ∀ filters : List AdvancedFilter,
      (c.withOptions options).compileAllAdvanced filters = c.compileAllAdvanced filters
  | [] => rfl
  | f :: fs => by
      rw [compileAllAdvanced, compileAllAdvanced, compileAdvanced_withOptions c options f,
        compileAllAdvanced_withOptions c options fs]

end

end FilterContext

end GridSql
