import GridSql.Filter.Compile
import GridSql.Proofs.Table.Joins

/-!
# What an advanced filter means

A condition of an advanced filter is compiled to the predicate of the column filter that has
its operator and its literal. A join is true exactly if all, or some, of what it joins is,
by induction over the tree.
-/

namespace GridSql

namespace AdvancedFilter

mutual

def conditions : AdvancedFilter → List (String × AdvancedCondition)
  | column id condition => [(id, condition)]
  | join _ fs => allConditions fs

def allConditions : List AdvancedFilter → List (String × AdvancedCondition)
  | [] => []
  | f :: fs => f.conditions ++ allConditions fs

end

/-- Whether a tree of conditions passes, given which conditions do. -/
inductive Passes (holds : String → AdvancedCondition → Prop) : AdvancedFilter → Prop where
  | column {id : String} {condition : AdvancedCondition} (h : holds id condition) :
      Passes holds (.column id condition)
  | all {fs : List AdvancedFilter} (h : ∀ f ∈ fs, Passes holds f) : Passes holds (.join .and fs)
  | any {fs : List AdvancedFilter} {f : AdvancedFilter} (hf : f ∈ fs) (h : Passes holds f) :
      Passes holds (.join .or fs)

variable {holds : String → AdvancedCondition → Prop} {fs : List AdvancedFilter}

theorem passes_column_iff {id : String} {condition : AdvancedCondition} :
    Passes holds (.column id condition) ↔ holds id condition := by
  constructor
  · rintro ⟨h⟩
    exact h
  · exact .column

theorem passes_and_iff :
    Passes holds (.join .and fs) ↔ ∀ f ∈ fs, Passes holds f := by
  constructor
  · rintro (_ | h)
    exact h
  · exact .all

theorem passes_or_iff :
    Passes holds (.join .or fs) ↔ ∃ f ∈ fs, Passes holds f := by
  constructor
  · rintro (_ | _ | ⟨hf, h⟩)
    exact ⟨_, hf, h⟩
  · rintro ⟨f, hf, h⟩
    exact .any hf h

end AdvancedFilter

/-! ## Conditions -/

/--
Whether a filter of a column of the given type has the operator and the literal of a
condition, and the rules of the column allow the operator. A day is a literal of columns of
dates and date-times only, and stands for its midnight.
-/
inductive AdvancedCondition.Matches (type : ScalarType) (rules : Option FilterRules) :
    AdvancedCondition → ColumnFilter → Prop where
  | text {option : TextOption} {filter filterTo : Option String}
      (allowed : option.toFilterOption ∈ ((rules.bind FilterRules.textRules?).getD {}).options) :
      Matches type rules (.text option filter) (.text ⟨option.toFilterOption, filter, filterTo⟩)
  | object {option : TextOption} {filter filterTo : Option String}
      (allowed : option.toFilterOption ∈ ((rules.bind FilterRules.textRules?).getD {}).options) :
      Matches type rules (.object option filter) (.text ⟨option.toFilterOption, filter, filterTo⟩)
  | number {option : ScalarOption} {filter filterTo : Option Decimal}
      (allowed : option.toFilterOption ∈ ((rules.bind FilterRules.numberRules?).getD {}).options) :
      Matches type rules (.number option filter)
        (.number ⟨option.toFilterOption, filter, filterTo⟩)
  | date {option : ScalarOption} {filter : Option Date} (temporal : type.isTemporal = true)
      (allowed : option.toFilterOption ∈ ((rules.bind FilterRules.dateRules?).getD {}).options) :
      Matches type rules (.date option filter)
        (.date ⟨option.toFilterOption, filter.map Timestamp.atMidnight, none⟩)
  | dateString {option : ScalarOption} {filter : Option Date} (temporal : type.isTemporal = true)
      (allowed : option.toFilterOption ∈ ((rules.bind FilterRules.dateRules?).getD {}).options) :
      Matches type rules (.dateString option filter)
        (.date ⟨option.toFilterOption, filter.map Timestamp.atMidnight, none⟩)

variable {target : FilterTarget} {rules : Option FilterRules} {p : Expr}

theorem FilterTarget.checkOption_of_mem {allowed : List FilterOption} {option : FilterOption}
    (h : option ∈ allowed) :
    target.checkOption allowed option = .ok () := by
  simp [checkOption, h]

/-- The operators of an advanced filter look at one literal only. -/
theorem Predicate.scalar_high (option : ScalarOption) (e : Expr) (low high : Option Expr)
    (rules : ScalarRules) :
    scalar target option.toFilterOption e low high rules =
      scalar target option.toFilterOption e low none rules := by
  cases option <;> rfl

/-- On a column of dates or date-times a day and its midnight are the same literal. -/
theorem FilterTarget.synchronize_atMidnight (temporal : target.type.isTemporal = true) {d : Date}
    {key : String} {c : Comparable} (h : target.synchronize (.date d) key = .ok c)
    (key' : String) :
    target.synchronize (.timestamp (.atMidnight d)) key' = .ok c ∧ c.expr = target.expr := by
  unfold synchronize GridSql.synchronize at h ⊢
  cases htype : target.type with
  | date =>
      rw [htype] at h
      cases h
      exact ⟨rfl, rfl⟩
  | timestamp =>
      rw [htype] at h
      cases h
      exact ⟨rfl, rfl⟩
  | _ =>
      rw [htype] at temporal
      exact absurd temporal (by decide)

theorem FilterTarget.checkDate_key {rules : DateRules} {key key' : String} {d : Date}
    (h : target.checkDate rules key d = .ok ()) :
    target.checkDate rules key' d = .ok () := by
  unfold checkDate at h ⊢
  split at h
  · rfl
  · cases h

namespace AdvancedCondition

theorem compileDate_eq {option : ScalarOption} {filter : Option Date}
    (temporal : target.type.isTemporal = true)
    (allowed : option.toFilterOption ∈ ((rules.bind FilterRules.dateRules?).getD {}).options)
    (h : compileDate target rules option filter = .ok p) :
    Predicate.date target ⟨option.toFilterOption, filter.map Timestamp.atMidnight, none⟩
      ((rules.bind FilterRules.dateRules?).getD {}) = .ok p := by
  refine bind_ok_iff.2 ⟨(), FilterTarget.checkOption_of_mem allowed, ?_⟩
  cases filter with
  | none => exact h
  | some d =>
      obtain ⟨⟨⟩, hcheck, h⟩ := bind_ok_iff.1 h
      obtain ⟨c, hc, h⟩ := bind_ok_iff.1 h
      obtain ⟨hc', hexpr⟩ := FilterTarget.synchronize_atMidnight temporal hc "dateFrom"
      have low : Predicate.dateBound target ((rules.bind FilterRules.dateRules?).getD {}) "dateFrom"
          (some (.atMidnight d)) = .ok (some c) :=
        bind_ok_iff.2 ⟨(), FilterTarget.checkDate_key hcheck, map_ok_iff.2 ⟨c, hc', rfl⟩⟩
      exact bind_ok_iff.2 ⟨some c, low, bind_ok_iff.2 ⟨none, rfl, h⟩⟩

theorem compile_of_matches {condition : AdvancedCondition} {filter : ColumnFilter}
    (h : Matches target.type rules condition filter)
    (compiled : condition.compile target rules = .ok p) :
    filter.compile target rules = .ok p := by
  cases h with
  | text allowed =>
      exact bind_ok_iff.2 ⟨(), FilterTarget.checkOption_of_mem allowed, compiled⟩
  | object allowed =>
      exact bind_ok_iff.2 ⟨(), FilterTarget.checkOption_of_mem allowed, compiled⟩
  | number allowed =>
      refine bind_ok_iff.2 ⟨(), FilterTarget.checkOption_of_mem allowed, ?_⟩
      exact (Predicate.scalar_high _ _ _ _ _).trans compiled
  | date temporal allowed => exact compileDate_eq temporal allowed compiled
  | dateString temporal allowed => exact compileDate_eq temporal allowed compiled

end AdvancedCondition

/-! ## Trees -/

namespace FilterContext

variable {c : FilterContext} {f : AdvancedFilter} {e : Expr}

mutual

theorem exists_of_compileAdvanced :
    ∀ {f : AdvancedFilter} {e : Expr}, c.compileAdvanced f = .ok e →
      ∀ leaf ∈ f.conditions, ∃ p, leaf.2.compile (c.columnTarget leaf.1) (c.rules leaf.1) = .ok p
  | .column id condition, e, h => by
      simpa [AdvancedFilter.conditions] using ⟨e, h⟩
  | .join op fs, e, h => by
      obtain ⟨es, hes, -⟩ := map_ok_iff.1 h
      exact exists_of_compileAllAdvanced hes

theorem exists_of_compileAllAdvanced :
    ∀ {fs : List AdvancedFilter} {es : List Expr}, c.compileAllAdvanced fs = .ok es →
      ∀ leaf ∈ AdvancedFilter.allConditions fs,
        ∃ p, leaf.2.compile (c.columnTarget leaf.1) (c.rules leaf.1) = .ok p
  | [], es, _ => by simp [AdvancedFilter.allConditions]
  | f :: fs, es, h => by
      obtain ⟨e, he, h⟩ := bind_ok_iff.1 h
      obtain ⟨others, hothers, -⟩ := bind_ok_iff.1 h
      rw [AdvancedFilter.allConditions, List.forall_mem_append]
      exact ⟨exists_of_compileAdvanced he, exists_of_compileAllAdvanced hothers⟩

end

/-- Whether the predicate of a condition is true on a row. -/
def ConditionHolds (c : FilterContext) (t : Table) (row : Row) (id : String)
    (condition : AdvancedCondition) : Prop :=
  ∃ p, condition.compile (c.columnTarget id) (c.rules id) = .ok p ∧ t.Holds none row p

variable {t : Table} {row : Row}

mutual

/-- The predicate of a tree is true exactly on the rows that the tree passes. -/
theorem holds_compileAdvanced_iff :
    ∀ {f : AdvancedFilter} {e : Expr}, c.compileAdvanced f = .ok e → t.Evaluates none row e →
      (t.Holds none row e ↔ f.Passes (c.ConditionHolds t row))
  | .column id condition, e, h, _ => by
      rw [compileAdvanced] at h
      simp [AdvancedFilter.passes_column_iff, ConditionHolds, h]
  | .join .and fs, e, h, whole => by
      obtain ⟨es, hes, rfl⟩ := map_ok_iff.1 h
      rw [AdvancedFilter.passes_and_iff]
      exact Table.holds_conjunction_iff whole (holds_compileAllAdvanced_iff hes)
  | .join .or fs, e, h, whole => by
      obtain ⟨es, hes, rfl⟩ := map_ok_iff.1 h
      rw [AdvancedFilter.passes_or_iff]
      exact Table.holds_disjunction_iff whole (holds_compileAllAdvanced_iff hes)

theorem holds_compileAllAdvanced_iff :
    ∀ {fs : List AdvancedFilter} {es : List Expr}, c.compileAllAdvanced fs = .ok es →
      List.Forall₂ (fun f e => t.Evaluates none row e →
        (t.Holds none row e ↔ f.Passes (c.ConditionHolds t row))) fs es
  | [], es, h => by
      cases h
      exact .nil
  | f :: fs, es, h => by
      obtain ⟨e, he, h⟩ := bind_ok_iff.1 h
      obtain ⟨others, hothers, h⟩ := bind_ok_iff.1 h
      cases h
      exact .cons (holds_compileAdvanced_iff he) (holds_compileAllAdvanced_iff hothers)

end

/--
The conditions of an advanced filter are compiled to what the column filters are that they
match. A row on which the filter can be evaluated passes it exactly if it passes all, or
some, of what a join joins; so all rows pass an empty AND and none an empty OR.
-/
theorem compileAdvanced_means (compiled : c.compileAdvanced f = .ok e) :
    (∀ leaf ∈ f.conditions, ∀ filter,
      AdvancedCondition.Matches (c.type leaf.1) (c.rules leaf.1) leaf.2 filter →
        ∃ p, leaf.2.compile (c.columnTarget leaf.1) (c.rules leaf.1) = .ok p ∧
          c.compileColumn leaf.1 filter = .ok p) ∧
    ∀ (t : Table) (row : Row), t.Evaluates none row e →
      (t.Holds none row e ↔ f.Passes (c.ConditionHolds t row)) := by
  refine ⟨fun leaf hleaf filter matched => ?_, fun t row => holds_compileAdvanced_iff compiled⟩
  obtain ⟨p, hp⟩ := exists_of_compileAdvanced compiled leaf hleaf
  exact ⟨p, hp, AdvancedCondition.compile_of_matches matched hp⟩

/-- A table of people with the day on which they were hired, and no rules. -/
def staff : FilterContext where
  rules := fun _ => none
  type := fun field => if field = "hired" then .date else .text

/-- Hired before a day and with a name, or anyone at all. -/
def hiredEarly : AdvancedFilter :=
  .join .or
    [.join .and [.column "hired" (.date .lessThan (some ⟨2021, 1, 1, by decide⟩)),
      .column "name" (.object .notBlank none)],
     .join .and []]

theorem compileAdvanced_means_hiredEarly :
    ∃ e, staff.compileAdvanced hiredEarly = .ok e ∧
      (∀ leaf ∈ hiredEarly.conditions, ∀ filter,
        AdvancedCondition.Matches (staff.type leaf.1) (staff.rules leaf.1) leaf.2 filter →
          ∃ p, leaf.2.compile (staff.columnTarget leaf.1) (staff.rules leaf.1) = .ok p ∧
            staff.compileColumn leaf.1 filter = .ok p) ∧
      ∀ (t : Table) (row : Row), t.Evaluates none row e →
        (t.Holds none row e ↔ hiredEarly.Passes (staff.ConditionHolds t row)) :=
  ⟨_, rfl, compileAdvanced_means rfl⟩

end FilterContext

end GridSql
