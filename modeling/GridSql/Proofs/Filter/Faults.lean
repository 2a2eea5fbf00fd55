import GridSql.Filter.Compile
import GridSql.Proofs.Result

/-!
# Faults of filters

Every part of a filter can have a fault of its own: its operator, each bound and each member
of a set, and so on down to the conditions of combined filters, the children of multi filters
and the nodes of advanced ones. Compilation goes through the parts in order and stops at the
first fault, so of all the faults of a filter it reports one.
-/

namespace GridSql

def errorOf {α : Type} (x : Except QueryError α) : List QueryError :=
  match x with
  | .ok _ => []
  | .error e => [e]

/-- Whether a step fails with the first of some faults, and succeeds if there is none. -/
def FailsFirst {α : Type} (x : Except QueryError α) (faults : List QueryError) : Prop :=
  errorOf x = faults.take 1

namespace FailsFirst

variable {α β : Type} {x : Except QueryError α} {faults more : List QueryError}

theorem ok (a : α) : FailsFirst (.ok a) [] :=
  rfl

theorem error (e : QueryError) : FailsFirst (α := α) (.error e) [e] :=
  rfl

theorem self (x : Except QueryError α) : FailsFirst x (errorOf x) := by
  cases x <;> rfl

/-- The faults of a further step count only if there are none before. -/
theorem bind {f : α → Except QueryError β} (hx : FailsFirst x faults)
    (hf : ∀ a, x = .ok a → FailsFirst (f a) more) :
    FailsFirst (x >>= f) (faults ++ more) := by
  unfold FailsFirst at *
  cases x with
  | error e =>
      cases faults with
      | nil => cases hx
      | cons fault faults => exact hx
  | ok a =>
      cases faults with
      | nil => exact hf a rfl
      | cons fault faults => cases hx

theorem map {f : α → β} (hx : FailsFirst x faults) :
    FailsFirst (x.map f) faults := by
  unfold FailsFirst at *
  cases x <;> exact hx

theorem bind_ok {f : α → β} (hx : FailsFirst x faults) :
    FailsFirst (x >>= fun a => .ok (f a)) faults := by
  rw [← List.append_nil faults]
  exact bind hx fun a _ => ok (f a)

theorem mapM {f : α → Except QueryError β} {faultsOf : α → List QueryError}
    (hf : ∀ a, FailsFirst (f a) (faultsOf a)) (l : List α) :
    FailsFirst (l.mapM f) (l.flatMap faultsOf) := by
  induction l with
  | nil => exact ok _
  | cons a l ih =>
      rw [List.mapM_cons, List.flatMap_cons]
      exact bind (hf a) fun b _ => bind_ok ih

end FailsFirst

/-! ## Faults of the parts -/

namespace FilterTarget

variable (t : FilterTarget)

def missing (option : FilterOption) (key : String) (given : Bool) : List QueryError :=
  if given then [] else [.single (t.field key) s!"is required for '{option.name}'"]

def misfit (v : Value) (key : String) : List QueryError :=
  match v.coerce t.type with
  | .ok _ => []
  | .error e => [.refused (t.field key) e.message v.toJson]

/-- A text is never a fault in a column of texts, nor in one of which nothing is known. -/
theorem misfit_text {t : FilterTarget} (h : t.type = .text ∨ t.type = .other) (s key : String) :
    t.misfit (.text s) key = [] := by
  unfold misfit
  rcases h with h | h <;> rw [h] <;> rfl

theorem failsFirst_need {α : Type} (option : FilterOption) (key : String) (x : Option α) :
    FailsFirst (t.need option key x) (t.missing option key x.isSome) := by
  cases x <;> rfl

theorem failsFirst_synchronize (v : Value) (key : String) :
    FailsFirst (t.synchronize v key) (t.misfit v key) := by
  unfold synchronize GridSql.synchronize misfit
  cases v.coerce t.type <;> rfl

end FilterTarget

namespace Predicate

variable (t : FilterTarget)

def textFaults (option : FilterOption) (filter : Option String) (rules : TextRules) :
    List QueryError :=
  if rules.matcher.isSome then []
  else
    match option with
    | .empty | .blank | .notBlank => []
    | .equals | .notEqual | .contains | .notContains | .startsWith | .endsWith =>
        t.missing option "filter" filter.isSome
    | option => [.unrecognized "text filter option" option.name]

def scalarFaults (option : FilterOption) (low high : Bool) : List QueryError :=
  let lowKey := if t.type.isTemporal then "dateFrom" else "filter"
  let highKey := if t.type.isTemporal then "dateTo" else "filterTo"
  match option with
  | .empty | .blank | .notBlank => []
  | .equals | .notEqual | .lessThan | .lessThanOrEqual | .greaterThan | .greaterThanOrEqual =>
      t.missing option lowKey low
  | .inRange => t.missing option lowKey low ++ t.missing option highKey high
  | option => [.unrecognized "scalar filter option" option.name]

def boundFaults (rules : DateRules) (key : String) : Option Timestamp → List QueryError
  | none => []
  | some dt => errorOf (t.checkDate rules key dt.date) ++ t.misfit (.timestamp dt) key

theorem failsFirst_text (option : FilterOption) (filter : Option String) (rules : TextRules) :
    FailsFirst (text t option filter rules) (textFaults t option filter rules) := by
  unfold text textFaults
  cases rules.matcher with
  | some f => exact .ok _
  | none =>
      have needed (f : Expr → Expr) (form : String → Expr) :
          FailsFirst ((t.need option "filter" (filter.map form)).map f)
            (t.missing option "filter" filter.isSome) := by
        rw [← Option.isSome_map (f := form)]
        exact .map (t.failsFirst_need _ _ _)
      cases option <;> first | exact needed _ _ | exact .ok _ | exact .error _

theorem failsFirst_scalar (option : FilterOption) (e : Expr) (low high : Option Expr)
    (rules : ScalarRules) :
    FailsFirst (scalar t option e low high rules)
      (scalarFaults t option low.isSome high.isSome) := by
  have compared (key : String) (f : Expr → Expr) :
      FailsFirst ((t.need option key low).map f) (t.missing option key low.isSome) :=
    .map (t.failsFirst_need _ _ _)
  unfold scalar scalarFaults
  cases option
  case inRange =>
    exact .bind (t.failsFirst_need _ _ _) fun l _ => .bind_ok (t.failsFirst_need _ _ _)
  all_goals first | exact compared _ _ | exact .ok _ | exact .error _

theorem failsFirst_dateBound (rules : DateRules) (key : String) (dt : Option Timestamp) :
    FailsFirst (dateBound t rules key dt) (boundFaults t rules key dt) := by
  cases dt with
  | none => exact .ok _
  | some dt =>
      exact .bind (.self _) fun _ _ => .map (t.failsFirst_synchronize _ _)

theorem isSome_of_dateBound {rules : DateRules} {key : String} {dt : Option Timestamp}
    {bound : Option Comparable} (h : dateBound t rules key dt = .ok bound) :
    bound.isSome = dt.isSome := by
  cases dt with
  | none =>
      cases h
      rfl
  | some dt =>
      obtain ⟨-, -, h⟩ := bind_ok_iff.1 h
      obtain ⟨c, -, rfl⟩ := map_ok_iff.1 h
      rfl

end Predicate

/-! ## Faults of column filters -/

mutual

def ColumnFilter.faults (t : FilterTarget) (rules : Option FilterRules) :
    ColumnFilter → List QueryError
  | .text f =>
      let r := (rules.bind FilterRules.textRules?).getD {}
      errorOf (t.checkOption r.options f.option) ++ Predicate.textFaults t f.option f.filter r
  | .number f =>
      let r := (rules.bind FilterRules.numberRules?).getD {}
      errorOf (t.checkOption r.options f.option) ++
        Predicate.scalarFaults t f.option f.filter.isSome f.filterTo.isSome
  | .date f =>
      let r := (rules.bind FilterRules.dateRules?).getD {}
      errorOf (t.checkOption r.options f.option) ++
        Predicate.boundFaults t r "dateFrom" f.dateFrom ++
          Predicate.boundFaults t r "dateTo" f.dateTo ++
            Predicate.scalarFaults t f.option f.dateFrom.isSome f.dateTo.isSome
  | .set values => (values.filterMap id).flatMap fun s => t.misfit (.text s) "values"
  | .multi children => ColumnFilter.childrenFaults t rules 0 children
  | .combined _ conditions => ColumnFilter.allFaults t rules conditions

def ColumnFilter.childrenFaults (t : FilterTarget) (rules : Option FilterRules) (index : Nat) :
    List (Option ColumnFilter) → List QueryError
  | [] => []
  | none :: rest => ColumnFilter.childrenFaults t rules (index + 1) rest
  | some child :: rest =>
      child.faults t (FilterRules.child? rules index) ++
        ColumnFilter.childrenFaults t rules (index + 1) rest

def ColumnFilter.allFaults (t : FilterTarget) (rules : Option FilterRules) :
    List ColumnFilter → List QueryError
  | [] => []
  | f :: fs => f.faults t rules ++ ColumnFilter.allFaults t rules fs

end

namespace ColumnFilter

variable (t : FilterTarget)

theorem failsFirst_number (f : NumberFilter) (rules : ScalarRules) :
    FailsFirst (Predicate.number t f rules) (errorOf (t.checkOption rules.options f.option) ++
      Predicate.scalarFaults t f.option f.filter.isSome f.filterTo.isSome) := by
  refine .bind (.self _) fun _ _ => ?_
  have scalar := Predicate.failsFirst_scalar t f.option t.expr.widen
    (f.filter.map fun d => .literal (.decimal d)) (f.filterTo.map fun d => .literal (.decimal d))
    rules
  simpa using scalar

theorem failsFirst_date (f : DateFilter) (rules : DateRules) :
    FailsFirst (Predicate.date t f rules) (errorOf (t.checkOption rules.options f.option) ++
      Predicate.boundFaults t rules "dateFrom" f.dateFrom ++
        Predicate.boundFaults t rules "dateTo" f.dateTo ++
          Predicate.scalarFaults t f.option f.dateFrom.isSome f.dateTo.isSome) := by
  rw [List.append_assoc, List.append_assoc]
  refine .bind (.self _) fun _ _ => ?_
  refine .bind (Predicate.failsFirst_dateBound t _ _ _) fun low hlow => ?_
  refine .bind (Predicate.failsFirst_dateBound t _ _ _) fun high hhigh => ?_
  rw [← Predicate.isSome_of_dateBound t hlow, ← Predicate.isSome_of_dateBound t hhigh]
  have scalar := Predicate.failsFirst_scalar t f.option
    (((high.orElse fun _ => low).map (·.expr)).getD t.expr)
    (low.map fun c => .literal c.value) (high.map fun c => .literal c.value) rules.toScalarRules
  simpa using scalar

theorem failsFirst_set (values : List (Option String)) (form : TextForm) :
    FailsFirst (Predicate.set t values form)
      ((values.filterMap id).flatMap fun s => t.misfit (.text s) "values") := by
  have members : FailsFirst (Predicate.setMembers t form (values.filterMap id))
      ((values.filterMap id).flatMap fun s => t.misfit (.text s) "values") := by
    have synced := FailsFirst.mapM (fun s => t.failsFirst_synchronize (.text s) "values")
      (values.filterMap id)
    unfold Predicate.setMembers
    split
    · next htype =>
        rw [List.flatMap_eq_nil_iff.2 fun s _ => FilterTarget.misfit_text (.inl htype) s "values"]
        exact .ok _
    · next htype =>
        rw [List.flatMap_eq_nil_iff.2 fun s _ => FilterTarget.misfit_text (.inr htype) s "values"]
        exact .ok _
    · exact .bind_ok synced
  unfold Predicate.set
  split
  · next hempty =>
      rw [List.isEmpty_iff.1 hempty]
      exact .ok _
  · dsimp only
    split
    · next hempty =>
        rw [List.isEmpty_iff.1 hempty]
        exact .ok _
    · exact .map members

mutual

theorem failsFirst_compile :
    ∀ (rules : Option FilterRules) (f : ColumnFilter),
      FailsFirst (f.compile t rules) (f.faults t rules)
  | _, .text _ => .bind (.self _) fun _ _ => Predicate.failsFirst_text t _ _ _
  | _, .number _ => failsFirst_number t _ _
  | _, .date _ => failsFirst_date t _ _
  | _, .set _ => failsFirst_set t _ _
  | rules, .multi children => .map (failsFirst_compileChildren rules 0 children)
  | rules, .combined _ conditions => .map (failsFirst_compileAll rules conditions)

theorem failsFirst_compileChildren :
    ∀ (rules : Option FilterRules) (index : Nat) (children : List (Option ColumnFilter)),
      FailsFirst (compileChildren t rules index children) (childrenFaults t rules index children)
  | _, _, [] => .ok _
  | rules, index, none :: rest => failsFirst_compileChildren rules (index + 1) rest
  | rules, index, some child :: rest =>
      .bind (failsFirst_compile _ child) fun _ _ =>
        .bind_ok (failsFirst_compileChildren rules (index + 1) rest)

theorem failsFirst_compileAll :
    ∀ (rules : Option FilterRules) (conditions : List ColumnFilter),
      FailsFirst (compileAll t rules conditions) (allFaults t rules conditions)
  | _, [] => .ok _
  | rules, f :: fs =>
      .bind (failsFirst_compile rules f) fun _ _ => .bind_ok (failsFirst_compileAll rules fs)

end

mutual

theorem faults_expr (e : Expr) :
    ∀ (rules : Option FilterRules) (f : ColumnFilter),
      f.faults { t with expr := e } rules = f.faults t rules
  | _, .text _ => rfl
  | _, .number _ => rfl
  | _, .date f => by
      obtain ⟨option, low, high⟩ := f
      cases low <;> cases high <;> rfl
  | _, .set _ => rfl
  | rules, .multi children => childrenFaults_expr e rules 0 children
  | rules, .combined _ conditions => allFaults_expr e rules conditions

theorem childrenFaults_expr (e : Expr) :
    ∀ (rules : Option FilterRules) (index : Nat) (children : List (Option ColumnFilter)),
      childrenFaults { t with expr := e } rules index children =
        childrenFaults t rules index children
  | _, _, [] => rfl
  | rules, index, none :: rest => childrenFaults_expr e rules (index + 1) rest
  | rules, index, some child :: rest =>
      congrArg₂ _ (faults_expr e _ child) (childrenFaults_expr e rules (index + 1) rest)

theorem allFaults_expr (e : Expr) :
    ∀ (rules : Option FilterRules) (conditions : List ColumnFilter),
      allFaults { t with expr := e } rules conditions = allFaults t rules conditions
  | _, [] => rfl
  | rules, f :: fs => congrArg₂ _ (faults_expr e rules f) (allFaults_expr e rules fs)

end

end ColumnFilter

/-! ## Faults of advanced filters -/

namespace AdvancedCondition

def dateFaults (t : FilterTarget) (rules : DateRules) : Option Date → List QueryError
  | none => []
  | some d => errorOf (t.checkDate rules "filter" d) ++ t.misfit (.date d) "filter"

def faults (t : FilterTarget) (rules : Option FilterRules) :
    AdvancedCondition → List QueryError
  | text option filter | object option filter =>
      Predicate.textFaults t option.toFilterOption filter
        ((rules.bind FilterRules.textRules?).getD {})
  | number option filter => Predicate.scalarFaults t option.toFilterOption filter.isSome false
  | date option filter | dateString option filter =>
      dateFaults t ((rules.bind FilterRules.dateRules?).getD {}) filter ++
        Predicate.scalarFaults t option.toFilterOption filter.isSome false
  | boolean _ => []

theorem failsFirst_compileDate (t : FilterTarget) (rules : Option FilterRules)
    (option : ScalarOption) (filter : Option Date) :
    FailsFirst (compileDate t rules option filter)
      (dateFaults t ((rules.bind FilterRules.dateRules?).getD {}) filter ++
        Predicate.scalarFaults t option.toFilterOption filter.isSome false) := by
  unfold compileDate
  cases filter with
  | none => exact Predicate.failsFirst_scalar t _ _ none none _
  | some d =>
      rw [dateFaults, List.append_assoc]
      refine .bind (.self _) fun _ _ => .bind (t.failsFirst_synchronize _ _) fun c _ => ?_
      exact Predicate.failsFirst_scalar t _ _ (some _) none _

theorem failsFirst_compile (t : FilterTarget) (rules : Option FilterRules)
    (condition : AdvancedCondition) :
    FailsFirst (condition.compile t rules) (condition.faults t rules) := by
  cases condition with
  | text option filter => exact Predicate.failsFirst_text t _ _ _
  | object option filter => exact Predicate.failsFirst_text t _ _ _
  | number option filter =>
      rw [compile, faults, ← Option.isSome_map (f := fun d => Expr.literal (.decimal d))]
      exact Predicate.failsFirst_scalar t _ _ _ none _
  | date option filter => exact failsFirst_compileDate t rules option filter
  | dateString option filter => exact failsFirst_compileDate t rules option filter
  | boolean option => exact .ok _

end AdvancedCondition

namespace FilterContext

variable (c : FilterContext)

def columnFaults (field : String) (f : ColumnFilter) : List QueryError :=
  f.faults (c.columnTarget field) (c.rules field)

theorem failsFirst_compileColumn (field : String) (f : ColumnFilter) :
    FailsFirst (c.compileColumn field f) (c.columnFaults field f) :=
  ColumnFilter.failsFirst_compile _ _ f

mutual

def advancedFaults : AdvancedFilter → List QueryError
  | .column id condition => condition.faults (c.columnTarget id) (c.rules id)
  | .join _ conditions => allAdvancedFaults conditions

def allAdvancedFaults : List AdvancedFilter → List QueryError
  | [] => []
  | f :: fs => advancedFaults f ++ allAdvancedFaults fs

end

mutual

theorem failsFirst_compileAdvanced :
    ∀ f : AdvancedFilter, FailsFirst (c.compileAdvanced f) (c.advancedFaults f)
  | .column _ condition => AdvancedCondition.failsFirst_compile _ _ condition
  | .join _ conditions => .map (failsFirst_compileAllAdvanced conditions)

theorem failsFirst_compileAllAdvanced :
    ∀ fs : List AdvancedFilter, FailsFirst (c.compileAllAdvanced fs) (c.allAdvancedFaults fs)
  | [] => .ok _
  | f :: fs =>
      .bind (failsFirst_compileAdvanced f) fun _ _ =>
        .bind_ok (failsFirst_compileAllAdvanced fs)

end

end FilterContext

end GridSql
