import GridSql.Proofs.Grid.GeneratedNames
import GridSql.Proofs.Grid.Reported

/-!
# Rejection and the data

Most of a request is judged without a look at the rows. What they decide on is which
columns a pivot generates, and a filter on a generated column is compiled only if there is
the column. So two sources that differ in their rows refuse the same requests with the same
errors, but for the faults of filters whose columns only one of them generates.
-/

namespace GridSql

theorem FailsFirst.error_iff {α : Type} {x : Except QueryError α} {faults : List QueryError}
    {e : QueryError} (h : FailsFirst x faults) :
    x = .error e ↔ faults.head? = some e := by
  unfold FailsFirst at h
  cases x <;> cases faults <;> simp_all [errorOf, eq_comm]

namespace Grid

variable {g : Grid} {r : Request} {rows : List Row} {e : QueryError} {filters : LevelFilters}
  {pivot : PivotContext}

def withRows (g : Grid) (rows : List Row) : Grid :=
  { g with source := { g.source with rows } }

/-! ## What the rows have no part in -/

theorem levelFilters_withRows (g : Grid) (r : Request) (rows : List Row) :
    (g.withRows rows).levelFilters r = g.levelFilters r :=
  rfl

def pivotFilters (g : Grid) (r : Request) : ColumnFilters :=
  match g.recognized r with
  | some (.columns entries) => entries.filter fun entry => g.namesPivotColumn r entry.1
  | _ => []

/-- All faults of a filter on a generated column, in which its aggregate has no part. -/
def pivotFaults (g : Grid) (entry : String × ColumnFilter) : List QueryError :=
  let field := valueField entry.1 g.settings.pivot.separator
  entry.2.faults { g.filterContext.columnTarget field with label := s!"filterModel.{entry.1}" }
    (g.columns.rulesFor field)

/-- The first fault of the filters on generated columns, where these are the named ones. -/
def firstFault? (g : Grid) (r : Request) (names : List String) : Option QueryError :=
  (((g.pivotFilters r).filter fun entry => entry.1 ∈ names).flatMap g.pivotFaults).head?

theorem firstFault?_withRows (g : Grid) (r : Request) (rows : List Row) (names : List String) :
    (g.withRows rows).firstFault? r names = g.firstFault? r names :=
  rfl

def generatedNames (g : Grid) (r : Request) : List String :=
  ((g.pivotContext r).toOption.map (·.resultFields)).getD []

/-! ## Steps that do not fail on a valid request -/

/-- The functions of the value columns are registered once the level has its filters. -/
theorem exists_function (h : g.levelFilters r = .ok filters) {c : ColumnRef}
    (hc : c ∈ r.valueCols) :
    ∃ name f, AggregateRegistry.functionName c = .ok name ∧
      ∀ e, g.aggregates.apply name e = .ok (AggregateFn.apply f e) := by
  obtain ⟨known, valid, -⟩ := levelFilters_ok h
  obtain ⟨name, hname⟩ := exists_aggFunc valid hc
  have registered : g.aggregates.contains name = true := by
    have all := List.find?_eq_none.1 known name (List.mem_filterMap.2 ⟨c, hc, hname⟩)
    simpa using all
  obtain ⟨f, hf⟩ := Option.isSome_iff_exists.1 registered
  refine ⟨name, f, by rw [AggregateRegistry.functionName, hname], fun e => ?_⟩
  rw [AggregateRegistry.apply, hf]

theorem columnsOf_isOk (h : g.levelFilters r = .ok filters) (combination : List PivotPair) :
    ∃ columns, PivotContext.columnsOf g.aggregates g.settings.pivot.separator r.valueCols
      combination = .ok columns := by
  refine mapM_isOk fun c hc => ?_
  obtain ⟨name, f, hname, apply⟩ := exists_function h hc
  exact ⟨_, bind_ok_iff.2 ⟨name, hname, bind_ok_iff.2 ⟨_, apply _, rfl⟩⟩⟩

/-- Generated columns are only refused for the data that they come from. -/
theorem isOfData_of_pivotContext (h : g.levelFilters r = .ok filters)
    (hpivot : g.pivotContext r = .error e) :
    e.IsOfData := by
  unfold pivotContext at hpivot
  split at hpivot
  · rcases bind_error_iff.1 hpivot with hpivot | ⟨values, -, hpivot⟩
    · exact isOfData_of_pivotValues hpivot
    rcases bind_error_iff.1 hpivot with hpivot | ⟨-, -, hpivot⟩
    · exact isOfData_of_checkCount hpivot
    obtain ⟨columns, made⟩ := mapM_isOk fun combination _ => columnsOf_isOk h combination
    rcases bind_error_iff.1 hpivot with hpivot | ⟨_, -, hpivot⟩
    · rw [made] at hpivot
      cases hpivot
    · cases hpivot
  · cases hpivot

theorem ofRequest_isOk (h : g.levelFilters r = .ok filters) (projection : List String)
    (childCount : Option String) :
    ∃ level, GroupingPlan.ofRequest r g.aggregates projection childCount = .ok level := by
  obtain ⟨items, hitems⟩ :
      ∃ items, GroupingPlan.valueItems g.aggregates r.valueCols = .ok items := by
    refine mapM_isOk fun c hc => ?_
    obtain ⟨name, f, hname, apply⟩ := exists_function h hc
    exact ⟨_, bind_ok_iff.2 ⟨_, bind_ok_iff.2 ⟨name, hname, apply _⟩, rfl⟩⟩
  unfold GroupingPlan.ofRequest
  split
  · split
    · exact ⟨_, rfl⟩
    · exact ⟨_, bind_ok_iff.2 ⟨items, hitems, rfl⟩⟩
  · exact ⟨_, rfl⟩

/-! ## Filters on generated columns -/

theorem pivotFilters_of_not_pivoting (h : r.isPivoting = false) : g.pivotFilters r = [] := by
  unfold pivotFilters
  split
  · simp [namesPivotColumn_of_not_pivoting h]
  · rfl

/-- What a level leaves for later are the filters on generated columns. -/
theorem pivots_eq_pivotFilters (h : g.levelFilters r = .ok filters) :
    filters.pivots = g.pivotFilters r := by
  obtain ⟨-, -, model, keys, hmodel, -, restricts⟩ := levelFilters_ok h
  have recognized := recognized_of_ok hmodel
  -- Only requests that do not pivot have levels with other uses of their filters.
  have noPivots (level : g.levelFiltering r model ≠ .direct) : g.pivotFilters r = [] := by
    refine pivotFilters_of_not_pivoting ?_
    by_contra pivoting
    exact level (levelFiltering_of_pivoting (by simpa using pivoting) model)
  cases restricts with
  | suppressed level => exact (noPivots (by simp [level])).symm
  | aggregated level => exact (noPivots (by simp [level])).symm
  | unfiltered => rw [pivotFilters, recognized]
  | advanced => rw [pivotFilters, recognized]
  | columns => rw [pivotFilters, recognized]

theorem generatedFaults_of_mem (separator : pivot.separator = g.settings.pivot.separator)
    {entry : String × ColumnFilter} (h : entry.1 ∈ pivot.resultFields) :
    g.generatedFaults pivot entry = g.pivotFaults entry := by
  obtain ⟨aggregate, haggregate⟩ := exists_expression h
  rw [generatedFaults, haggregate, separator]
  exact ColumnFilter.faults_expr
    { g.filterContext.columnTarget _ with label := s!"filterModel.{entry.1}" } aggregate _ entry.2

theorem flatMap_generatedFaults (separator : pivot.separator = g.settings.pivot.separator)
    (entries : ColumnFilters) :
    entries.flatMap (g.generatedFaults pivot) =
      (entries.filter fun entry => entry.1 ∈ pivot.resultFields).flatMap g.pivotFaults := by
  induction entries with
  | nil => rfl
  | cons entry rest ih =>
      rw [List.flatMap_cons, ih]
      by_cases generated : entry.1 ∈ pivot.resultFields
      · rw [List.filter_cons_of_pos (by simpa using generated), List.flatMap_cons,
          generatedFaults_of_mem separator generated]
      · have noAggregate : pivot.expression? entry.1 = none := by
          simpa [← PivotContext.expression?_isSome_iff] using generated
        rw [List.filter_cons_of_neg (by simpa using generated), generatedFaults, noAggregate]
        rfl

theorem query_error_iff_pivotPredicates (h : g.levelFilters r = .ok filters)
    (hpivot : g.pivotContext r = .ok pivot) :
    g.query r = .error e ↔ g.pivotPredicates pivot filters.pivots = .error e := by
  obtain ⟨level, hlevel⟩ := ofRequest_isOk h g.columns.fields (g.childCountName? r)
  have planned : g.plan r = .error e ↔ g.pivotPredicates pivot filters.pivots = .error e := by
    simp [plan, bind_error_iff, h, hpivot, hlevel]
  rw [← planned, query, bind_error_iff]
  simp

/--
Once its columns are generated, a request is refused exactly for the first fault of the
filters on them.
-/
theorem query_error_iff (h : g.levelFilters r = .ok filters)
    (hpivot : g.pivotContext r = .ok pivot) :
    g.query r = .error e ↔ g.firstFault? r (g.generatedNames r) = some e := by
  have names : g.generatedNames r = pivot.resultFields := by
    rw [generatedNames, hpivot]
    rfl
  rw [query_error_iff_pivotPredicates h hpivot, names, firstFault?, ← pivots_eq_pivotFilters h]
  by_cases pivoting : r.isPivoting = true
  · rw [← flatMap_generatedFaults (pivotContext_separator pivoting hpivot)]
    exact (g.failsFirst_pivotPredicates pivot filters.pivots).error_iff
  · rw [pivots_eq_pivotFilters h, pivotFilters_of_not_pivoting (by simpa using pivoting)]
    simp [pivotPredicates]

theorem exists_pivotContext (h : g.levelFilters r = .ok filters)
    (noData : ∀ e, g.query r = .error e → ¬ e.IsOfData) :
    ∃ pivot, g.pivotContext r = .ok pivot := by
  cases hpivot : g.pivotContext r with
  | ok pivot => exact ⟨pivot, rfl⟩
  | error e =>
      have failed : g.query r = .error e := by
        simp [query, plan, bind_error_iff, h, hpivot]
      exact absurd (isOfData_of_pivotContext h hpivot) (noData e failed)

/--
Where no error comes from the data, two sources refuse a request for the same errors exactly
if it is refused without a look at the rows, or if the first fault of the filters on those
generated columns that there are is the same over both.
-/
theorem query_error_withRows_iff (own : ∀ e, g.query r = .error e → ¬ e.IsOfData)
    (other : ∀ e, (g.withRows rows).query r = .error e → ¬ e.IsOfData) :
    (∀ e, g.query r = .error e ↔ (g.withRows rows).query r = .error e) ↔
      (∃ e, g.levelFilters r = .error e) ∨
        g.firstFault? r (g.generatedNames r) =
          g.firstFault? r ((g.withRows rows).generatedNames r) := by
  cases h : g.levelFilters r with
  | error e =>
      have refused (g : Grid) (h : g.levelFilters r = .error e) : g.query r = .error e := by
        simp [query, plan, bind_error_iff, h]
      have same : (g.withRows rows).query r = .error e :=
        refused _ ((levelFilters_withRows g r rows).trans h)
      simp [refused g h, same]
  | ok filters =>
      have h' : (g.withRows rows).levelFilters r = .ok filters := h
      obtain ⟨pivot, hpivot⟩ := exists_pivotContext h own
      obtain ⟨pivot', hpivot'⟩ := exists_pivotContext h' other
      have failed (e : QueryError) := query_error_iff (e := e) h hpivot
      have failed' (e : QueryError) := query_error_iff (e := e) h' hpivot'
      have accepted : ¬ ∃ e, (Except.ok filters : Except QueryError LevelFilters) = .error e := by
        rintro ⟨e, he⟩
        cases he
      rw [or_iff_right accepted, Option.ext_iff]
      simp only [failed, failed', firstFault?_withRows]

/-! ## Wages without a bound -/

def dayJobs : Grid where
  source := ⟨"jobs", [⟨"kind", .text⟩, ⟨"wage", .integer⟩],
    [[("kind", .text "day"), ("wage", .int 5)]]⟩
  table := { table := "jobs" }
  isValid := Settings.fault?_default

def unboundedWages : Request where
  pivotMode := true
  pivotCols := [{ field := "kind" }]
  valueCols := [{ field := "wage", aggFunc := some "sum" }]
  filterModel := some (.object [("day_wage",
    .object [("filterType", .string "number"), ("type", .string "greaterThan")])])

def missingBound : QueryError :=
  .single "filterModel.day_wage.filter" "is required for 'greaterThan'"

set_option maxRecDepth 20000 in
theorem levelFilters_unboundedWages :
    dayJobs.levelFilters unboundedWages =
      .ok { rows := [], pivots := [("day_wage", .number ⟨.greaterThan, none, none⟩)] } := by
  cbv

theorem generatedNames_dayJobs :
    ∃ pivot, dayJobs.pivotContext unboundedWages = .ok pivot ∧ pivot.resultFields = ["day_wage"] :=
  exists_of_toOption_map (by decide +kernel)

theorem generatedNames_noJobs :
    ∃ pivot, (dayJobs.withRows []).pivotContext unboundedWages = .ok pivot ∧
      pivot.resultFields = [] :=
  exists_of_toOption_map (by decide +kernel)

set_option maxRecDepth 20000 in
theorem firstFault?_unboundedWages :
    dayJobs.firstFault? unboundedWages ["day_wage"] = some missingBound := by
  cbv

theorem query_unboundedWages (e : QueryError) :
    (dayJobs.query unboundedWages = .error e ↔ e = missingBound) ∧
      (dayJobs.withRows []).query unboundedWages ≠ .error e := by
  obtain ⟨pivot, hpivot, names⟩ := generatedNames_dayJobs
  obtain ⟨pivot', hpivot', names'⟩ := generatedNames_noJobs
  have found : dayJobs.generatedNames unboundedWages = ["day_wage"] := by
    rw [generatedNames, hpivot]
    exact names
  have none : (dayJobs.withRows []).generatedNames unboundedWages = [] := by
    rw [generatedNames, hpivot']
    exact names'
  constructor
  · rw [query_error_iff levelFilters_unboundedWages hpivot, found, firstFault?_unboundedWages,
      Option.some.injEq, eq_comm]
  · intro h
    have filters := (levelFilters_withRows dayJobs unboundedWages []).trans
      levelFilters_unboundedWages
    rw [query_error_iff filters hpivot', none, firstFault?] at h
    simp at h

/-- The two sources judge the request differently, as one of them has no wages of days. -/
theorem query_error_withRows_dayJobs :
    (∀ e, dayJobs.query unboundedWages = .error e → ¬ e.IsOfData) ∧
      (∀ e, (dayJobs.withRows []).query unboundedWages = .error e → ¬ e.IsOfData) ∧
        dayJobs.firstFault? unboundedWages (dayJobs.generatedNames unboundedWages) ≠
          dayJobs.firstFault? unboundedWages
            ((dayJobs.withRows []).generatedNames unboundedWages) := by
  have own (e : QueryError) (h : dayJobs.query unboundedWages = .error e) : ¬ e.IsOfData := by
    rw [(query_unboundedWages e).1.1 h]
    exact id
  have other (e : QueryError) (h : (dayJobs.withRows []).query unboundedWages = .error e) :
      ¬ e.IsOfData :=
    absurd h (query_unboundedWages e).2
  refine ⟨own, other, fun same => ?_⟩
  have alike := (query_error_withRows_iff own other).2 (.inr same) missingBound
  obtain ⟨found, none⟩ := query_unboundedWages missingBound
  exact none (alike.1 (found.2 rfl))

/-- A request that is refused over one source may be accepted over another. -/
theorem not_query_error_withRows :
    ¬ ∀ (g : Grid) (r : Request) (rows : List Row),
      (∀ e, g.query r = .error e → ¬ e.IsOfData) →
        (∀ e, (g.withRows rows).query r = .error e → ¬ e.IsOfData) →
          ∀ e, g.query r = .error e → (g.withRows rows).query r = .error e := by
  intro sameErrors
  obtain ⟨found, none⟩ := query_unboundedWages missingBound
  refine none (sameErrors dayJobs unboundedWages [] (fun e h => ?_) (fun e h => ?_) _ (found.2 rfl))
  · rw [(query_unboundedWages e).1.1 h]
    exact id
  · exact absurd h (query_unboundedWages e).2

end Grid

end GridSql
