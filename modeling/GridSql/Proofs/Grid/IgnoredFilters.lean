import GridSql.Proofs.Grid.GeneratedFilters

/-!
# Filters that look like those of generated columns

A filter of a request that pivots is taken for that of a generated column if the field of a
value column stands behind the last separator of its name. A filter that is not taken for
one restricts the rows, and figures are made of those rows only that pass it. One that is,
though no generated column has its name, is ignored: the column of the table whose name
looks so cannot be filtered.
-/

namespace GridSql

namespace Grid

variable {g : Grid} {r : Request} {p : RequestPlan} {name : String} {entries : ColumnFilters}
  {entry : String × ColumnFilter}

/-! ## Filters that restrict the rows -/

/-- Whether the rows of an answer are made of some rows of the source. -/
def MadeOf (g : Grid) (r : Request) (p : RequestPlan) (kept : List Row) (block : RowBlock) :
    Prop :=
  ∃ having_ result, g.source.resolveOption none (Table.whereClause p.having) = .ok having_ ∧
    g.source.output { g.wholeQuery r p with window := r.window? } (having_.map (·.expr)) kept =
      .ok result ∧
    block.rows = result.rowObjects (!g.settings.grid.suppressDotNotation)

theorem madeOf_of_rows (accepted : g.plan r = .ok p) {block : RowBlock}
    (h : g.rows r = .ok block) :
    ∃ kept, g.selected r = .ok kept ∧ g.MadeOf r p kept block := by
  obtain ⟨p', result, hp', hrun, shown⟩ := answers_iff.1 ⟨block, h, rfl⟩
  cases Except.ok.inj (accepted.symm.trans hp')
  rw [assemble_eq_window] at hrun
  obtain ⟨-, kept, having_, hkept, hhaving, houtput⟩ := Table.runWithin_ok_iff.1 hrun
  exact ⟨kept, selected_ok_iff.2 ⟨p, accepted, hkept⟩, having_, result, hhaving, houtput, shown⟩

theorem holds_of_selected (accepted : g.plan r = .ok p) {kept : List Row}
    (h : g.selected r = .ok kept) {row : Row} (hrow : row ∈ kept) :
    row ∈ g.source.rows ∧ ∀ e ∈ p.rows, g.source.Holds none row e := by
  obtain ⟨passes, rfl, holds⟩ := Table.matchedWithin_eq ((selected_iff_matched accepted).1 h)
  obtain ⟨hmem, pass⟩ := List.mem_filter.1 hrow
  exact ⟨hmem, (holds row hmem).1 pass⟩

/--
Whether a filter restricts the rows: its predicate is in the WHERE clause, and true on every
row that the answer is made of.
-/
def FiltersRows (g : Grid) (r : Request) (p : RequestPlan) (entry : String × ColumnFilter) :
    Prop :=
  ∃ e, g.filterContext.compileColumn entry.1 entry.2 = .ok e ∧ e ∈ p.rows ∧
    ∀ block, g.rows r = .ok block → ∃ kept, g.MadeOf r p kept block ∧
      ∀ row ∈ kept, row ∈ g.source.rows ∧ g.source.Holds none row e

theorem exists_predicate_of_own (pivoting : r.isPivoting = true) (accepted : g.plan r = .ok p)
    (recognized : g.filterModel r = .ok (some (.columns entries))) (hentry : entry ∈ entries)
    (own : g.namesPivotColumn r entry.1 = false) :
    ∃ e ∈ p.rows, g.filterContext.compileColumn entry.1 entry.2 = .ok e := by
  obtain ⟨filters, -, hfilters, -, -, -, -, -, hrows⟩ := plan_ok accepted
  obtain ⟨-, -, model, keys, hmodel, -, restricts⟩ := levelFilters_ok hfilters
  cases Except.ok.inj (recognized.symm.trans hmodel)
  obtain ⟨predicates, compiled, rfl⟩ := restricts.of_pivoting pivoting
  obtain ⟨e, he, hcompiled⟩ :=
    exists_of_mem_left compiled (List.mem_filter.2 ⟨hentry, by simp [own]⟩)
  exact ⟨e, hrows ▸ List.mem_append_right _ he, hcompiled⟩

/-! ## Filters that are ignored -/

/-- Whether a request is answered as if it had no filter of a name. -/
def IgnoresFilter (g : Grid) (r : Request) (name : String) : Prop :=
  g.rows (r.withoutFilters [name]) = g.rows r ∧ g.count (r.withoutFilters [name]) = g.count r

/-- A filter on a generated column that there is not makes no condition. -/
theorem pivotPredicates_filter {pivot : PivotContext} (keep : String → Bool)
    (missing : ∀ name, keep name = false → pivot.expression? name = none)
    (pivots : ColumnFilters) :
    g.pivotPredicates pivot (pivots.filter (keep ·.1)) = g.pivotPredicates pivot pivots := by
  induction pivots with
  | nil => rfl
  | cons entry rest ih =>
      obtain ⟨name, f⟩ := entry
      cases kept : keep name with
      | true =>
          rw [List.filter_cons_of_pos (by simpa using kept), pivotPredicates, pivotPredicates, ih]
      | false =>
          rw [List.filter_cons_of_neg (by simp [kept]), ih, pivotPredicates, missing name kept]

/-- Nothing of a plan comes from a filter that is taken for one of a missing column. -/
theorem plan_withoutFilters_of_missing (pivoting : r.isPivoting = true)
    (accepted : g.plan r = .ok p)
    (recognized : g.filterModel r = .ok (some (.columns entries)))
    (named : g.namesPivotColumn r name = true) (missing : name ∉ p.pivot.resultFields) :
    g.plan (r.withoutFilters [name]) = .ok p := by
  obtain ⟨filters, level, hfilters, hpivot, hlevel, hhaving, hselect, hgroupBy, hrows⟩ :=
    plan_ok accepted
  have dropped (other : String) (h : decide (other ∉ [name]) = false) :
      p.pivot.expression? other = none := by
    have same : other = name := by simpa using h
    rw [same, ← Option.not_isSome_iff_eq_none, PivotContext.expression?_isSome_iff]
    exact missing
  have conditions := pivotPredicates_filter (g := g) (· ∉ [name]) dropped filters.pivots
  unfold plan
  rw [levelFilters_withoutFilters pivoting recognized (by simpa using named) hfilters]
  refine bind_ok_iff.2 ⟨_, rfl, bind_ok_iff.2 ⟨p.pivot, hpivot, bind_ok_iff.2 ⟨level, hlevel,
    bind_ok_iff.2 ⟨p.having, conditions.trans hhaving, ?_⟩⟩⟩⟩
  change _ = Except.ok (RequestPlan.mk p.select p.groupBy p.rows p.having p.pivot)
  rw [hselect, hgroupBy, hrows]
  rfl

theorem ignoresFilter_of_plan (accepted : g.plan r = .ok p)
    (same : g.plan (r.withoutFilters [name]) = .ok p) :
    g.IgnoresFilter r name := by
  constructor
  · unfold rows query
    rw [same, accepted]
    rfl
  · unfold count
    rw [same, accepted]
    rfl

/--
A filter on a column that is not generated restricts the rows of a request that pivots,
unless the field of a value column stands behind the last separator of its name: then it is
ignored.
-/
theorem filtersRows_of_pivoting (pivoting : r.isPivoting = true) (accepted : g.plan r = .ok p)
    (recognized : g.filterModel r = .ok (some (.columns entries))) (hentry : entry ∈ entries)
    (missing : entry.1 ∉ p.pivot.resultFields) :
    (¬ r.EndsInValueField g.settings.pivot.separator entry.1 → g.FiltersRows r p entry) ∧
      (r.EndsInValueField g.settings.pivot.separator entry.1 → g.IgnoresFilter r entry.1) := by
  rw [← namesPivotColumn_iff (g := g) pivoting]
  constructor
  · intro own
    obtain ⟨e, he, compiled⟩ :=
      exists_predicate_of_own pivoting accepted recognized hentry (by simpa using own)
    refine ⟨e, compiled, he, fun block hblock => ?_⟩
    obtain ⟨kept, hkept, made⟩ := madeOf_of_rows accepted hblock
    refine ⟨kept, made, fun row hrow => ?_⟩
    obtain ⟨hmem, holds⟩ := holds_of_selected accepted hkept hrow
    exact ⟨hmem, holds e he⟩
  · intro named
    exact ignoresFilter_of_plan accepted
      (plan_withoutFilters_of_missing pivoting accepted recognized named missing)

/-! ## Net wages -/

/-- A grid of wages before and after taxes, one of which is not known after them. -/
def taxedWages : Grid where
  source := ⟨"jobs", [⟨"kind", .text⟩, ⟨"wage", .integer⟩, ⟨"net_wage", .integer⟩],
    [[("kind", .text "day"), ("wage", .int 5), ("net_wage", .int 4)],
      [("kind", .text "day"), ("wage", .int 7), ("net_wage", .null)]]⟩
  table := { table := "jobs" }
  isValid := Settings.fault?_default

def knownPayload : Json :=
  .object [("filterType", .string "number"), ("type", .string "notBlank")]

def knownNetWages : Request where
  pivotMode := true
  pivotCols := [{ field := "kind" }]
  valueCols := [{ field := "wage", aggFunc := some "sum" }]
  filterModel := some (.object [("wage", knownPayload), ("net_wage", knownPayload)])

def netWagesKnown : ColumnFilters :=
  [("wage", .number ⟨.notBlank, none, none⟩), ("net_wage", .number ⟨.notBlank, none, none⟩)]

def knownNetWagesPlan : RequestPlan :=
  let shown : Expr := .fn "SUM" [wageOfDay]
  { wagesPlan [] shown with rows := [.isNull (.cast (.col "wage") .decimal) true], having := [] }

set_option maxRecDepth 20000 in
theorem filterModel_knownNetWages :
    taxedWages.filterModel knownNetWages = .ok (some (.columns netWagesKnown)) := by
  cbv

set_option maxRecDepth 20000 in
theorem plan_knownNetWages :
    taxedWages.plan knownNetWages = .ok knownNetWagesPlan := by
  have days : taxedWages.source.distinctValues "kind" = .ok [.text "day"] := by
    cbv
  have values : taxedWages.pivotValues 1 [{ field := "kind" }] =
      .ok [("kind", [.text "day"])] := by
    simp only [pivotValues, days]
    rfl
  have context : taxedWages.pivotContext knownNetWages = .ok knownNetWagesPlan.pivot := by
    simp only [pivotContext, knownNetWages, values, knownNetWagesPlan, wagesPlan]
    rw [← columnName_dayWage]
    rfl
  have filters : taxedWages.levelFilters knownNetWages =
      .ok
        { rows := knownNetWagesPlan.rows
          pivots := [("net_wage", .number ⟨.notBlank, none, none⟩)] } := by
    cbv
  simp only [plan, filters, context]
  cbv

set_option maxRecDepth 20000 in
theorem selected_knownNetWages :
    taxedWages.selected knownNetWages = .ok taxedWages.source.rows := by
  rw [selected, plan_knownNetWages]
  cbv

/-- The filter on the wage restricts the rows, the one on the net wage is ignored. -/
theorem filtersRows_of_pivoting_netWages :
    knownNetWages.isPivoting = true ∧ taxedWages.plan knownNetWages = .ok knownNetWagesPlan ∧
      taxedWages.filterModel knownNetWages = .ok (some (.columns netWagesKnown)) ∧
      taxedWages.FiltersRows knownNetWages knownNetWagesPlan
        ("wage", .number ⟨.notBlank, none, none⟩) ∧
      taxedWages.IgnoresFilter knownNetWages "net_wage" := by
  have applies {entry : String × ColumnFilter} (hentry : entry ∈ netWagesKnown)
      (missing : entry.1 ∉ knownNetWagesPlan.pivot.resultFields) :=
    filtersRows_of_pivoting rfl plan_knownNetWages filterModel_knownNetWages hentry missing
  have own : taxedWages.namesPivotColumn knownNetWages "wage" = false := by
    cbv
  have named : taxedWages.namesPivotColumn knownNetWages "net_wage" = true := by
    cbv
  refine ⟨rfl, plan_knownNetWages, filterModel_knownNetWages, ?_, ?_⟩
  · refine (applies List.mem_cons_self (by decide)).1 ?_
    rw [← namesPivotColumn_iff rfl, own]
    decide
  · exact (applies (List.mem_cons_of_mem _ List.mem_cons_self) (by decide)).2
      ((namesPivotColumn_iff rfl).1 named)

/-- A figure may be made of rows that a filter on a column of the table was to leave out. -/
theorem not_filtersRows_of_pivoting :
    ¬ ∀ (g : Grid) (r : Request) (p : RequestPlan) (entries : ColumnFilters) (kept : List Row),
      r.isPivoting = true → g.plan r = .ok p →
        g.filterModel r = .ok (some (.columns entries)) → g.selected r = .ok kept →
          ∀ entry ∈ entries, (g.source.typeOf? entry.1).isSome = true →
            g.columns.knows entry.1 = true → entry.1 ∉ p.pivot.resultFields →
              ∃ e, g.filterContext.compileColumn entry.1 entry.2 = .ok e ∧
                ∀ row ∈ kept, g.source.Holds none row e := by
  intro allPass
  obtain ⟨e, compiled, holds⟩ := allPass _ _ _ _ _ rfl plan_knownNetWages
    filterModel_knownNetWages selected_knownNetWages ("net_wage", .number ⟨.notBlank, none, none⟩)
    (List.mem_cons_of_mem _ List.mem_cons_self) rfl rfl (by decide)
  let unknown : Row := [("kind", .text "day"), ("wage", .int 7), ("net_wage", .null)]
  obtain ⟨f, bound, passed⟩ := holds unknown (List.mem_cons_of_mem _ List.mem_cons_self)
  cases Except.ok.inj (compiled.symm.trans rfl)
  cases Except.ok.inj (bound.symm.trans rfl)
  have failed : taxedWages.source.eval (.row unknown)
      (.isNull (.cast (.col "net_wage") .decimal) true) = .ok (.bool false) := by
    cbv
  cases passed.symm.trans failed

end Grid

end GridSql
