import GridSql.Proofs.Grid.GroupAggregates
import GridSql.Proofs.Grid.Shown

/-!
# Groups under filters on aggregates

A filter on aggregates is decided for each row. Rows of one group of the requested level
share what its own rows and the aggregates down to its depth come to, but not the
aggregates of deeper groups. So a group that passes on its own keeps all of its rows and its
figures, while one that only has passing groups inside is shown with the figures of these.
-/

namespace GridSql

def Request.unfiltered (r : Request) : Request :=
  { r with filterModel := none }

namespace Grid

variable {g : Grid} {r : Request} {entries : ColumnFilters} {p : RequestPlan} {x y : Row}

/-! ## Rows of one group -/

theorem agrees_fieldsTo {depth depth' : Nat} (h : depth ≤ depth')
    (agrees : Row.agrees (r.fieldsTo depth') x y = true) :
    Row.agrees (r.fieldsTo depth) x y = true := by
  unfold Row.agrees Request.fieldsTo at *
  rw [List.all_eq_true] at *
  intro field hfield
  obtain ⟨c, hc, rfl⟩ := List.mem_map.1 hfield
  exact agrees _ (List.mem_map_of_mem (List.take_subset_take_left _ h hc))

theorem groupOf_eq (level : g.FiltersGroups r entries) (hx : x ∈ g.source.rows)
    (hy : y ∈ g.source.rows) {depth depth' : Nat} (h : depth ≤ depth')
    (agrees : Row.agrees (r.fieldsTo depth') x y = true) :
    g.groupOf r y depth = g.groupOf r x depth := by
  have exact {row : Row} (hrow : row ∈ g.source.rows) :
      Table.HasContents (Table.cells (r.fieldsTo depth) row) :=
    hasContents_fieldsTo level.noDoubles depth hrow
  have same := (Table.agrees_iff (exact hx) (exact hy)).1 (agrees_fieldsTo h agrees)
  refine List.filter_congr fun row hrow => ?_
  rw [Bool.eq_iff_iff, Table.agrees_iff (exact hy) (exact hrow),
    Table.agrees_iff (exact hx) (exact hrow), same]

/-- Whether a group of the requested level passes on its own, without the groups inside. -/
def PassesAsGroup (g : Grid) (r : Request) (entries : ColumnFilters) (x : Row) : Prop :=
  g.PassesByRow r entries x ∨
    ∃ depth, 1 ≤ depth ∧ depth ≤ r.groupKeys.length + 1 ∧ g.PassesAtDepth r entries x depth

theorem passesAsGroup_iff (level : g.FiltersGroups r entries) (own : g.AggregatesOwn)
    (hooks : ∀ field, FilterRules.HooksOwn (g.columns.rulesFor field))
    (hx : x ∈ g.source.rows) (hy : y ∈ g.source.rows)
    (agrees : Row.agrees (r.fieldsTo (r.groupKeys.length + 1)) x y = true) :
    g.PassesAsGroup r entries y ↔ g.PassesAsGroup r entries x := by
  have byRow : g.PassesByRow r entries y ↔ g.PassesByRow r entries x := by
    unfold PassesByRow
    rw [groupOf_eq level hx hy le_rfl agrees]
    simp only [rowPasses_iff (hooks _)]
  have atDepth {depth : Nat} (h : depth ≤ r.groupKeys.length + 1) :
      g.PassesAtDepth r entries y depth ↔ g.PassesAtDepth r entries x depth := by
    unfold PassesAtDepth
    rw [groupOf_eq level hx hy h agrees]
    simp only [groupPasses_iff own (hooks _)]
  unfold PassesAsGroup
  rw [byRow]
  refine or_congr Iff.rfl (exists_congr fun depth => ?_)
  exact and_congr_right fun _ => and_congr_right fun h => atDepth h

/-! ## The request without filters -/

theorem plan_unfiltered (level : g.FiltersGroups r entries) (accepted : g.plan r = .ok p)
    {p₀ : RequestPlan} (accepted₀ : g.plan r.unfiltered = .ok p₀) :
    p₀.select = p.select ∧ p₀.pivot = p.pivot ∧
      groupKeyPredicates r g.source.fieldType = .ok p₀.rows := by
  obtain ⟨_, plan, -, hpivot, hplan, -, hselect, -, -⟩ := plan_ok accepted
  obtain ⟨filters, plan₀, hfilters, hpivot₀, hplan₀, -, hselect₀, -, hrows₀⟩ := plan_ok accepted₀
  have samePivot : p₀.pivot = p.pivot := Except.ok.inj (hpivot₀.symm.trans hpivot)
  have samePlan : plan₀ = plan := Except.ok.inj (hplan₀.symm.trans hplan)
  refine ⟨?_, samePivot, ?_⟩
  · rw [hselect, hselect₀, samePivot, samePlan]
    rfl
  · obtain ⟨-, -, model, keys, hmodel, hkeys, restricts⟩ := levelFilters_ok hfilters
    have none : g.filterModel r.unfiltered = .ok none := rfl
    rw [none, Except.ok.injEq] at hmodel
    subst hmodel
    have hidden : g.levelFiltering r.unfiltered .none = .suppressed := by
      have grouping : r.unfiltered.isGrouping = true := level.grouping
      have notPivoting : r.unfiltered.isPivoting = false := level.notPivoting
      simp [levelFiltering, grouping, notPivoting, GridSettings.suppressesGroupFilters,
        level.enabled]
    cases restricts with
    | suppressed => rw [hrows₀]; exact hkeys
    | aggregated level' => rw [hidden] at level'; cases level'
    | unfiltered level' => rw [hidden] at level'; cases level'

/-- The filters of value columns only take rows away from those with the group keys. -/
theorem selected_of_unfiltered (level : g.FiltersGroups r entries) {kept kept₀ : List Row}
    (h : g.selected r = .ok kept) (h₀ : g.selected r.unfiltered = .ok kept₀) :
    (∀ x ∈ kept₀, x ∈ g.source.rows) ∧ ∃ passes : Row → Bool, kept = kept₀.filter passes ∧
      ∀ x ∈ kept₀, (passes x = true ↔ g.PassesByRow r entries x ∨
        ∃ depth, 1 ≤ depth ∧ depth ≤ r.rowGroupCols.length ∧
          g.PassesAtDepth r entries x depth) := by
  obtain ⟨p, accepted, evaluated⟩ := selected_ok_iff.1 h
  obtain ⟨p₀, accepted₀, evaluated₀⟩ := selected_ok_iff.1 h₀
  obtain ⟨-, -, hkeys₀⟩ := plan_unfiltered level accepted accepted₀
  obtain ⟨keys, hkeys, passes, rfl, holds⟩ := kept_of_filtersGroups level accepted evaluated
  obtain ⟨passes₀, rfl, holds₀⟩ := Table.matchedWithin_eq evaluated₀
  rw [hkeys₀, Except.ok.injEq] at hkeys
  subst hkeys
  refine ⟨fun x hx => List.mem_of_mem_filter hx, passes, ?_, fun x hx => ?_⟩
  · rw [List.filter_filter]
    refine List.filter_congr fun x hx => ?_
    rw [Bool.eq_iff_iff, Bool.and_eq_true, holds x hx, holds₀ x hx]
    tauto
  · obtain ⟨hx, hkeys⟩ := List.mem_filter.1 hx
    rw [holds x hx]
    exact and_iff_right ((holds₀ x hx).1 hkeys)

/-! ## Figures of filtered groups -/

/-- The groups of one level are shown by the same objects with and without filters. -/
theorem isGroupRow_unique {p₀ : RequestPlan} (select : p₀.select = p.select)
    (pivot : p₀.pivot = p.pivot) {members : List Row} {object object₀ : RowObject}
    (h : g.IsGroupRow r p members object)
    (h₀ : g.IsGroupRow r.unfiltered p₀ members object₀) :
    object = object₀ := by
  obtain ⟨projected, hprojected, rfl⟩ := h
  obtain ⟨projected₀, hprojected₀, rfl⟩ := h₀
  have same : g.levelQuery r.unfiltered p₀ =
      { g.levelQuery r p with filter := Table.whereClause p₀.rows, groupBy := p₀.groupBy } := by
    unfold levelQuery
    rw [select, pivot]
    rfl
  rw [same] at hprojected₀
  have projection : projected₀ = projected := Except.ok.inj (hprojected₀.symm.trans hprojected)
  rw [select, projection]

theorem mem_unfiltered_of_isGroupRow {kept₀ : List Row} {passes : Row → Bool}
    {p₀ : RequestPlan} {block₀ : RowBlock} (select : p₀.select = p.select)
    (pivot : p₀.pivot = p.pivot)
    (shown₀ : ∃ object ∈ block₀.rows, g.IsGroupRow r.unfiltered p₀
      (kept₀.filter (Row.agrees r.groupFields x)) object)
    {object : RowObject} (shown : g.IsGroupRow r p
      ((kept₀.filter passes).filter (Row.agrees r.groupFields x)) object)
    (all : ∀ y ∈ kept₀, Row.agrees r.groupFields x y = true → passes y = true) :
    object ∈ block₀.rows := by
  have same : (kept₀.filter passes).filter (Row.agrees r.groupFields x) =
      kept₀.filter (Row.agrees r.groupFields x) := by
    rw [List.filter_filter]
    refine List.filter_congr fun y hy => ?_
    rw [Bool.eq_iff_iff, Bool.and_eq_true]
    exact and_iff_left_of_imp (all y hy)
  rw [same] at shown
  obtain ⟨object₀, hobject₀, shown₀⟩ := shown₀
  rw [isGroupRow_unique select pivot shown shown₀]
  exact hobject₀

/--
Every shown group consists of the rows of a group of the level that pass the filters. If all
rows of that group pass, it is shown as it is without filters. They do where the group
passes on its own, so at the last level filters never change the figures of a group.
-/
theorem filteredGroups_of_unfiltered (level : g.FiltersGroups r entries)
    (own : g.AggregatesOwn)
    (hooks : ∀ field, FilterRules.HooksOwn (g.columns.rulesFor field)) (whole : r.IsWhole)
    {block block₀ : RowBlock} (answered : g.rows r = .ok block)
    (unfiltered : g.rows r.unfiltered = .ok block₀) :
    (∃ p kept kept₀, g.plan r = .ok p ∧ g.selected r = .ok kept ∧
      g.selected r.unfiltered = .ok kept₀ ∧
        ∀ object ∈ block.rows, ∃ x ∈ kept,
          g.IsGroupRow r p (kept.filter (Row.agrees r.groupFields x)) object ∧
          ((∀ y ∈ kept₀, Row.agrees r.groupFields x y = true → y ∈ kept) →
            object ∈ block₀.rows) ∧
          (g.PassesAsGroup r entries x →
            ∀ y ∈ kept₀, Row.agrees r.groupFields x y = true → y ∈ kept)) ∧
    (r.groupKeys.length + 1 = r.rowGroupCols.length →
      ∀ object ∈ block.rows, object ∈ block₀.rows) := by
  have exact : ∀ row ∈ g.source.rows, Table.HasContents (Table.cells r.groupFields row) :=
    fun row hrow => hasContents_fieldsTo level.noDoubles _ hrow
  obtain ⟨p, kept, hp, hkept, shown, -⟩ :=
    shownGroups_of_rows whole level.grouping level.notPivoting exact answered
  obtain ⟨p₀, kept₀, hp₀, hkept₀, -, shown₀⟩ :=
    shownGroups_of_rows (r := r.unfiltered) whole level.grouping level.notPivoting exact unfiltered
  obtain ⟨select, pivot, -⟩ := plan_unfiltered level hp hp₀
  obtain ⟨hmem, passes, rfl, holds⟩ := selected_of_unfiltered level hkept hkept₀
  have unchanged {object : RowObject} {x : Row} (hx : x ∈ kept₀.filter passes)
      (hobject : g.IsGroupRow r p
        ((kept₀.filter passes).filter (Row.agrees r.groupFields x)) object)
      (all : ∀ y ∈ kept₀, Row.agrees r.groupFields x y = true → y ∈ kept₀.filter passes) :
      object ∈ block₀.rows :=
    mem_unfiltered_of_isGroupRow select pivot (shown₀ x (List.mem_of_mem_filter hx)) hobject
      fun y hy agrees => List.of_mem_filter (all y hy agrees)
  -- What a group passes on its own by is shared by its rows, so none of them is left out.
  have asGroup {x : Row} (hx : x ∈ kept₀.filter passes) (passing : g.PassesAsGroup r entries x) :
      ∀ y ∈ kept₀, Row.agrees r.groupFields x y = true → y ∈ kept₀.filter passes := by
    intro y hy agrees
    refine List.mem_filter.2 ⟨hy, (holds y hy).2 ?_⟩
    have passing' := (passesAsGroup_iff level own hooks (hmem x (List.mem_of_mem_filter hx))
      (hmem y hy) agrees).2 passing
    have grouping := level.grouping
    simp only [Request.isGrouping, decide_eq_true_eq] at grouping
    refine passing'.imp_right ?_
    rintro ⟨depth, first, last, passes⟩
    exact ⟨depth, first, by omega, passes⟩
  refine ⟨⟨p, _, kept₀, hp, hkept, hkept₀, fun object hobject => ?_⟩, fun last object hobject => ?_⟩
  · obtain ⟨x, hx, hshown⟩ := shown object hobject
    exact ⟨x, hx, hshown, unchanged hx hshown, asGroup hx⟩
  · obtain ⟨x, hx, hshown⟩ := shown object hobject
    refine unchanged hx hshown (asGroup hx ?_)
    rw [PassesAsGroup, last]
    exact (holds x (List.mem_of_mem_filter hx)).1 (List.of_mem_filter hx)

/-! ## Countries with and without a filter -/

def sentCounts (objects : List RowObject) : List (Option String) :=
  objects.map fun object => (Json.lookup "childCount" object).map Json.compact

theorem rows_of_run {result : ResultSet} (planned : g.plan r = .ok p)
    (ran : g.source.run (g.assemble r p) = .ok result) :
    ∃ block, g.rows r = .ok block ∧
      block.rows = result.rowObjects (!g.settings.grid.suppressDotNotation) := by
  have hquery : g.query r = .ok (g.assemble r p, p.pivot) := bind_ok_iff.2 ⟨p, planned, rfl⟩
  exact ⟨_, bind_ok_iff.2 ⟨_, hquery, bind_ok_iff.2 ⟨_, mapError_ok_iff.2 ran, rfl⟩⟩, rfl⟩

theorem rows_thirtyByCountry :
    (∃ block, salesByYear.rows thirtyByCountry = .ok block ∧
      sentCounts block.rows = [some "2"]) ∧
    ∃ block, salesByYear.rows thirtyByCountry.unfiltered = .ok block ∧
      sentCounts block.rows = [some "3"] := by
  constructor
  · obtain ⟨predicate, compiled, planned⟩ := exists_plan_salesByYear
    have answer : ((salesByYear.groupAggregatePredicate thirtyByCountry
        amountIsThirty).toOption.bind fun e =>
          (salesByYear.source.run
            (salesByYear.assemble thirtyByCountry (countriesPlan e))).toOption.map fun result =>
              sentCounts (result.rowObjects true)) = some [some "2"] := by
      decide +kernel
    rw [compiled] at answer
    obtain ⟨result, ran, counts⟩ := exists_of_toOption_map answer
    obtain ⟨block, hblock, hrows⟩ := rows_of_run planned ran
    refine ⟨block, hblock, ?_⟩
    rw [hrows]
    exact counts
  · exact exists_of_toOption_map (by decide +kernel)

/-- With years inside, the country is shown by the rows of those years that pass. -/
theorem filteredGroups_of_unfiltered_sales :
    salesByYear.FiltersGroups thirtyByCountry amountIsThirty ∧
      ∃ block block₀, salesByYear.rows thirtyByCountry = .ok block ∧
        salesByYear.rows thirtyByCountry.unfiltered = .ok block₀ ∧
        ∃ (p : RequestPlan) (kept : List Row), ∀ object ∈ block.rows, ∃ x ∈ kept,
          salesByYear.IsGroupRow thirtyByCountry p
            (kept.filter (Row.agrees ["country"] x)) object ∧
          (object ∉ block₀.rows → ¬ salesByYear.PassesAsGroup thirtyByCountry amountIsThirty x) := by
  obtain ⟨⟨block, answered, -⟩, block₀, unfiltered, -⟩ := rows_thirtyByCountry
  have hooks : ∀ field, FilterRules.HooksOwn (salesByYear.columns.rulesFor field) :=
    fun field => FilterRules.hooksOwn_of_none (by simp [salesByYear, ColumnRegistry.rulesFor,
      ColumnRegistry.get?]) (by simp [salesByYear, ColumnRegistry.rulesFor, ColumnRegistry.get?])
  obtain ⟨⟨p, kept, kept₀, -, -, -, shown⟩, -⟩ := filteredGroups_of_unfiltered
    filtersGroups_salesByYear (aggregatesOwn_of_builtin rfl) hooks ⟨rfl, rfl⟩ answered unfiltered
  refine ⟨filtersGroups_salesByYear, block, block₀, answered, unfiltered, p, kept,
    fun object hobject => ?_⟩
  obtain ⟨x, hx, hshown, unchanged, passes⟩ := shown object hobject
  exact ⟨x, hx, hshown, fun changed passing => changed (unchanged (passes passing))⟩

/-- A filter on the amounts of countries changes the figures of the country it leaves. -/
theorem not_filteredGroups_of_unfiltered :
    ¬ ∀ (g : Grid) (r : Request) (entries : ColumnFilters) (block block₀ : RowBlock),
      g.FiltersGroups r entries → r.IsWhole → g.rows r = .ok block →
        g.rows r.unfiltered = .ok block₀ → ∀ object ∈ block.rows, object ∈ block₀.rows := by
  intro allShown
  obtain ⟨⟨block, answered, counts⟩, block₀, unfiltered, counts₀⟩ := rows_thirtyByCountry
  obtain ⟨object, hobject, hcount⟩ := List.mem_map.1
    (show some "2" ∈ sentCounts block.rows by rw [counts]; exact List.mem_cons_self)
  have among := allShown salesByYear thirtyByCountry amountIsThirty block block₀
    filtersGroups_salesByYear ⟨rfl, rfl⟩ answered unfiltered object hobject
  have sent : some "2" ∈ sentCounts block₀.rows := by
    rw [← hcount]
    exact List.mem_map_of_mem among
  rw [counts₀] at sent
  exact absurd sent (by decide)

end Grid

end GridSql
