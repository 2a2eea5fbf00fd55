import GridSql.Proofs.Grid.AggregateQueries
import GridSql.Proofs.Grid.OutputNames
import GridSql.Proofs.Grid.WithoutFilters
import GridSql.Proofs.Table.Sorting
import GridSql.Proofs.Table.Substitution

/-!
# Filters on generated columns

A filter on a generated column is a condition on the aggregate that the column shows. So the
rows with the filter are those of the same request without it on whose cell the condition is
true, in the same order. This takes rows that are made of groups: where neither the request
groups rows nor a generated column has an aggregate, a condition makes one group of all rows.
-/

namespace GridSql

/-! ## Cells that are displayed -/

theorem Row.cell_of_last {name : String} {v : Value} {back : Row}
    (last : name ∉ back.map Prod.fst) (front : Row) :
    Row.cell (front ++ (name, v) :: back) name = v := by
  have absent : back.get? name = none := by
    induction back with
    | nil => rfl
    | cons cell back ih =>
        rw [List.map_cons, List.mem_cons, not_or] at last
        rw [get?, ih last.2]
        exact if_neg (Ne.symm last.1)
  have found : Row.get? name (front ++ (name, v) :: back) = some v := by
    induction front with
    | nil => simp [get?, absent]
    | cons cell front ih => rw [List.cons_append, get?, ih]
  rw [cell, found]
  rfl

namespace Table

variable {t : Table} {s : Scope} {items : List SelectItem} {values : List Value}

theorem length_of_evalAll {es : List Expr} {vs : List Value} (h : t.evalAll s es = .ok vs) :
    vs.length = es.length := by
  induction es generalizing vs with
  | nil =>
      cases h
      rfl
  | cons e es ih =>
      obtain ⟨v, -, h⟩ := bind_ok_iff.1 h
      obtain ⟨others, hothers, h⟩ := bind_ok_iff.1 h
      cases h
      simp [ih hothers]

theorem length_of_evalItems (h : t.evalItems s items = .ok values) :
    values.length = (t.outputColumns items).length := by
  induction items generalizing values with
  | nil =>
      cases h
      rfl
  | cons item items ih =>
      obtain ⟨vs, ws, hvs, hws, rfl⟩ := evalItems_cons_ok_iff.1 h
      rw [outputColumns, List.flatMap_cons, List.length_append, List.length_append,
        ← outputColumns, ih hws]
      congr 1
      unfold evalItem at hvs
      split at hvs
      · next star =>
          rw [if_pos star, length_of_evalAll hvs]
          simp
      · next plain =>
          obtain ⟨v, -, rfl⟩ := map_ok_iff.1 hvs
          rw [if_neg plain]
          rfl

theorem isValue_cell (h : t.evalItems s items = .ok values) {item : SelectItem}
    (hitem : item ∈ items) (once : (t.outputColumns items).count item.outputName ≤ 1) :
    t.IsValue s item.expr (Row.cell ((t.outputColumns items).zip values) item.outputName) := by
  intro plain
  obtain ⟨before, after, rfl⟩ := List.append_of_mem hitem
  obtain ⟨vs, _, hvs, hrest, rfl⟩ := evalItems_append_ok_iff.1 h
  obtain ⟨_, ws, hown, hws, rfl⟩ := evalItems_cons_ok_iff.1 hrest
  rw [evalItem, plain] at hown
  obtain ⟨v, hv, rfl⟩ := map_ok_iff.1 hown
  have columns : t.outputColumns (before ++ item :: after) =
      t.outputColumns before ++ item.outputName :: t.outputColumns after := by
    rw [outputColumns_append]
    simp [outputColumns, plain]
  have last : item.outputName ∉ t.outputColumns after := by
    rw [columns, List.count_append, List.count_cons_self] at once
    exact List.count_eq_zero.1 (by omega)
  rw [hv, columns, List.zip_append (length_of_evalItems hvs).symm, List.singleton_append,
    List.zip_cons_cons, Row.cell_of_last]
  intro hmem
  obtain ⟨cell, hcell, hname⟩ := List.mem_map.1 hmem
  exact last (hname ▸ (List.of_mem_zip hcell).1)

end Table

namespace Grid

variable {g : Grid} {r : Request} {p : RequestPlan} {q : Query} {pivot : PivotContext}
  {entries : ColumnFilters}

/-! ## Conditions on displayed cells -/

/--
Whether the predicate of each filter on a generated column is true with the displayed cell in
place of the aggregate.
-/
def PassesDisplayed (g : Grid) (pivot : PivotContext) (entries : ColumnFilters)
    (columns : List String) (members : List Row) (values : List Value) : Prop :=
  ∀ entry ∈ entries, ∀ aggregate ∈ pivot.expression? entry.1, ∃ predicate,
    g.pivotPredicate pivot entry aggregate = .ok predicate ∧
      g.source.HoldsOfGroup none members
        (.put aggregate (Row.cell (columns.zip values) entry.1) predicate)

theorem mem_selectItems_of_expression? {name : String} {e : Expr}
    (h : pivot.expression? name = some e) :
    (⟨e, some name⟩ : SelectItem) ∈ pivot.selectItems := by
  obtain ⟨column, hfound, rfl⟩ := Option.map_eq_some_iff.1 h
  have named : column.name = name := by simpa using List.find?_some hfound
  exact List.mem_map.2 ⟨column, List.mem_of_find?_eq_some hfound, by rw [named]⟩

theorem forall_generatedEntries_iff {P : (String × ColumnFilter) × Expr → Prop} :
    (∀ x ∈ generatedEntries pivot entries, P x) ↔
      ∀ entry ∈ entries, ∀ aggregate ∈ pivot.expression? entry.1, P (entry, aggregate) := by
  simp only [generatedEntries, List.mem_filterMap, Option.map_eq_some_iff]
  constructor
  · exact fun h entry hentry aggregate hfound => h _ ⟨entry, hentry, aggregate, hfound, rfl⟩
  · rintro h _ ⟨entry, hentry, aggregate, hfound, rfl⟩
    exact h entry hentry aggregate hfound

/--
A group passes the conditions of generated columns exactly if they are true of the cells that
are displayed of it.
-/
theorem passesHaving_iff_displayed {items : List SelectItem} {members : List Row}
    {values : List Value} {having_ : Option Table.Resolved} {es : List Expr}
    (shown : g.source.evalItems (.group members) items = .ok values)
    (generated : ∀ item ∈ pivot.selectItems, item ∈ items)
    (once : ∀ name ∈ pivot.resultFields, (g.source.outputColumns items).count name ≤ 1)
    (compiled : g.pivotPredicates pivot entries = .ok es)
    (resolved : g.source.resolveOption none (Table.whereClause es) = .ok having_)
    (tested : ∀ e ∈ having_.map (·.expr), ∃ b, g.source.test (.group members) e = .ok b) :
    g.source.passesHaving (having_.map (·.expr)) members = true ↔
      g.PassesDisplayed pivot entries (g.source.outputColumns items) members values := by
  let cell (name : String) : Value := Row.cell ((g.source.outputColumns items).zip values) name
  have own : ∀ x ∈ generatedEntries pivot entries,
      g.source.IsValue (.group members) x.2 (cell x.1.1) := by
    refine forall_generatedEntries_iff.2 fun entry _ aggregate hfound => ?_
    have item := generated _ (mem_selectItems_of_expression? hfound)
    have named : entry.1 ∈ pivot.resultFields :=
      PivotContext.expression?_isSome_iff.1 (Option.isSome_iff_exists.2 ⟨aggregate, hfound⟩)
    exact Table.isValue_cell shown item (once entry.1 named)
  -- Each predicate of the clause is paired with the one that has the cell put in.
  obtain ⟨pairs, rfl, paired⟩ := exists_map_of_forall₂ (f := Prod.fst)
    (S := fun x (pair : Expr × Expr) => g.pivotPredicate pivot x.1 x.2 = .ok pair.1 ∧
      pair.2 = .put x.2 (cell x.1.1) pair.1 ∧
        g.source.KeepsResolved (.group members) pair.1 pair.2)
    (forall₂_imp_of_mem (pivotPredicates_ok compiled) fun x hx e _ he =>
      (⟨he, Table.keepsResolved_put (own x hx) e⟩ : _ ∧ _))
    fun x e ⟨he, keeps⟩ => ⟨(e, .put x.2 (cell x.1.1) e), rfl, he, rfl, keeps⟩
  have keeps : List.Forall₂ (g.source.KeepsResolved (.group members)) (pairs.map Prod.fst)
      (pairs.map Prod.snd) := by
    rw [List.forall₂_map_left_iff, List.forall₂_map_right_iff, List.forall₂_same]
    intro pair hpair
    obtain ⟨x, -, -, -, hkeeps⟩ := exists_of_mem_right paired hpair
    exact hkeeps
  rw [Table.passesHaving_iff_of_keeps keeps resolved tested, List.forall_mem_map]
  refine Iff.trans ?_ (forall_generatedEntries_iff (P := fun x => ∃ predicate,
    g.pivotPredicate pivot x.1 x.2 = .ok predicate ∧
      g.source.HoldsOfGroup none members (.put x.2 (cell x.1.1) predicate)))
  constructor
  · intro holds x hx
    obtain ⟨pair, hpair, hpredicate, hput, -⟩ := exists_of_mem_left paired hx
    exact ⟨pair.1, hpredicate, hput ▸ holds pair hpair⟩
  · intro holds pair hpair
    obtain ⟨x, hx, hpredicate, hput, -⟩ := exists_of_mem_right paired hpair
    obtain ⟨predicate, hpredicate', true_⟩ := holds x hx
    rw [hpredicate, Except.ok.injEq] at hpredicate'
    rw [hput, hpredicate']
    exact true_

/-- Without hooks the conditions read nothing but the displayed cells. -/
theorem passesDisplayed_iff_of_hookless (hookless : g.Hookless) {columns : List String}
    {values : List Value} (members members' : List Row) :
    g.PassesDisplayed pivot entries columns members values ↔
      g.PassesDisplayed pivot entries columns members' values := by
  have constant {entry : String × ColumnFilter} {aggregate predicate : Expr} (v : Value)
      (compiled : g.pivotPredicate pivot entry aggregate = .ok predicate) :
      g.source.Constant (.put aggregate v predicate) := by
    refine (Table.filterClosed_constant_put g.source aggregate v).compile ?_
      (hookless.keep _ _) compiled
    exact Table.put_self aggregate v ▸ Table.constant_literal v
  refine forall₂_congr fun entry _ => forall₂_congr fun aggregate _ => exists_congr fun e =>
    and_congr_right fun compiled => ?_
  exact (constant _ compiled).holdsOfGroup_iff members members'

/-! ## Rows with and without the filters -/

/-- Generated names that lead back to their value columns are recognized. -/
theorem namesPivotColumn_of_mapsBack (pivoting : r.isPivoting = true) (accepted : g.plan r = .ok p)
    (mapsBack : ∀ combination ∈ p.pivot.combinations, ∀ c ∈ r.valueCols,
      valueField (PivotContext.columnName g.settings.pivot.separator combination c.field)
        g.settings.pivot.separator = c.field) :
    ∀ name ∈ p.pivot.resultFields, g.namesPivotColumn r name = true := by
  obtain ⟨_, -, built⟩ := build_of_plan pivoting accepted
  intro name hname
  rw [PivotContext.resultFields_eq built] at hname
  obtain ⟨combination, hcombination, hname⟩ := List.mem_flatMap.1 hname
  obtain ⟨c, hc, rfl⟩ := List.mem_map.1 hname
  exact namesPivotColumn_of_field pivoting hc (mapsBack combination hcombination c hc)

/-- The filters on generated columns that there are, in the HAVING clause of the plan. -/
theorem pivots_of_plan (pivoting : r.isPivoting = true) (accepted : g.plan r = .ok p)
    (recognized : g.filterModel r = .ok (some (.columns entries))) :
    g.pivotPredicates p.pivot (entries.filter fun entry => g.namesPivotColumn r entry.1) =
      .ok p.having := by
  obtain ⟨filters, -, hfilters, -, -, hhaving, -⟩ := plan_ok accepted
  obtain ⟨-, -, model, keys, hmodel, -, restricts⟩ := levelFilters_ok hfilters
  obtain rfl := Except.ok.inj (recognized.symm.trans hmodel)
  obtain ⟨_, -, rfl⟩ := restricts.of_pivoting pivoting
  exact hhaving

theorem passesDisplayed_filter {columns : List String} {members : List Row} {values : List Value}
    (named : ∀ name ∈ pivot.resultFields, g.namesPivotColumn r name = true) :
    g.PassesDisplayed pivot (entries.filter fun entry => g.namesPivotColumn r entry.1) columns
      members values ↔ g.PassesDisplayed pivot entries columns members values := by
  constructor
  · intro h entry hentry aggregate hfound
    have generated := PivotContext.expression?_isSome_iff.1
      (Option.isSome_iff_exists.2 ⟨aggregate, hfound⟩)
    exact h entry (List.mem_filter.2 ⟨hentry, named _ generated⟩) aggregate hfound
  · exact fun h entry hentry => h entry (List.mem_of_mem_filter hentry)

/-- The select list of a request that pivots ends with its generated columns. -/
theorem selectItems_subset (accepted : g.plan r = .ok p) :
    ∀ item ∈ p.pivot.selectItems, item ∈ p.select := by
  obtain ⟨_, level, -, -, -, -, hselect, -, -⟩ := plan_ok accepted
  intro item hitem
  rw [hselect, selectOf]
  split
  · next empty =>
      rw [PivotContext.selectItems, List.isEmpty_iff.1 empty] at hitem
      cases hitem
  · exact List.mem_append_right _ hitem

/-- Without conditions a level makes its rows of groups, too. -/
theorem isGrouped_levelQuery (accepted : g.plan r = .ok p)
    (aggregated : r.isGrouping = true ∨ ∃ column ∈ p.pivot.columns,
      column.expr.hasAggregate = true) :
    Table.isGrouped (g.levelQuery r p) = true := by
  rcases aggregated with grouping | ⟨column, hcolumn, haggregate⟩
  · have nonempty := Request.groupFields_ne_nil grouping
    simp [Table.isGrouped, levelQuery, groupBy_of_grouping grouping accepted, nonempty]
  · have item : (⟨column.expr, some column.name⟩ : SelectItem) ∈ p.select :=
      selectItems_subset accepted _ (List.mem_map_of_mem hcolumn)
    have shown : p.select.any (·.expr.hasAggregate) = true :=
      List.any_eq_true.2 ⟨_, item, haggregate⟩
    simp [Table.isGrouped, levelQuery, shown]

/--
An accepted request that filters generated columns whose names are distinct, stand for no other
column and lead back to their value columns.
-/
structure FiltersGenerated (g : Grid) (r : Request) (q : Query) (pivot : PivotContext)
    (entries : ColumnFilters) : Prop where
  pivoting : r.isPivoting = true
  whole : r.IsWhole
  accepted : g.query r = .ok (q, pivot)
  recognized : g.filterModel r = .ok (some (.columns entries))
  mapsBack : ∀ combination ∈ pivot.combinations, ∀ c ∈ r.valueCols,
    valueField (PivotContext.columnName g.settings.pivot.separator combination c.field)
      g.settings.pivot.separator = c.field
  once : ∀ name ∈ pivot.resultFields, (g.source.outputColumns q.select).count name ≤ 1

theorem FiltersGenerated.queries (filters : g.FiltersGenerated r q pivot entries)
    (planned : g.plan r = .ok p) :
    q = g.wholeQuery r p ∧ pivot = p.pivot ∧
      g.query (r.withoutFilters pivot.resultFields) = .ok (g.levelQuery r p, pivot) := by
  obtain ⟨pivoting, whole, accepted, recognized, mapsBack, -⟩ := filters
  obtain ⟨p', hp', hquery⟩ := bind_ok_iff.1 accepted
  obtain rfl := Except.ok.inj (planned.symm.trans hp')
  cases hquery
  have named := namesPivotColumn_of_mapsBack pivoting planned mapsBack
  have query : g.assemble (r.withoutFilters p.pivot.resultFields) { p with having := [] } =
      g.levelQuery r p := assemble_whole whole rfl
  exact ⟨assemble_eq_wholeQuery whole, rfl, bind_ok_iff.2
    ⟨_, plan_withoutFilters pivoting recognized named planned, by rw [query]⟩⟩

/--
The rows under filters on generated columns are those rows of the same request without these
filters on whose cells the predicates are true, in the same order if the sort keys are
compared transitively.
-/
theorem filteredRows_of_displayed (filters : g.FiltersGenerated r q pivot entries)
    (aggregated : r.isGrouping = true ∨ ∃ column ∈ pivot.columns,
      column.expr.hasAggregate = true) :
    ∃ q', g.query (r.withoutFilters pivot.resultFields) = .ok (q', pivot) ∧
      ∀ result all, g.source.run q = .ok result → g.source.run q' = .ok all →
        ∃ (groups : List (List Row)) (shown : List (List Row × Table.Projected))
          (passes : List Row × Table.Projected → Bool),
          g.groups r = .ok groups ∧ (shown.map Prod.fst).Perm groups ∧
          (∀ row ∈ shown, g.source.project q' (.group row.1) = .ok row.2) ∧
          result.columns = all.columns ∧ all.rows = shown.map (·.2.values) ∧
          (∀ row ∈ shown, (passes row = true ↔
            g.PassesDisplayed pivot entries all.columns row.1 row.2.values)) ∧
          result.rows.Perm ((shown.filter passes).map (·.2.values)) ∧
          (Table.SortsConsistently q.orderBy (shown.map (·.2.keys)) →
            result.rows = (shown.filter passes).map (·.2.values)) := by
  obtain ⟨p, hp, -⟩ := bind_ok_iff.1 filters.accepted
  obtain ⟨rfl, rfl, without⟩ := filters.queries hp
  obtain ⟨pivoting, -, -, recognized, mapsBack, once⟩ := filters
  have named := namesPivotColumn_of_mapsBack pivoting hp mapsBack
  refine ⟨_, without, fun result all ran ran' => ?_⟩
  obtain ⟨-, kept, having_, hkept, hhaving, houtput⟩ := Table.runWithin_ok_iff.1 ran
  obtain ⟨-, kept', having', hkept', hhaving', houtput'⟩ := Table.runWithin_ok_iff.1 ran'
  cases hhaving'
  obtain rfl := Except.ok.inj (hkept.symm.trans hkept')
  obtain ⟨groups, shown, hgroups, tested, perm, projected, columns, columns', rows, filtered,
    ordered⟩ := Table.output_passing (q := g.wholeQuery r p) (isGrouped_levelQuery hp aggregated)
      ⟨rfl, rfl⟩ houtput houtput'
  refine ⟨groups, shown, fun row => g.source.passesHaving (having_.map (·.expr)) row.1, ?_, perm,
    projected, columns.trans columns'.symm, rows, fun row hrow => ?_, filtered, ordered⟩
  · exact bind_ok_iff.2 ⟨p, hp, bind_ok_iff.2 ⟨kept, selected_ok_iff.2 ⟨p, hp, hkept⟩,
      mapError_ok_iff.2 hgroups⟩⟩
  · have member : row.1 ∈ groups := perm.subset (List.mem_map_of_mem hrow)
    rw [← passesDisplayed_filter named, columns']
    exact passesHaving_iff_displayed (Table.evalItems_of_project (projected row hrow))
      (selectItems_subset hp) once (pivots_of_plan pivoting hp recognized) hhaving
      (tested row.1 member)

/-! ## Wages of days -/

/-- A grid of wages, with an aggregate function that leaves a column as it is. -/
def wages (rows : List Row) : Grid where
  source := ⟨"wages", [⟨"place", .text⟩, ⟨"kind", .text⟩, ⟨"wage", .integer⟩], rows⟩
  aggregates := AggregateRegistry.builtin.register ⟨"first", id⟩
  table := { table := "wages" }
  isValid := Settings.fault?_default

def dayWage (place wage : Value) : Row :=
  [("place", place), ("kind", .text "day"), ("wage", wage)]

def knownWages (function : String) : Request where
  pivotMode := true
  pivotCols := [{ field := "kind" }]
  valueCols := [{ field := "wage", aggFunc := some function }]
  filterModel := some (.object [("day_wage",
    .object [("filterType", .string "number"), ("type", .string "notBlank")])])

def knownWagesByPlace : Request :=
  { knownWages "sum" with
    rowGroupCols := [{ field := "place" }]
    sortModel := [{ colId := "place", direction := .asc }] }

def dayWageKnown : ColumnFilters :=
  [("day_wage", .number ⟨.notBlank, none, none⟩)]

def wageOfDay : Expr :=
  .caseWhen ((Expr.col "kind").eq (.ofText "day")) (.col "wage")

def wagesPlan (groupFields : List String) (shown : Expr) : RequestPlan where
  select := groupFields.map (⟨.col ·, none⟩) ++ [⟨shown, some "day_wage"⟩]
  groupBy := groupFields.map .col
  rows := []
  having := [.isNull (.cast shown .decimal) true]
  pivot :=
    { values := [("kind", [.text "day"])]
      pairs := [[⟨"kind", .text "day"⟩]]
      combinations := [[⟨"kind", .text "day"⟩]]
      columns := [⟨"day_wage", shown⟩]
      separator := "_" }

theorem columnName_dayWage :
    PivotContext.columnName "_" [⟨"kind", .text "day"⟩] "wage" = "day_wage" := by
  cbv

variable {rows : List Row}

theorem pivotValues_wages (days : (wages rows).source.distinctValues "kind" = .ok [.text "day"]) :
    (wages rows).pivotValues 1 [{ field := "kind" }] = .ok [("kind", [.text "day"])] := by
  simp only [pivotValues, days]
  rfl

set_option maxRecDepth 20000 in
theorem plan_knownWages (days : (wages rows).source.distinctValues "kind" = .ok [.text "day"]) :
    (wages rows).plan (knownWages "first") = .ok (wagesPlan [] wageOfDay) := by
  have context : (wages rows).pivotContext (knownWages "first") =
      .ok (wagesPlan [] wageOfDay).pivot := by
    simp only [pivotContext, knownWages, pivotValues_wages days, wagesPlan]
    rw [← columnName_dayWage]
    rfl
  have filters : (wages rows).levelFilters (knownWages "first") =
      .ok { rows := [], pivots := dayWageKnown } := by
    cbv
  simp only [plan, filters, context]
  cbv

set_option maxRecDepth 20000 in
theorem plan_knownWagesByPlace
    (days : (wages rows).source.distinctValues "kind" = .ok [.text "day"]) :
    (wages rows).plan knownWagesByPlace = .ok (wagesPlan ["place"] (.fn "SUM" [wageOfDay])) := by
  have context : (wages rows).pivotContext knownWagesByPlace =
      .ok (wagesPlan ["place"] (.fn "SUM" [wageOfDay])).pivot := by
    simp only [pivotContext, knownWagesByPlace, knownWages, pivotValues_wages days, wagesPlan]
    rw [← columnName_dayWage]
    rfl
  have filters : (wages rows).levelFilters knownWagesByPlace =
      .ok { rows := [], pivots := dayWageKnown } := by
    cbv
  simp only [plan, filters, context]
  cbv

theorem mapsBack_wages {r : Request} {function : Option String}
    (valueCols : r.valueCols = [{ field := "wage", aggFunc := function }])
    (groupFields : List String) (shown : Expr) :
    ∀ combination ∈ (wagesPlan groupFields shown).pivot.combinations, ∀ c ∈ r.valueCols,
      valueField (PivotContext.columnName (wages rows).settings.pivot.separator combination c.field)
        (wages rows).settings.pivot.separator = c.field := by
  intro combination hcombination c hc
  rw [valueCols] at hc
  cases List.mem_singleton.1 hcombination
  cases List.mem_singleton.1 hc
  change valueField (PivotContext.columnName "_" [⟨"kind", .text "day"⟩] "wage") "_" = "wage"
  cbv

set_option maxRecDepth 20000 in
theorem filtersGenerated_knownWages
    (days : (wages rows).source.distinctValues "kind" = .ok [.text "day"]) :
    (wages rows).FiltersGenerated (knownWages "first")
      ((wages rows).wholeQuery (knownWages "first") (wagesPlan [] wageOfDay))
      (wagesPlan [] wageOfDay).pivot dayWageKnown where
  pivoting := rfl
  whole := ⟨rfl, rfl⟩
  accepted := bind_ok_iff.2 ⟨_, plan_knownWages days, rfl⟩
  recognized := by cbv
  mapsBack := mapsBack_wages rfl _ _
  once := by
    intro name hname
    cases List.mem_singleton.1 hname
    change ["day_wage"].count "day_wage" ≤ 1
    decide

set_option maxRecDepth 20000 in
theorem filtersGenerated_knownWagesByPlace
    (days : (wages rows).source.distinctValues "kind" = .ok [.text "day"]) :
    (wages rows).FiltersGenerated knownWagesByPlace
      ((wages rows).wholeQuery knownWagesByPlace (wagesPlan ["place"] (.fn "SUM" [wageOfDay])))
      (wagesPlan ["place"] (.fn "SUM" [wageOfDay])).pivot dayWageKnown where
  pivoting := rfl
  whole := ⟨rfl, rfl⟩
  accepted := bind_ok_iff.2 ⟨_, plan_knownWagesByPlace days, rfl⟩
  recognized := by cbv
  mapsBack := mapsBack_wages rfl _ _
  once := by
    intro name hname
    cases List.mem_singleton.1 hname
    change ["place", "day_wage"].count "day_wage" ≤ 1
    decide

def placeWages : List Row :=
  [dayWage (.text "inn") (.int 9), dayWage (.text "pub") .null, dayWage (.text "bar") (.int 8)]

set_option maxRecDepth 20000 in
theorem days_placeWages :
    (wages placeWages).source.distinctValues "kind" = .ok [.text "day"] := by
  cbv

set_option maxRecDepth 20000 in
theorem groups_placeWages :
    (wages placeWages).groups knownWagesByPlace = .ok (placeWages.map ([·])) := by
  simp only [groups, selected, plan_knownWagesByPlace days_placeWages]
  cbv

set_option maxRecDepth 20000 in
theorem run_placeWages :
    (wages placeWages).source.run ((wages placeWages).wholeQuery knownWagesByPlace
      (wagesPlan ["place"] (.fn "SUM" [wageOfDay]))) =
        .ok ⟨["place", "day_wage"], [[.text "bar", .decimal (.ofInt64 8)],
          [.text "inn", .decimal (.ofInt64 9)]]⟩ := by
  cbv

set_option maxRecDepth 20000 in
theorem run_all_placeWages :
    (wages placeWages).source.run ((wages placeWages).levelQuery knownWagesByPlace
      (wagesPlan ["place"] (.fn "SUM" [wageOfDay]))) =
        .ok ⟨["place", "day_wage"], [[.text "bar", .decimal (.ofInt64 8)],
          [.text "inn", .decimal (.ofInt64 9)], [.text "pub", .null]]⟩ := by
  cbv

set_option maxRecDepth 20000 in
theorem orderBy_knownWagesByPlace :
    planOrderBy knownWagesByPlace (wagesPlan ["place"] (.fn "SUM" [wageOfDay])).select
      (wagesPlan ["place"] (.fn "SUM" [wageOfDay])).pivot = [.directed .asc (.col "place")] := by
  cbv

theorem isOfKind_places {row : Row} (hrow : row ∈ placeWages) {p : Table.Projected}
    (projected : (wages placeWages).source.project ((wages placeWages).levelQuery knownWagesByPlace
      (wagesPlan ["place"] (.fn "SUM" [wageOfDay]))) (.group [row]) = .ok p) :
    List.Forall₂ Table.IsOfKind [(Content.text "").kind] p.keys := by
  obtain ⟨values, -, h⟩ := bind_ok_iff.1 projected
  obtain ⟨keys, hkeys, h⟩ := bind_ok_iff.1 h
  cases h
  rw [levelQuery, orderBy_knownWagesByPlace] at hkeys
  have place : keys = [row.cell "place"] := (Except.ok.inj hkeys).symm
  rw [place]
  refine .cons (.inr ?_) .nil
  simp only [placeWages, List.mem_cons, List.not_mem_nil, or_false] at hrow
  obtain rfl | rfl | rfl := hrow <;> exact ⟨_, rfl, rfl⟩

/-- Of the three places those two are left whose wages are known, in their order. -/
theorem filteredRows_of_displayed_placeWages :
    ∃ q pivot q' result all,
      (wages placeWages).FiltersGenerated knownWagesByPlace q pivot dayWageKnown ∧
      knownWagesByPlace.isGrouping = true ∧
      (wages placeWages).query (knownWagesByPlace.withoutFilters ["day_wage"]) = .ok (q', pivot) ∧
      (wages placeWages).source.run q = .ok result ∧ (wages placeWages).source.run q' = .ok all ∧
      result.rows.map (·.map Value.display) = [["bar", "8"], ["inn", "9"]] ∧
      all.rows.map (·.map Value.display) = [["bar", "8"], ["inn", "9"], ["pub", "NULL"]] ∧
      ∃ (shown : List (List Row × Table.Projected)) (passes : List Row × Table.Projected → Bool),
        Table.SortsConsistently q.orderBy (shown.map (·.2.keys)) ∧
        all.rows = shown.map (·.2.values) ∧ result.rows = (shown.filter passes).map (·.2.values) ∧
        ∀ row ∈ shown, (passes row = true ↔ (wages placeWages).PassesDisplayed pivot dayWageKnown
          all.columns row.1 row.2.values) := by
  have filters := filtersGenerated_knownWagesByPlace days_placeWages
  obtain ⟨q', without, rows⟩ := filteredRows_of_displayed filters (.inl rfl)
  obtain ⟨-, -, own⟩ := filters.queries (plan_knownWagesByPlace days_placeWages)
  cases Except.ok.inj (own.symm.trans without)
  obtain ⟨groups, shown, passes, hgroups, perm, projected, -, every, displayed, -, ordered⟩ :=
    rows _ _ run_placeWages run_all_placeWages
  cases Except.ok.inj (hgroups.symm.trans groups_placeWages)
  have texts : ∀ keys ∈ shown.map (·.2.keys),
      List.Forall₂ Table.IsOfKind [(Content.text "").kind] keys := by
    refine List.forall_mem_map.2 fun row hrow => ?_
    obtain ⟨own, hown, members⟩ := List.mem_map.1 (perm.subset (List.mem_map_of_mem hrow))
    exact isOfKind_places hown (members ▸ projected row hrow)
  have consistent (keys : List OrderKey) : Table.SortsConsistently keys (shown.map (·.2.keys)) :=
    Table.sortsConsistently_of_kinds texts
  exact ⟨_, _, _, _, _, filters, rfl, without, run_placeWages, run_all_placeWages,
    by cbv, by cbv, shown, passes, consistent _, every,
    ordered (consistent _), displayed⟩

/--
Whether the rows under filters on generated columns are those rows without these filters that
pass by their cells, in the same order.
-/
def ShowsFiltered (g : Grid) (r : Request) (q : Query) (pivot : PivotContext)
    (entries : ColumnFilters) : Prop :=
  ∀ q' result all, g.query (r.withoutFilters pivot.resultFields) = .ok (q', pivot) →
    g.source.run q = .ok result → g.source.run q' = .ok all →
      ∃ passes : List Value → Bool,
        (∀ values ∈ all.rows, ∀ members, (passes values = true ↔
          g.PassesDisplayed pivot entries all.columns members values)) ∧
        result.rows = all.rows.filter passes

def twoWages : List Row :=
  [dayWage (.text "inn") (.int 5), dayWage (.text "inn") (.int 7)]

def mixedPlaces : List Row :=
  [dayWage (.int 2) (.int 9), dayWage (.text "inn") .null, dayWage (.text "pub") .null,
    dayWage (.int 1) (.int 8)]

theorem hookless_wages (rows : List Row) : (wages rows).Hookless where
  external := rfl
  quickForm := rfl
  quickMatcher := rfl
  rules := by
    intro field all hall
    cases hall

theorem passesDisplayed_int (n : Int64) (members : List Row) :
    (wages rows).PassesDisplayed (wagesPlan [] wageOfDay).pivot dayWageKnown ["day_wage"] members
      [.int n] := by
  rw [passesDisplayed_iff_of_hookless (hookless_wages rows) members []]
  intro entry hentry aggregate hfound
  cases List.mem_singleton.1 hentry
  obtain rfl : wageOfDay = aggregate := Option.some.inj hfound
  refine ⟨.isNull (.cast wageOfDay .decimal) true, by cbv, ?_⟩
  have cell : Row.cell (["day_wage"].zip [Value.int n]) "day_wage" = .int n := rfl
  have shown : Expr.put wageOfDay (.int n) (.isNull (.cast wageOfDay .decimal) true) =
      .isNull (.cast (.literal (.int n)) .decimal) true := by
    simp [Expr.put, Expr.putAt, Table.put_self, wageOfDay, Expr.caseWhen]
  rw [cell, shown]
  exact ⟨_, rfl, rfl⟩

set_option maxRecDepth 20000 in
theorem days_twoWages : (wages twoWages).source.distinctValues "kind" = .ok [.text "day"] := by
  cbv

set_option maxRecDepth 20000 in
theorem run_twoWages :
    (wages twoWages).source.run
        ((wages twoWages).wholeQuery (knownWages "first") (wagesPlan [] wageOfDay)) =
          .ok ⟨["day_wage"], [[.int 5]]⟩ ∧
      (wages twoWages).source.run
        ((wages twoWages).levelQuery (knownWages "first") (wagesPlan [] wageOfDay)) =
          .ok ⟨["day_wage"], [[.int 5], [.int 7]]⟩ := by
  constructor <;> cbv

set_option maxRecDepth 20000 in
theorem days_mixedPlaces :
    (wages mixedPlaces).source.distinctValues "kind" = .ok [.text "day"] := by
  cbv

set_option maxRecDepth 20000 in
theorem run_mixedPlaces :
    (wages mixedPlaces).source.run ((wages mixedPlaces).wholeQuery knownWagesByPlace
        (wagesPlan ["place"] (.fn "SUM" [wageOfDay]))) =
          .ok ⟨["place", "day_wage"], [[.int 1, .decimal (.ofInt64 8)],
            [.int 2, .decimal (.ofInt64 9)]]⟩ ∧
      (wages mixedPlaces).source.run ((wages mixedPlaces).levelQuery knownWagesByPlace
        (wagesPlan ["place"] (.fn "SUM" [wageOfDay]))) =
          .ok ⟨["place", "day_wage"], [[.int 2, .decimal (.ofInt64 9)], [.text "inn", .null],
            [.text "pub", .null], [.int 1, .decimal (.ofInt64 8)]]⟩ := by
  constructor <;> cbv

/--
Of two wages that pass one is left, as the condition makes them one group. Places of other
kinds between two numbers keep these in an order in which they do not stand without them.
-/
theorem not_filteredRows_of_displayed :
    (∃ q pivot, (wages twoWages).FiltersGenerated (knownWages "first") q pivot dayWageKnown ∧
      ¬ (wages twoWages).ShowsFiltered (knownWages "first") q pivot dayWageKnown) ∧
    ∃ q pivot, (wages mixedPlaces).FiltersGenerated knownWagesByPlace q pivot dayWageKnown ∧
      ¬ (wages mixedPlaces).ShowsFiltered knownWagesByPlace q pivot dayWageKnown := by
  constructor
  · have filters := filtersGenerated_knownWages days_twoWages
    refine ⟨_, _, filters, fun filtered => ?_⟩
    obtain ⟨-, -, without⟩ := filters.queries (plan_knownWages days_twoWages)
    obtain ⟨passes, displayed, rows⟩ :=
      filtered _ _ _ without run_twoWages.1 run_twoWages.2
    have all : ∀ values ∈ [[Value.int 5], [Value.int 7]], passes values = true := by
      intro values hvalues
      refine (displayed values hvalues []).2 ?_
      simp only [List.mem_cons, List.not_mem_nil, or_false] at hvalues
      obtain rfl | rfl := hvalues <;> exact passesDisplayed_int _ []
    have lengths := congrArg List.length (rows.trans (List.filter_eq_self.2 all))
    exact absurd lengths (by decide)
  · have filters := filtersGenerated_knownWagesByPlace days_mixedPlaces
    refine ⟨_, _, filters, fun filtered => ?_⟩
    obtain ⟨-, -, without⟩ := filters.queries (plan_knownWagesByPlace days_mixedPlaces)
    obtain ⟨passes, -, rows⟩ := filtered _ _ _ without run_mixedPlaces.1 run_mixedPlaces.2
    have among := (rows ▸ List.filter_sublist).map (List.map Value.display)
    exact absurd among (by decide +kernel)

end Grid

end GridSql
