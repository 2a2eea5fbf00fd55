import GridSql.Proofs.Grid.AggregateQueries
import GridSql.Proofs.Grid.Counting
import GridSql.Proofs.Table.Renamed

/-!
# Names of tables

A grid over the same columns and rows under another name gives the same answers. Its name is
looked at in two places: in the table that a query reads, and where filters of value columns
decide on groups. There a subquery compares the group columns of its rows with those of the
row around it, which it tells apart by the table's name. A table with the name that the
subquery has itself is not told apart, so that every row is compared with itself.
-/

namespace GridSql

namespace Table

variable {t : Table} {name : String} {o : OuterRow}

/-! ## Comparing group columns -/

/-- The name of the table around a subquery is forgotten once its row is known. -/
theorem resolve_sameGroup {table : String}
    (apart : Text.eqIgnoringCase table o.innerName = false) (field : String) :
    t.resolve (some o) (Grid.sameGroup table field) =
      t.resolve (some o) (sameCell field (o.row.cell field)) := by
  simp [Grid.sameGroup, sameCell, resolve, Expr.within, Expr.bindOuter, Expr.col, Expr.eq, Expr.or,
    Expr.and, apart]

theorem nameless_sameCell (field : String) (v : Value) : (sameCell field v).Nameless :=
  fun _ _ _ => rfl

theorem sameOnRows_sameGroup {table table' : String}
    (apart : Text.eqIgnoringCase table o.innerName = false)
    (apart' : Text.eqIgnoringCase table' o.innerName = false) (field : String) :
    t.SameOnRows name (some o) (Grid.sameGroup table field) (Grid.sameGroup table' field) := by
  refine sameOnRows_of_resolve ?_
  rw [resolve_sameGroup apart, resolve_sameGroup apart']
  exact nameless_sameCell field _ t name (some o)

theorem forall₂_sameOnRows {outer : Option OuterRow} {es : List Expr} (h : ∀ e ∈ es, e.Nameless) :
    List.Forall₂ (t.SameOnRows name outer) es es :=
  List.forall₂_same.2 fun e he => sameOnRows_of_resolve (h e he t name outer)

end Table

/-! ## Grids under other names -/

theorem TableRef.parse_of_not_mem {name : String} (plain : '.' ∉ name.toList) :
    parse name = { table := name } := by
  unfold parse
  simp [plain]

/-- Whether what the server makes of expressions comes to the same under every name of the table. -/
structure GridConfig.NamesNoTable (c : GridConfig) : Prop where
  hooks : c.HooksKeep Expr.Nameless
  aggregates : ∀ function e a, e.Nameless → c.aggregates.apply function e = .ok a → a.Nameless

theorem GridConfig.NamesNoTable.aggregate {c : GridConfig} (neutral : c.NamesNoTable)
    {column : ColumnRef} {a : Expr} (h : c.aggregates.aggregate column = .ok a) :
    a.Nameless := by
  obtain ⟨function, -, applied⟩ := bind_ok_iff.1 h
  exact neutral.aggregates function _ a (Expr.nameless_column none _) applied

namespace Grid

def named (g : Grid) (name : String) : Grid :=
  { g with source := g.source.renamed name, table := { table := name } }

variable {g : Grid} {r : Request} {name : String} {entries : ColumnFilters}

theorem namesNoTable_named (neutral : g.NamesNoTable) : (g.named name).NamesNoTable where
  hooks := ⟨neutral.hooks.external, neutral.hooks.quickForm, neutral.hooks.quickMatcher,
    neutral.hooks.rules⟩
  aggregates := neutral.aggregates

/-- A server without hooks that aggregates as built in names no table. -/
theorem Hookless.namesNoTable (hookless : g.Hookless)
    (builtin : g.aggregates = .builtin) :
    g.NamesNoTable where
  hooks := hookless.hooksKeep Expr.Nameless
  aggregates := by
    intro function e a _ applied
    rw [builtin] at applied
    obtain ⟨f, hf, rfl⟩ := AggregateRegistry.apply_ok_iff.1 applied
    obtain ⟨sql, _, -, apply⟩ := apply_of_builtin hf
    rw [apply]
    exact Expr.nameless_call sql [e] false

theorem checkSource_named :
    (g.named name).source.checkSource (some (g.named name).table) = .ok () :=
  if_pos (beq_self_eq_true _)

/-! ## Filters that decide on groups -/

/-- Whether the rows around subqueries are told apart from those inside. -/
def ToldApart (table : String) : Prop :=
  ∀ asName ∈ ["leaf", "grp"], Text.eqIgnoringCase table asName = false

instance (table : String) : Decidable (ToldApart table) :=
  inferInstanceAs (Decidable (∀ asName ∈ ["leaf", "grp"], _))

/-- Whether a grid reads the table that it is over. -/
def ReadsOwn (g : Grid) : Prop :=
  Text.eqIgnoringCase g.table.table g.source.name = true

section

variable (own : g.ReadsOwn)

include own

theorem ReadsOwn.checkSource :
    g.source.checkSource (some g.table) = .ok () :=
  if_pos own

theorem runWithin_inside {asName : String} {row : Row} {depth : Nat}
    {keys predicates having_ : List Expr}
    (apart : Text.eqIgnoringCase g.table.table asName = false)
    (apart' : Text.eqIgnoringCase name asName = false)
    (nameless : ∀ e ∈ predicates, e.Nameless) (nameless' : ∀ e ∈ having_, e.Nameless) :
    (g.named name).source.runWithin (some ⟨asName, row⟩) ((g.named name).inside asName
        ((g.named name).sameGroups r depth ++ predicates) keys having_) =
      g.source.runWithin (some ⟨asName, row⟩)
        (g.inside asName (g.sameGroups r depth ++ predicates) keys having_) := by
  have groups : List.Forall₂ (g.source.SameOnRows name (some ⟨asName, row⟩))
      (g.sameGroups r depth) ((g.named name).sameGroups r depth) := by
    unfold sameGroups
    rw [List.forall₂_map_left_iff, List.forall₂_map_right_iff]
    exact List.forall₂_same.2 fun field _ => Table.sameOnRows_sameGroup apart apart' field
  have rows := Table.sameRows_whereClause
    (List.rel_append groups (Table.forall₂_sameOnRows nameless))
  exact Table.runWithin_overRows
    (q := g.inside asName (g.sameGroups r depth ++ predicates) keys having_)
    own.checkSource (checkSource_named (g := g)) rows
    (Table.resolveOption_whereClause nameless')

theorem sameOnRows_inside {asName : String} {depth : Nat} {keys predicates having_ : List Expr}
    (apart : Text.eqIgnoringCase g.table.table asName = false)
    (apart' : Text.eqIgnoringCase name asName = false)
    (nameless : ∀ e ∈ predicates, e.Nameless) (nameless' : ∀ e ∈ having_, e.Nameless) :
    g.source.SameOnRows name none
      (.existsIn (g.inside asName (g.sameGroups r depth ++ predicates) keys having_) false)
      (.existsIn ((g.named name).inside asName
        ((g.named name).sameGroups r depth ++ predicates) keys having_) false) :=
  Table.sameOnRows_existsIn fun _ => runWithin_inside own apart apart' nameless nameless'

variable (neutral : g.NamesNoTable)

include neutral

theorem alike_leafPasses (apart : ToldApart g.table.table) (apart' : ToldApart name)
    (filters : List (ColumnRef × ColumnFilter)) :
    Alike (g.source.SameOnRows name none) (g.leafPasses r filters)
      ((g.named name).leafPasses r filters) := by
  rw [leafPasses_eq, leafPasses_eq]
  refine Alike.bind_self fun ⟨predicates, vs⟩ htake => Violations.alike_finish ?_
  rintro rfl
  obtain ⟨-, compiled⟩ := Violations.takeAll_ok (fun filter : ColumnRef × ColumnFilter =>
    ColumnFilter.explained_compile _ _ filter.2) htake
  refine sameOnRows_inside own (apart _ (by simp)) (apart' _ (by simp)) ?_ (by simp)
  exact forall_rowPredicates_of_closed Expr.filterClosed_nameless neutral.hooks.rules
    (Expr.nameless_column none) compiled

theorem alike_groupPasses (apart : ToldApart g.table.table) (apart' : ToldApart name)
    (filters : List (ColumnRef × ColumnFilter)) (depth : Nat) :
    Alike (g.source.SameOnRows name none) (g.groupPasses r filters depth)
      ((g.named name).groupPasses r filters depth) := by
  rw [groupPasses_eq, groupPasses_eq]
  refine Alike.bind_self fun predicates hpredicates => .ok ?_
  have nameless : ∀ e ∈ predicates, e.Nameless :=
    forall_aggregatePredicates_of_closed Expr.filterClosed_nameless neutral.hooks.rules
      (fun _ _ _ ha => neutral.aggregate ha) (mapM_ok_iff.1 hpredicates)
  rw [← List.append_nil (g.sameGroups r depth),
    ← List.append_nil ((g.named name).sameGroups r depth)]
  exact sameOnRows_inside own (apart _ (by simp)) (apart' _ (by simp)) (by simp) nameless

theorem alike_groupAggregatePredicate (apart : ToldApart g.table.table)
    (apart' : ToldApart name) (entries : ColumnFilters) :
    Alike (g.source.SameOnRows name none) (g.groupAggregatePredicate r entries)
      ((g.named name).groupAggregatePredicate r entries) := by
  unfold groupAggregatePredicate
  refine (alike_leafPasses own neutral apart apart' _).bind fun leaf leaf' hleaf => ?_
  have depths := Alike.mapM (l := List.range r.rowGroupCols.length) fun i _ =>
    alike_groupPasses (r := r) own neutral apart apart' (valueFilters r entries) (i + 1)
  exact depths.bind fun groups groups' hgroups =>
    .ok (Table.sameOnRows_joinAll (.cons hleaf hgroups) .or false)

end

/-! ## Filters of a level -/

def FiltersDecide (g : Grid) (r : Request) : Prop :=
  ∃ model entries, g.filterModel r = .ok model ∧ g.levelFiltering r model = .aggregated entries

theorem levelFilters_named (direct : ¬ g.FiltersDecide r) :
    (g.named name).levelFilters r = g.levelFilters r := by
  unfold levelFilters
  refine bind_congr fun (valid, vs) => bind_congr_of_ok fun (model?, vs) hmodel =>
    bind_congr fun (keys, vs) => ?_
  have same : (g.named name).levelFiltering r model?.join = g.levelFiltering r model?.join := rfl
  dsimp only
  rw [same]
  cases hlevel : g.levelFiltering r model?.join with
  | suppressed => rfl
  | aggregated entries =>
      rcases Violations.take_cases hmodel with rfl | ⟨model, recognized, rfl⟩
      · obtain ⟨-, -, -, columns, -⟩ := levelFiltering_aggregated hlevel
        cases columns
      · exact absurd ⟨model, entries, recognized, hlevel⟩ direct
  | direct => cases model?.join <;> rfl

/-- Whether the filters of a level come to the same row by row under another name. -/
def SameFilters (g : Grid) (name : String) (filters filters' : LevelFilters) : Prop :=
  filters'.pivots = filters.pivots ∧
    List.Forall₂ (g.source.SameOnRows name none) filters.rows filters'.rows

theorem alike_levelFilters (own : g.ReadsOwn) (neutral : g.NamesNoTable)
    (apart : g.FiltersDecide r → ToldApart g.table.table ∧ ToldApart name) :
    Alike (g.SameFilters name) (g.levelFilters r) ((g.named name).levelFilters r) := by
  by_cases judged : g.FiltersDecide r
  · obtain ⟨apart, apart'⟩ := apart judged
    obtain ⟨model, entries, hmodel, hlevel⟩ := judged
    have hmodel' : (g.named name).filterModel r = .ok model := hmodel
    have hlevel' : (g.named name).levelFiltering r model = .aggregated entries := hlevel
    unfold levelFilters
    rw [hmodel, hmodel']
    refine Alike.bind_self fun (valid, vs) _ => ?_
    refine Alike.bind_self fun (model?, vs) htake => ?_
    cases htake
    refine Alike.bind_self fun (keys?, vs) hkeys => ?_
    dsimp only [Option.join_some]
    rw [hlevel, hlevel']
    cases vs with
    | cons v vs => exact .error _
    | nil =>
        obtain ⟨-, keys, keyed, rfl⟩ :=
          Violations.take_ok (Violations.explained_finish _ _) hkeys
        have nameless := Expr.filterClosed_nameless.groupKeys (Expr.nameless_column none) keyed
        have compiled := alike_groupAggregatePredicate (r := r) own neutral apart apart' entries
        exact compiled.bind fun e e' same => .ok ⟨rfl,
          List.rel_append (Table.forall₂_sameOnRows nameless) (.cons same .nil)⟩
  · rw [levelFilters_named judged]
    refine Alike.self fun filters accepted => ⟨rfl, Table.forall₂_sameOnRows ?_⟩
    refine forall_levelFilters_of_closed Expr.filterClosed_nameless neutral.hooks
      (Expr.nameless_column none) (fun model entries hmodel hlevel => ?_) accepted
    exact absurd ⟨model, entries, hmodel, hlevel⟩ judged

/-! ## Plans -/

theorem pivotContext_named (g : Grid) (name : String) (r : Request) :
    (g.named name).pivotContext r = g.pivotContext r := by
  have values (cols : List ColumnRef) (count : Nat) :
      (g.named name).pivotValues count cols = g.pivotValues count cols := by
    induction cols generalizing count with
    | nil => rfl
    | cons c cols ih =>
        unfold pivotValues
        simp only [ih]
        rfl
  unfold pivotContext
  rw [values]
  rfl

theorem pivotPredicates_named (pivot : PivotContext) (entries : ColumnFilters) :
    (g.named name).pivotPredicates pivot entries = g.pivotPredicates pivot entries := by
  induction entries with
  | nil => rfl
  | cons entry entries ih =>
      unfold pivotPredicates
      rw [ih]
      rfl

theorem nameless_matching (combination : List PivotPair) (field : String) :
    (PivotContext.matching combination field).Nameless := by
  cases combination with
  | nil => exact Expr.nameless_column none field
  | cons pair combination => exact Expr.nameless_choice none _ none

theorem nameless_of_pivotPredicates (neutral : g.NamesNoTable) {pivot : PivotContext}
    {es : List Expr} (hpivot : g.pivotContext r = .ok pivot)
    (h : g.pivotPredicates pivot entries = .ok es) :
    ∀ e ∈ es, e.Nameless := by
  refine forall_pivotPredicates_of_closed Expr.filterClosed_nameless neutral.hooks.rules
    (fun column hcolumn => ?_) h
  obtain ⟨-, combination, -, c, -, function, -, applied⟩ :=
    exists_applied_of_pivotColumn hpivot hcolumn
  exact neutral.aggregates function _ _ (nameless_matching combination c.field) applied

/-- Whether two plans differ only in predicates on rows, which come to the same row by row. -/
structure SamePlan (g : Grid) (name : String) (p p' : RequestPlan) : Prop where
  clauses : p' = { p with rows := p'.rows }
  rows : List.Forall₂ (g.source.SameOnRows name none) p.rows p'.rows
  conditions : ∀ e ∈ p.having, e.Nameless

theorem alike_plan (own : g.ReadsOwn) (neutral : g.NamesNoTable)
    (apart : g.FiltersDecide r → ToldApart g.table.table ∧ ToldApart name) :
    Alike (g.SamePlan name) (g.plan r) ((g.named name).plan r) := by
  unfold plan
  rw [pivotContext_named]
  refine (alike_levelFilters own neutral apart).bind fun filters filters' ⟨pivots, rows⟩ => ?_
  refine Alike.bind_self fun pivot hpivot => Alike.bind_self fun level _ => ?_
  rw [pivotPredicates_named, pivots]
  exact Alike.bind_self fun having_ hhaving => .ok
    { clauses := rfl
      rows := rows
      conditions := nameless_of_pivotPredicates neutral hpivot hhaving }

/-! ## Answers -/

theorem run_assemble_named (own : g.ReadsOwn) {p p' : RequestPlan} (same : g.SamePlan name p p') :
    (g.named name).source.run ((g.named name).assemble r p') = g.source.run (g.assemble r p) := by
  have level : (g.named name).assemble r p' =
      Query.overRows { g.wholeQuery r p with window := r.window? } (some (g.named name).table)
        (Table.whereClause p'.rows) := by
    rw [same.clauses, assemble_eq_window]
    rfl
  rw [level, assemble_eq_window]
  exact Table.runWithin_overRows own.checkSource checkSource_named
    (Table.sameRows_whereClause same.rows) (Table.resolveOption_whereClause same.conditions)

theorem rows_named (own : g.ReadsOwn) (neutral : g.NamesNoTable)
    (apart : g.FiltersDecide r → ToldApart g.table.table ∧ ToldApart name) :
    (g.named name).rows r = g.rows r := by
  have fromPlan (h : Grid) : h.rows r = (do
      let p ← h.plan r
      let result ← (h.source.run (h.assemble r p)).mapError .source
      let objects := result.rowObjects (!h.settings.grid.suppressDotNotation)
      .ok ⟨objects, rowCount? r objects.length,
        if r.isPivoting then some p.pivot.resultFields else none⟩) := by
    unfold rows query
    cases h.plan r <;> rfl
  rw [fromPlan, fromPlan]
  refine ((alike_plan own neutral apart).bind_eq fun p p' same => ?_).symm
  rw [run_assemble_named own same, same.clauses]
  rfl

theorem run_countingQuery_named (own : g.ReadsOwn) {es es' : List Expr}
    (rows : List.Forall₂ (g.source.SameOnRows name none) es es') (number : Expr) :
    (g.named name).source.run
        (Table.countingQuery (some (g.named name).table) (Table.whereClause es') number) =
      g.source.run (Table.countingQuery (some g.table) (Table.whereClause es) number) :=
  Table.runWithin_overRows (q := Table.countingQuery (some g.table) (Table.whereClause es) number)
    own.checkSource checkSource_named (Table.sameRows_whereClause rows) rfl

/-- The groups that pass the conditions of generated columns are found once for all rows. -/
theorem runWithin_passingGroups_named (own : g.ReadsOwn) {p p' : RequestPlan}
    (same : g.SamePlan name p p') (c : ColumnRef) :
    (g.named name).source.runWithin none
        ((g.named name).passingGroups { p' with groupBy := conditionKeys p' c } c) =
      g.source.runWithin none (g.passingGroups { p with groupBy := conditionKeys p c } c) := by
  rw [same.clauses]
  exact Table.runWithin_overRows
    (q := g.passingGroups { p with groupBy := conditionKeys p c } c) own.checkSource
    checkSource_named (Table.sameRows_whereClause same.rows)
    (Table.resolveOption_whereClause same.conditions)

theorem run_countQuery_named (own : g.ReadsOwn) {p p' : RequestPlan}
    (same : g.SamePlan name p p') :
    (g.named name).source.run ((g.named name).countQuery r p') =
      g.source.run (g.countQuery r p) := by
  have conditions : p'.having = p.having := by rw [same.clauses]
  cases column : g.countedColumn? r with
  | none =>
      have column' : (g.named name).countedColumn? r = none := column
      rw [countQuery_rows column, countQuery_rows column']
      exact run_countingQuery_named own same.rows _
  | some c =>
      have column' : (g.named name).countedColumn? r = some c := column
      by_cases all : p.having = []
      · rw [countQuery_groups column all, countQuery_groups column' (conditions.trans all)]
        exact run_countingQuery_named own same.rows _
      · rw [countQuery_conditions column all,
          countQuery_conditions column' (by rwa [conditions])]
        refine run_countingQuery_named own (List.rel_append same.rows (.cons ?_ .nil)) _
        exact Table.sameOnRows_inQuery (Expr.nameless_column none c.field)
          (runWithin_passingGroups_named own same c) false

theorem count_named (own : g.ReadsOwn) (neutral : g.NamesNoTable)
    (apart : g.FiltersDecide r → ToldApart g.table.table ∧ ToldApart name) :
    (g.named name).count r = g.count r := by
  unfold count
  refine ((alike_plan own neutral apart).bind_eq fun p p' same => ?_).symm
  unfold Table.count
  rw [run_countQuery_named own same]

def answers (g : Grid) (r : Request) : Except QueryError RowBlock × Except QueryError Nat :=
  (g.rows r, g.count r)

theorem answers_named (neutral : g.NamesNoTable) {a b : String}
    (apart : g.FiltersDecide r → ToldApart a ∧ ToldApart b) :
    (g.named a).answers r = (g.named b).answers r := by
  have own : (g.named a).ReadsOwn := beq_self_eq_true _
  have neutral' : (g.named a).NamesNoTable := namesNoTable_named neutral
  have rows : (g.named b).rows r = (g.named a).rows r := rows_named own neutral' apart
  have count : (g.named b).count r = (g.named a).count r := count_named own neutral' apart
  exact Prod.ext rows.symm count.symm

end Grid

namespace GridConfig

variable {c : GridConfig} {r : Request} {a b : String}

/-! ## Tables and grids with the same name -/

def buildAs (c : GridConfig) (name : String) (env : Environment) : Except QueryError Grid :=
  { c with source := c.source.renamed name }.build (some name) env

/-- Whether filters of value columns decide on the groups of a request. -/
structure DecidesOnGroups (c : GridConfig) (r : Request) : Prop where
  enabled : c.settings.grid.filterAggregates = true
  grouping : r.isGrouping = true
  notPivoting : r.isPivoting = false
  keyed : ∃ payload entries, r.filterModel = some payload ∧
    c.recognizers.recognize payload = .ok (.columns entries) ∧
      ∃ value ∈ r.valueCols, ∃ entry ∈ entries, entry.1 = value.field

theorem decidesOnGroups_of_filtersDecide {g : Grid} (h : g.FiltersDecide r) :
    g.DecidesOnGroups r := by
  obtain ⟨model, entries, hmodel, hlevel⟩ := h
  obtain ⟨enabled, grouping, notPivoting, rfl, value, hvalue, entry, hentry, keyed⟩ :=
    Grid.levelFiltering_aggregated hlevel
  unfold Grid.filterModel at hmodel
  split at hmodel
  · next payload hpayload =>
      split at hmodel
      · obtain ⟨_, recognized, heq⟩ := map_ok_iff.1 hmodel
        cases heq
        exact ⟨enabled, grouping, notPivoting, payload, entries, hpayload, recognized, value,
          hvalue, entry, hentry, keyed⟩
      · cases hmodel
  · cases hmodel

theorem buildAs_of_valid (valid : c.settings.fault? = none) {name : String}
    (plain : '.' ∉ name.toList) (env : Environment) :
    c.buildAs name env = .ok (Grid.named ⟨c, { table := c.source.name }, valid⟩ name) := by
  unfold buildAs build
  split
  · next fault invalid =>
      rw [valid] at invalid
      cases invalid
  · dsimp only [bind, Except.bind]
    simp only [TableRef.parse_of_not_mem plain]
    rfl

theorem buildAs_of_fault {fault : InvalidSetting} (invalid : c.settings.fault? = some fault)
    (name : String) (env : Environment) :
    c.buildAs name env = .error (.settings (.invalid fault)) := by
  unfold buildAs build
  split
  · next found hfound =>
      rw [invalid, Option.some.injEq] at hfound
      rw [hfound]
  · next valid =>
      rw [invalid] at valid
      cases valid

/--
Table names are not seen in answers: the same columns and rows under two names, each with a
grid of the same name, give the same rows and the same number of rows, or the same errors. Only
where filters of value columns decide on groups must neither be a name that subqueries have.
-/
theorem answers_buildAs (neutral : c.NamesNoTable) (env : Environment) (r : Request)
    (plain : '.' ∉ a.toList) (plain' : '.' ∉ b.toList)
    (apart : c.DecidesOnGroups r → Grid.ToldApart a ∧ Grid.ToldApart b) :
    (c.buildAs a env).map (·.answers r) = (c.buildAs b env).map (·.answers r) := by
  cases fault : c.settings.fault? with
  | some invalid => rw [buildAs_of_fault fault, buildAs_of_fault fault]
  | none =>
      rw [buildAs_of_valid fault plain, buildAs_of_valid fault plain']
      refine congrArg Except.ok (Grid.answers_named neutral fun judged => apart ?_)
      exact decidesOnGroups_of_filtersDecide judged

end GridConfig

namespace Grid

/-! ## Sales of two countries -/

/-- Sales of two countries, one of which has sold nothing yet, with filtered groups. -/
def newSales : Grid where
  source := ⟨"sales", [⟨"country", .text⟩, ⟨"amount", .integer⟩],
    [[("country", .text "US"), ("amount", .int 5)], [("country", .text "UK"), ("amount", .null)]]⟩
  settings := { grid := { filterAggregates := true } }
  table := { table := "sales" }
  isValid := by decide

def soldByCountry : Request where
  rowGroupCols := [{ field := "country" }]
  valueCols := [{ field := "amount", aggFunc := some "sum" }]
  filterModel := some (.object [("amount", .object [("filterType", .string "number"),
    ("type", .string "notBlank")])])

def amountKnown : ColumnFilters :=
  [("amount", .number ⟨.notBlank, none, none⟩)]

set_option maxRecDepth 20000 in
theorem filterModel_soldByCountry :
    newSales.filterModel soldByCountry = .ok (some (.columns amountKnown)) := by
  cbv

theorem decidesOnGroups_newSales : newSales.DecidesOnGroups soldByCountry :=
  GridConfig.decidesOnGroups_of_filtersDecide ⟨_, _, filterModel_soldByCountry, rfl⟩

theorem hookless_newSales : newSales.Hookless where
  external := rfl
  quickForm := rfl
  quickMatcher := rfl
  rules := fun _ _ h => by cases h

def soldPlan (predicate : Expr) : RequestPlan where
  select := [⟨.col "country", none⟩, ⟨.fn "SUM" [.col "amount"], some "amount"⟩]
  groupBy := [.col "country"]
  rows := [predicate]
  having := []
  pivot := {}

/-- The number of countries, given what the predicate of the groups comes to. -/
theorem count_soldByCountry {name : String} {n : Nat}
    (counted : (((newSales.named name).groupAggregatePredicate soldByCountry
        amountKnown).toOption.bind fun e =>
      ((newSales.named name).source.count
        ((newSales.named name).countQuery soldByCountry (soldPlan e))).toOption) = some n) :
    (newSales.named name).count soldByCountry = .ok n := by
  obtain ⟨predicate, compiled⟩ : ∃ predicate, (newSales.named name).groupAggregatePredicate
      soldByCountry amountKnown = .ok predicate := ⟨_, rfl⟩
  have valid : (newSales.named name).validate soldByCountry = .ok () := by
    cbv
  have filters := levelFilters_of_aggregated rfl valid filterModel_soldByCountry
    (rfl : groupKeyPredicates soldByCountry newSales.source.fieldType = .ok []) compiled
  have planned : (newSales.named name).plan soldByCountry = .ok (soldPlan predicate) :=
    plan_of_not rfl filters rfl
  rw [compiled] at counted
  change ((newSales.named name).source.count
    ((newSales.named name).countQuery soldByCountry (soldPlan predicate))).toOption = some n
      at counted
  unfold count
  rw [planned]
  dsimp only [bind, Except.bind]
  cases found : (newSales.named name).source.count
      ((newSales.named name).countQuery soldByCountry (soldPlan predicate)) with
  | error e =>
      rw [found] at counted
      cases counted
  | ok m =>
      rw [found] at counted
      cases counted
      rfl

theorem count_named_sales : (newSales.named "sales").count soldByCountry = .ok 1 :=
  count_soldByCountry (by decide +kernel)

theorem count_named_leaf : (newSales.named "leaf").count soldByCountry = .ok 2 :=
  count_soldByCountry (by decide +kernel)

/-- The country that has sold something is found under other names that are told apart. -/
theorem answers_buildAs_newSales :
    newSales.NamesNoTable ∧ newSales.DecidesOnGroups soldByCountry ∧
      ToldApart "sales" ∧ ToldApart "orders" ∧
        (newSales.buildAs "orders" fun _ => none).map (·.answers soldByCountry) =
          (newSales.buildAs "sales" fun _ => none).map (·.answers soldByCountry) := by
  have neutral : newSales.NamesNoTable := hookless_newSales.namesNoTable rfl
  have sales : ToldApart "sales" := by decide +kernel
  have orders : ToldApart "orders" := by decide +kernel
  refine ⟨neutral, decidesOnGroups_newSales, sales, orders, ?_⟩
  exact GridConfig.answers_buildAs neutral _ soldByCountry (by decide) (by decide)
    fun _ => ⟨orders, sales⟩

/-- A table with the name of a subquery shows the country that has sold nothing, too. -/
theorem not_answers_buildAs :
    ¬ ∀ (c : GridConfig) (env : Environment) (r : Request) (a b : String), c.NamesNoTable →
      '.' ∉ a.toList → '.' ∉ b.toList →
        (c.buildAs a env).map (·.answers r) = (c.buildAs b env).map (·.answers r) := by
  intro sameAnswers
  have same := sameAnswers newSales.toGridConfig (fun _ => none) soldByCountry "sales" "leaf"
    (hookless_newSales.namesNoTable rfl) (by decide) (by decide)
  rw [GridConfig.buildAs_of_valid newSales.isValid (by decide),
    GridConfig.buildAs_of_valid newSales.isValid (by decide)] at same
  have counts : (newSales.named "sales").count soldByCountry =
      (newSales.named "leaf").count soldByCountry := congrArg Prod.snd (Except.ok.inj same)
  rw [count_named_sales, count_named_leaf] at counts
  cases counts

end Grid

end GridSql
