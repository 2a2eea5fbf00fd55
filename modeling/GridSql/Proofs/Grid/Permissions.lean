import GridSql.Proofs.Grid.AggregateQueries
import GridSql.Proofs.Sql.Nodes

/-!
# What columns may be used for

The server registers what its columns may be used for, and a request is checked against it
before it is compiled. So a query groups by columns that allow it, applies to a column only
functions that it allows, and splits it only by the values of columns that may be pivoted.
A sort key is checked unless its name is taken for that of a generated column, and a group
column may have such a name.
-/

namespace GridSql

def ColumnRegistry.Permits (columns : ColumnRegistry) (use : ColumnDef → Bool) (field : String) :
    Prop :=
  ∃ d, columns.get? field = some d ∧ use d = true

def ColumnDef.enablesAggregate (name : String) (d : ColumnDef) : Bool :=
  d.enableValue && d.allowsAggregate name

def Query.GroupsByPermitted (columns : ColumnRegistry) (q : Query) : Prop :=
  ∀ e ∈ q.groupBy, ∃ field, e = .col field ∧ columns.Permits (·.enableRowGroup) field

namespace Expr

/--
An aggregate that is permitted: the number of rows, or a built-in function of a column that
allows it, where the row matches a combination of pivot values.
-/
inductive PermittedAggregate (columns : ColumnRegistry) : Expr → Prop where
  | countRows : PermittedAggregate columns countRows
  | figure {name : String} {f : AggregateFn} {field : String}
      (builtin : AggregateRegistry.builtin.get? name = some f)
      (value : columns.Permits (·.enablesAggregate name) field)
      (combination : List PivotPair) :
      PermittedAggregate columns (f.apply (PivotContext.matching combination field))

/-- Whether a CASE expression compares a column that may be pivoted. -/
def PermittedCase (columns : ColumnRegistry) (e : Expr) : Prop :=
  ∃ pair combination field, e = PivotContext.matching (pair :: combination) field ∧
    columns.Permits (·.enablePivot) pair.field

/-- Whether an expression itself, its parts apart, uses columns as they are registered. -/
def IsPermitted (columns : ColumnRegistry) : Expr → Prop
  | call name args distinct => (Aggregate.ofName? name).isSome = true →
      PermittedAggregate columns (call name args distinct)
  | choice subject branches otherwise =>
      PermittedCase columns (choice subject branches otherwise)
  | existsIn q _ | inQuery _ q _ => q.GroupsByPermitted columns
  | _ => True

def AllPermitted (columns : ColumnRegistry) (e : Expr) : Prop :=
  ∀ n ∈ e.nodes, n.IsPermitted columns

variable {columns : ColumnRegistry}

theorem allPermitted_col (name : String) : AllPermitted columns (.col name) := by
  simp [AllPermitted, col, nodes, IsPermitted]

theorem allPermitted_literal (v : Value) : AllPermitted columns (.literal v) := by
  simp [AllPermitted, nodes, IsPermitted]

/-- Filters aggregate nothing, compare nothing by CASE and have no subqueries. -/
theorem filterClosed_allPermitted : FilterClosed (AllPermitted columns) where
  literal := allPermitted_literal
  truth _ := by simp [AllPermitted, nodes, IsPermitted]
  binary hl hr _ := by
    simpa [AllPermitted, nodes, IsPermitted, or_imp, forall_and] using ⟨hl, hr⟩
  isNull h _ := by simpa [AllPermitted, nodes, IsPermitted] using h
  cast h _ := by simpa [AllPermitted, nodes, IsPermitted] using h
  like h hpattern _ _ := by
    simpa [AllPermitted, nodes, IsPermitted, or_imp, forall_and] using ⟨h, hpattern⟩
  call {args} h {name} scalar := by
    rw [AllPermitted, nodes, List.forall_mem_cons]
    refine ⟨by simp [IsPermitted, scalar], fun n hn => ?_⟩
    obtain ⟨e, he, hn⟩ := mem_listNodes_iff.1 hn
    exact h e he n hn
  inList h _ hcandidates _ := by
    rw [AllPermitted, nodes, List.forall_mem_cons, List.forall_mem_append]
    refine ⟨trivial, h, fun n hn => ?_⟩
    obtain ⟨e, he, hn⟩ := mem_listNodes_iff.1 hn
    exact hcandidates e he n hn

theorem allPermitted_condition (pair : PivotPair) : AllPermitted columns pair.condition := by
  unfold PivotPair.condition
  split
  · exact filterClosed_allPermitted.isNull (allPermitted_col _) false
  · exact filterClosed_allPermitted.binary (allPermitted_col _) (allPermitted_literal _) .eq

theorem allPermitted_matching {combination : List PivotPair} (field : String)
    (pivots : ∀ pair ∈ combination, columns.Permits (·.enablePivot) pair.field) :
    AllPermitted columns (PivotContext.matching combination field) := by
  induction combination with
  | nil => exact allPermitted_col field
  | cons pair combination ih =>
      obtain ⟨own, others⟩ := List.forall_mem_cons.1 pivots
      have case : IsPermitted columns (PivotContext.matching (pair :: combination) field) :=
        ⟨pair, combination, field, rfl, own⟩
      intro n hn
      have parts : n = PivotContext.matching (pair :: combination) field ∨
          n ∈ pair.condition.nodes ∨ n ∈ (PivotContext.matching combination field).nodes := by
        simpa [PivotContext.matching, caseWhen, nodes, optionNodes, branchNodes] using hn
      rcases parts with rfl | hn | hn
      · exact case
      · exact allPermitted_condition pair n hn
      · exact ih others n hn

theorem allPermitted_countRows : AllPermitted columns countRows := by
  intro n hn
  rw [countRows, count, fn, nodes, listNodes, nodes, listNodes, List.append_nil,
    List.mem_cons, List.mem_singleton] at hn
  rcases hn with rfl | rfl
  · exact fun _ => .countRows
  · trivial

/-- A function of a column that allows it, by values of columns that may be pivoted. -/
theorem allPermitted_figure {name : String} {f : AggregateFn} {field : String}
    {combination : List PivotPair} (builtin : AggregateRegistry.builtin.get? name = some f)
    (value : columns.Permits (·.enablesAggregate name) field)
    (pivots : ∀ pair ∈ combination, columns.Permits (·.enablePivot) pair.field) :
    AllPermitted columns (f.apply (PivotContext.matching combination field)) := by
  have own : PermittedAggregate columns (f.apply (PivotContext.matching combination field)) :=
    .figure builtin value combination
  obtain ⟨sql, aggregate, -, apply⟩ := Grid.apply_of_builtin builtin
  simp only [apply] at own ⊢
  intro n hn
  rw [fn, nodes, listNodes, listNodes, List.append_nil, List.mem_cons] at hn
  rcases hn with rfl | hn
  · exact fun _ => own
  · exact allPermitted_matching field pivots n hn

end Expr

open GridSql.Expr

namespace Grid

variable {g : Grid} {r : Request} {p : RequestPlan} {pivot : PivotContext} {q : Query}

/-! ## What validation has checked -/

theorem knows_eq_false (registered : g.columns.isEmpty = false) {field : String}
    (h : g.columns.get? field = none) :
    g.columns.knows field = false := by
  simp [ColumnRegistry.knows_eq, registered, h]

theorem permits_of_columnUse (registered : g.columns.isEmpty = false) {path : String}
    {use : ColumnDef → Bool} {c : ColumnRef} (h : g.columnUse path c use = []) :
    g.columns.Permits use c.field := by
  unfold columnUse at h
  split at h
  · next d hd =>
      split at h
      · next enabled => exact ⟨d, hd, enabled⟩
      · cases h
  · next unknown => simp [knows_eq_false registered unknown] at h

theorem permits_of_columnUses (registered : g.columns.isEmpty = false) {list : String}
    {use : ColumnDef → Bool} {cols : List ColumnRef} (h : g.columnUses list use cols = []) :
    ∀ c ∈ cols, g.columns.Permits use c.field := by
  intro c hc
  obtain ⟨i, hi⟩ := List.mem_iff_getElem?.1 hc
  have checked := List.flatMap_eq_nil_iff.1 h (c, i) (List.mk_mem_zipIdx_iff_getElem?.2 hi)
  exact permits_of_columnUse registered checked

/-- A value column of a valid request names a function that it allows. -/
theorem permits_of_valueUses (registered : g.columns.isEmpty = false) {cols : List ColumnRef}
    (h : g.valueUses cols = []) :
    ∀ c ∈ cols, ∃ name, c.aggFunc = some name ∧
      g.columns.Permits (·.enablesAggregate name) c.field := by
  intro c hc
  obtain ⟨i, hi⟩ := List.mem_iff_getElem?.1 hc
  have checked := List.flatMap_eq_nil_iff.1 h (c, i) (List.mk_mem_zipIdx_iff_getElem?.2 hi)
  obtain ⟨use, function⟩ := List.append_eq_nil_iff.1 checked
  obtain ⟨d, hd, enabled⟩ := permits_of_columnUse registered use
  unfold aggregateUse at function
  split at function
  · cases function
  · next name hname =>
      rw [hd] at function
      dsimp only at function
      split at function
      · next allowed =>
          exact ⟨name, hname, d, hd, by simp [ColumnDef.enablesAggregate, enabled, allowed]⟩
      · cases function

/-- The columns of a valid request are registered for what they are used for. -/
structure UsesPermitted (g : Grid) (r : Request) : Prop where
  groups : ∀ c ∈ r.rowGroupCols, g.columns.Permits (·.enableRowGroup) c.field
  values : ∀ c ∈ r.valueCols, ∃ name, c.aggFunc = some name ∧
    g.columns.Permits (·.enablesAggregate name) c.field
  pivots : ∀ c ∈ r.pivotCols, g.columns.Permits (·.enablePivot) c.field
  /-- Sort keys are checked where their names are not taken for generated ones. -/
  sorts : ∀ s ∈ r.sortModel, isAutoGroupColumn s.colId = false →
    g.namesPivotColumn r s.colId = false → g.columns.Permits (·.sortable) s.colId

theorem usesPermitted_of_violations (registered : g.columns.isEmpty = false)
    (valid : g.violations r = []) :
    g.UsesPermitted r := by
  simp only [violations, List.append_eq_nil_iff] at valid
  obtain ⟨⟨⟨⟨⟨groups, values⟩, pivots⟩, sorts⟩, -⟩, -⟩ := valid
  refine ⟨permits_of_columnUses registered groups, permits_of_valueUses registered values,
    permits_of_columnUses registered pivots, fun s hs apart own => ?_⟩
  obtain ⟨i, hi⟩ := List.mem_iff_getElem?.1 hs
  have checked := List.flatMap_eq_nil_iff.1 sorts (s, i) (List.mk_mem_zipIdx_iff_getElem?.2 hi)
  simp only [sortUse, apart, own, Bool.or_self, Bool.false_eq_true, if_false] at checked
  split at checked
  · next d hd =>
      split at checked
      · next enabled => exact ⟨d, hd, enabled⟩
      · cases checked
  · next unknown => simp [knows_eq_false registered unknown] at checked

/-! ## The clauses of a plan -/

theorem usesPermitted_of_plan (registered : g.columns.isEmpty = false)
    (accepted : g.plan r = .ok p) :
    g.UsesPermitted r := by
  obtain ⟨filters, -, hfilters, -⟩ := plan_ok accepted
  obtain ⟨-, valid, -⟩ := levelFilters_ok hfilters
  exact usesPermitted_of_violations registered valid

theorem allPermitted_of_apply (builtin : g.aggregates = .builtin) (uses : g.UsesPermitted r)
    {c : ColumnRef} (hc : c ∈ r.valueCols) {function : String}
    (named : AggregateRegistry.functionName c = .ok function) {combination : List PivotPair}
    (pivots : ∀ pair ∈ combination, g.columns.Permits (·.enablePivot) pair.field) {e : Expr}
    (applied : g.aggregates.apply function (PivotContext.matching combination c.field) = .ok e) :
    AllPermitted g.columns e := by
  obtain ⟨name, hname, permits⟩ := uses.values c hc
  rw [AggregateRegistry.functionName, hname] at named
  cases named
  rw [builtin] at applied
  obtain ⟨f, hf, rfl⟩ := AggregateRegistry.apply_ok_iff.1 applied
  exact allPermitted_figure hf permits pivots

theorem allPermitted_of_aggregate (builtin : g.aggregates = .builtin) (uses : g.UsesPermitted r)
    {c : ColumnRef} (hc : c ∈ r.valueCols) {e : Expr} (h : g.aggregates.aggregate c = .ok e) :
    AllPermitted g.columns e := by
  obtain ⟨function, named, applied⟩ := bind_ok_iff.1 h
  have whole : g.aggregates.apply function (PivotContext.matching [] c.field) = .ok e := applied
  exact allPermitted_of_apply builtin uses hc named (by simp) whole

theorem allPermitted_of_generated (registered : g.columns.isEmpty = false)
    (builtin : g.aggregates = .builtin) (accepted : g.plan r = .ok p) :
    ∀ column ∈ p.pivot.columns, AllPermitted g.columns column.expr := by
  have uses := usesPermitted_of_plan registered accepted
  obtain ⟨_, _, -, hpivot, -⟩ := plan_ok accepted
  intro column hcolumn
  obtain ⟨pivoting, combination, hcombination, c, hc, function, named, applied⟩ :=
    exists_applied_of_pivotColumn hpivot hcolumn
  refine allPermitted_of_apply builtin uses hc named (fun pair hpair => ?_) applied
  obtain ⟨d, hd, hfield, -⟩ := exists_pivotCol pivoting accepted hcombination pair hpair
  rw [hfield]
  exact uses.pivots d hd

theorem groupsByPermitted_of_fields (uses : g.UsesPermitted r) {q : Query} {depth : Nat}
    (h : q.groupBy = (r.fieldsTo depth).map .col) :
    q.GroupsByPermitted g.columns := by
  intro e he
  rw [h] at he
  obtain ⟨field, hfield, rfl⟩ := List.mem_map.1 he
  obtain ⟨c, hc, rfl⟩ := List.mem_map.1 hfield
  exact ⟨c.field, rfl, uses.groups c (List.mem_of_mem_take hc)⟩

theorem allPermitted_of_fields {columns : ColumnRegistry} {keys : List Expr} {depth : Nat}
    (h : keys = (r.fieldsTo depth).map .col) :
    ∀ e ∈ keys, AllPermitted columns e := by
  intro e he
  rw [h] at he
  obtain ⟨field, -, rfl⟩ := List.mem_map.1 he
  exact allPermitted_col field

/-- A query groups by the group columns down to some depth, or by none. -/
theorem exists_depth_of_groupBy (accepted : g.plan r = .ok p) :
    ∃ depth, p.groupBy = (r.fieldsTo depth).map .col := by
  cases grouping : r.isGrouping with
  | false => exact ⟨0, (leaf_of_plan_select grouping accepted).1⟩
  | true => exact ⟨r.groupKeys.length + 1, groupBy_of_grouping grouping accepted⟩

theorem allPermitted_sameGroup (table field : String) {columns : ColumnRegistry} :
    AllPermitted columns (sameGroup table field) := by
  simp [AllPermitted, sameGroup, Expr.or, Expr.and, Expr.eq, Expr.col, nodes, IsPermitted]

theorem allPermitted_inside (uses : g.UsesPermitted r) {asName : String}
    {filter having_ : List Expr} {depth : Nat} {groupBy : List Expr}
    (keys : groupBy = (r.fieldsTo depth).map .col) (rows : ∀ e ∈ filter, AllPermitted g.columns e)
    (conditions : ∀ e ∈ having_, AllPermitted g.columns e) :
    AllPermitted g.columns (.existsIn (g.inside asName filter groupBy having_) false) := by
  rw [AllPermitted, nodes, List.forall_mem_cons]
  refine ⟨groupsByPermitted_of_fields uses keys, Query.forall_nodes ?_ ?_ ?_ ?_ ?_⟩
  · intro item hitem
    rw [List.mem_singleton.1 hitem]
    exact allPermitted_literal _
  · exact filterClosed_allPermitted.whereClause rows
  · exact allPermitted_of_fields keys
  · exact filterClosed_allPermitted.whereClause conditions
  · simp [inside]

theorem allPermitted_of_decidesGroups (builtin : g.aggregates = .builtin)
    (hooks : g.HooksKeep (AllPermitted g.columns)) (uses : g.UsesPermitted r)
    {entries : ColumnFilters} {q : Query} (h : g.DecidesGroups r entries q) :
    AllPermitted g.columns (.existsIn q false) := by
  have closed : FilterClosed (AllPermitted g.columns) := filterClosed_allPermitted
  have same (depth : Nat) : ∀ e ∈ g.sameGroups r depth, AllPermitted g.columns e := by
    intro e he
    obtain ⟨field, -, rfl⟩ := List.mem_map.1 he
    exact allPermitted_sameGroup _ field
  rcases h with ⟨predicates, compiled, rfl⟩ | ⟨depth, predicates, compiled, rfl⟩
  · have keys : ([] : List Expr) = (r.fieldsTo 0).map .col := rfl
    refine allPermitted_inside uses keys (List.forall_mem_append.2 ⟨same _, ?_⟩) (by simp)
    exact forall_rowPredicates_of_closed closed hooks.rules allPermitted_col compiled
  · refine allPermitted_inside uses rfl (same depth) ?_
    refine forall_aggregatePredicates_of_closed closed hooks.rules (fun filter hmem a ha => ?_)
      compiled
    obtain ⟨c, hc, hvalue⟩ := List.mem_filterMap.1 hmem
    obtain ⟨entry, -, rfl⟩ := Option.map_eq_some_iff.1 hvalue
    exact allPermitted_of_aggregate builtin uses hc ha

theorem allPermitted_of_select (registered : g.columns.isEmpty = false)
    (builtin : g.aggregates = .builtin) (accepted : g.plan r = .ok p) :
    ∀ item ∈ p.select, AllPermitted g.columns item.expr := by
  have uses := usesPermitted_of_plan registered accepted
  have generated : ∀ item ∈ p.pivot.selectItems, AllPermitted g.columns item.expr := by
    intro item hitem
    obtain ⟨column, hcolumn, rfl⟩ := List.mem_map.1 hitem
    exact allPermitted_of_generated registered builtin accepted column hcolumn
  intro item hitem
  by_cases grouping : r.isGrouping = true
  · obtain ⟨_, level, -, -, hlevel, -, hselect, hgroupBy, -⟩ := plan_ok accepted
    have onLevel (hitem : item ∈ level.select) : AllPermitted g.columns item.expr := by
      rcases mem_select_of_grouping grouping hlevel hitem with ⟨-, key⟩ | rows | ⟨c, hc, aggregate⟩
      · rw [← hgroupBy, groupBy_of_grouping grouping accepted] at key
        obtain ⟨field, -, hfield⟩ := List.mem_map.1 key
        rw [← hfield]
        exact allPermitted_col field
      · rw [rows]
        exact allPermitted_countRows
      · exact allPermitted_of_aggregate builtin uses hc aggregate
    rw [hselect, selectOf_of_grouping grouping] at hitem
    rcases List.mem_append.1 hitem with hitem | hitem
    · exact onLevel hitem
    · exact generated item hitem
  · have leaf : r.isGrouping = false := by simpa using grouping
    rw [(leaf_of_plan_select leaf accepted).2] at hitem
    split at hitem
    · unfold leafItems at hitem
      split at hitem
      · rw [List.mem_singleton.1 hitem]
        simp [AllPermitted, nodes, IsPermitted]
      · obtain ⟨field, -, rfl⟩ := List.mem_map.1 hitem
        exact allPermitted_col field
    · exact generated item hitem

theorem allPermitted_of_having (registered : g.columns.isEmpty = false)
    (builtin : g.aggregates = .builtin) (hooks : g.HooksKeep (AllPermitted g.columns))
    (accepted : g.plan r = .ok p) :
    ∀ e ∈ p.having, AllPermitted g.columns e := by
  obtain ⟨_, _, -, -, -, hhaving, -, -, -⟩ := plan_ok accepted
  exact forall_pivotPredicates_of_closed filterClosed_allPermitted hooks.rules
    (allPermitted_of_generated registered builtin accepted) hhaving

/-! ## Sort keys -/

/-- An expression that reads no single rows is no column. -/
theorem ne_column_of_loose {e : Expr} (h : e.looseColumns = []) (owner : Option String)
    (field : String) :
    e ≠ .column owner field := by
  rintro rfl
  cases h

theorem loose_of_named (builtin : g.aggregates = .builtin) (grouping : r.isGrouping = true)
    (notPivoting : r.isPivoting = false) (accepted : g.plan r = .ok p) :
    ∀ item ∈ p.select, item.asName ≠ none → item.expr.looseColumns = [] := by
  obtain ⟨_, level, -, hpivot, hlevel, -, hselect, -, -⟩ := plan_ok accepted
  rw [pivotContext_of_not notPivoting] at hpivot
  have ungenerated : PivotContext.isEmpty {} = true := rfl
  rw [hselect, selectOf, ← Except.ok.inj hpivot, if_pos ungenerated]
  intro item hitem named
  rcases mem_select_of_grouping grouping hlevel hitem with ⟨unnamed, -⟩ | rows | ⟨c, -, aggregate⟩
  · exact absurd unnamed named
  · rw [rows]
    exact looseColumns_countRows
  · exact loose_of_aggregate builtin aggregate

/-- A sort key is a column of a sort item, a generated column or a named item of a level. -/
theorem mem_planOrderBy {select : List SelectItem} {key : OrderKey}
    (h : key ∈ planOrderBy r select pivot) :
    (∃ s ∈ r.sortModel, isAutoGroupColumn s.colId = false ∧ key = s.key (.col s.colId) ∧
        (s ∈ sortedGroups r ∨ r.isPivoting = false)) ∨
      (∃ column ∈ pivot.columns, column.expr = key.expr) ∨
      (r.isGrouping = true ∧ r.isPivoting = false ∧
        ∃ item ∈ select, item.asName ≠ none ∧ item.expr = key.expr) := by
  have item {s : SortItem} (hs : s ∈ r.sortModel.filter fun s => !isAutoGroupColumn s.colId) :
      s ∈ r.sortModel ∧ isAutoGroupColumn s.colId = false := by
    simpa using List.mem_filter.1 hs
  by_cases groups : r.isGrouping = true ∨ r.isPivoting = true
  · obtain ⟨values, horder, onValues⟩ := planOrderBy_eq groups select pivot
    rw [horder] at h
    rcases List.mem_append.1 h with h | h
    · obtain ⟨s, hs, rfl⟩ := List.mem_map.1 h
      obtain ⟨hmem, apart⟩ := item (List.mem_of_mem_filter hs)
      exact .inl ⟨s, hmem, apart, rfl, .inl hs⟩
    · rcases onValues key h with generated | ⟨notPivoting, shown⟩
      · exact .inr (.inl generated)
      · exact .inr (.inr ⟨by simpa [notPivoting] using groups, notPivoting, shown⟩)
  · have flat : r.isGrouping = false ∧ r.isPivoting = false := by simpa using groups
    rw [planOrderBy, if_pos (by simp [flat])] at h
    obtain ⟨s, hs, rfl⟩ := List.mem_map.1 h
    obtain ⟨hmem, apart⟩ := item hs
    exact .inl ⟨s, hmem, apart, rfl, .inr flat.2⟩

theorem allPermitted_of_orderBy (registered : g.columns.isEmpty = false)
    (builtin : g.aggregates = .builtin) (accepted : g.plan r = .ok p) :
    ∀ key ∈ planOrderBy r p.select p.pivot, AllPermitted g.columns key.expr := by
  intro key hkey
  rcases mem_planOrderBy hkey with ⟨s, -, -, rfl, -⟩ | generated | ⟨-, -, item, hitem, -, hexpr⟩
  · exact allPermitted_col s.colId
  · obtain ⟨column, hcolumn, hexpr⟩ := generated
    rw [← hexpr]
    exact allPermitted_of_generated registered builtin accepted column hcolumn
  · rw [← hexpr]
    exact allPermitted_of_select registered builtin accepted item hitem

theorem exists_item_of_column (builtin : g.aggregates = .builtin) (accepted : g.plan r = .ok p)
    {key : OrderKey} (hkey : key ∈ planOrderBy r p.select p.pivot) {owner : Option String}
    {field : String} (column : key.expr = .column owner field) :
    ∃ s ∈ r.sortModel, isAutoGroupColumn s.colId = false ∧ s.colId = field ∧
      (s ∈ sortedGroups r ∨ r.isPivoting = false) := by
  obtain ⟨_, _, -, hpivot, -⟩ := plan_ok accepted
  rcases mem_planOrderBy hkey with ⟨s, hs, apart, rfl, sorted⟩ | generated |
    ⟨grouping, notPivoting, item, hitem, named, hexpr⟩
  · cases column
    exact ⟨s, hs, apart, rfl, sorted⟩
  · obtain ⟨shown, hshown, hexpr⟩ := generated
    have loose := (loose_of_pivotColumn builtin hpivot shown hshown).1
    exact absurd (hexpr.trans column) (ne_column_of_loose loose owner field)
  · have loose := loose_of_named builtin grouping notPivoting accepted item hitem named
    exact absurd (hexpr.trans column) (ne_column_of_loose loose owner field)

/-- A sorted group column is sorted by, whether or not it looks like a generated one. -/
theorem mem_planOrderBy_of_sorted (pivoting : r.isPivoting = true) {s : SortItem}
    (hs : s ∈ sortedGroups r) (select : List SelectItem) (pivot : PivotContext) :
    s.key (.col s.colId) ∈ planOrderBy r select pivot := by
  obtain ⟨values, horder, -⟩ := planOrderBy_eq (.inr pivoting) select pivot
  rw [horder]
  exact List.mem_append_left _ (List.mem_map_of_mem hs)

/-- Every bare sort key is a group column whose name was not checked, or can be sorted. -/
theorem UsesPermitted.sortable (uses : g.UsesPermitted r) {s : SortItem} (hs : s ∈ r.sortModel)
    (apart : isAutoGroupColumn s.colId = false)
    (sorted : s ∈ sortedGroups r ∨ r.isPivoting = false) :
    g.columns.Permits (·.sortable) s.colId ∨
      s ∈ sortedGroups r ∧ r.isPivoting = true ∧
        r.EndsInValueField g.settings.pivot.separator s.colId := by
  cases named : g.namesPivotColumn r s.colId with
  | false => exact .inl (uses.sorts s hs apart named)
  | true =>
      have pivoting : r.isPivoting = true := by
        by_contra notPivoting
        rw [namesPivotColumn_of_not_pivoting (by simpa using notPivoting)] at named
        cases named
      have group : s ∈ sortedGroups r := by simpa [pivoting] using sorted
      exact .inr ⟨group, pivoting, (namesPivotColumn_iff pivoting).1 named⟩

theorem UsesPermitted.registered_of_sorted (uses : g.UsesPermitted r) {s : SortItem}
    (hs : s ∈ sortedGroups r) :
    ∃ d, g.columns.get? s.colId = some d := by
  obtain ⟨c, hc, hfield⟩ := List.mem_map.1 (mem_groupFields_of_sorted hs)
  obtain ⟨d, hd, -⟩ := uses.groups c (List.mem_of_mem_take hc)
  exact ⟨d, hfield ▸ hd⟩

/--
The query of a request uses columns as they are registered: those that it groups by, those
that it aggregates and the functions of these, and those whose values make its generated
columns. Its bare sort keys are registered columns. They can all be sorted exactly if those
group columns can that are sorted by and have names like those of generated columns.
-/
theorem query_permitted (registered : g.columns.isEmpty = false)
    (builtin : g.aggregates = .builtin) (hooks : g.HooksKeep (AllPermitted g.columns))
    (accepted : g.query r = .ok (q, pivot)) :
    q.GroupsByPermitted g.columns ∧ (∀ n ∈ q.nodes, n.IsPermitted g.columns) ∧
      (∀ key ∈ q.orderBy, ∀ owner field, key.expr = .column owner field →
        ∃ d, g.columns.get? field = some d) ∧
      ((∀ key ∈ q.orderBy, ∀ owner field, key.expr = .column owner field →
          g.columns.Permits (·.sortable) field) ↔
        ∀ s ∈ sortedGroups r, r.isPivoting = true →
          r.EndsInValueField g.settings.pivot.separator s.colId →
            g.columns.Permits (·.sortable) s.colId) := by
  obtain ⟨p, planned, rfl, rfl⟩ := query_ok accepted
  have uses := usesPermitted_of_plan registered planned
  have closed : FilterClosed (AllPermitted g.columns) := filterClosed_allPermitted
  obtain ⟨depth, fields⟩ := exists_depth_of_groupBy planned
  refine ⟨groupsByPermitted_of_fields uses fields, Query.forall_nodes ?_ ?_ ?_ ?_ ?_, ?_, ?_, ?_⟩
  · exact allPermitted_of_select registered builtin planned
  · refine closed.whereClause (forall_rows_of_closed closed hooks allPermitted_col ?_ planned)
    exact fun _ _ _ _ q hq => allPermitted_of_decidesGroups builtin hooks uses hq
  · exact allPermitted_of_fields fields
  · exact closed.whereClause (allPermitted_of_having registered builtin hooks planned)
  · exact allPermitted_of_orderBy registered builtin planned
  · intro key hkey owner field column
    obtain ⟨s, hs, apart, rfl, sorted⟩ := exists_item_of_column builtin planned hkey column
    rcases uses.sortable hs apart sorted with ⟨d, hd, -⟩ | ⟨group, -, -⟩
    · exact ⟨d, hd⟩
    · exact uses.registered_of_sorted group
  · intro sortable s hs pivoting _
    exact sortable _ (mem_planOrderBy_of_sorted pivoting hs p.select p.pivot) none s.colId rfl
  · intro sortable key hkey owner field column
    obtain ⟨s, hs, apart, rfl, sorted⟩ := exists_item_of_column builtin planned hkey column
    rcases uses.sortable hs apart sorted with permitted | ⟨group, pivoting, ends⟩
    · exact permitted
    · exact sortable s group pivoting ends

/-! ## Net wages that cannot be sorted -/

/-- A grid of wages that lets nobody sort the net wages. -/
def unsortedWages : Grid where
  source := netWages.source
  columns :=
    .ofList [{ field := "kind" }, { field := "wage" }, { field := "net_wage", sortable := false }]
  table := netWages.table
  isValid := Settings.fault?_default

def sortedByNetWage : Request where
  rowGroupCols := [{ field := "net_wage" }]
  pivotMode := true
  pivotCols := [{ field := "kind" }]
  valueCols := [{ field := "wage", aggFunc := some "sum" }]
  sortModel := [⟨"net_wage", .asc⟩]

theorem hookless_unsortedWages : unsortedWages.Hookless where
  external := rfl
  quickForm := rfl
  quickMatcher := rfl
  rules := by
    intro field all hall
    obtain ⟨d, hd, hfilter⟩ := Option.bind_eq_some_iff.1 hall
    have defs : unsortedWages.columns.defs =
        [{ field := "kind" }, { field := "wage" }, { field := "net_wage", sortable := false }] :=
      rfl
    have unfiltered : ∀ d ∈ unsortedWages.columns.defs, d.filter = none := by simp [defs]
    rw [unfiltered d (ColumnRegistry.get?_eq_some_iff.1 hd).1] at hfilter
    cases hfilter

theorem query_sortedByNetWage :
    ∃ answer, unsortedWages.query sortedByNetWage = .ok answer ∧ answer.1.orderBy.length = 1 :=
  exists_of_toOption_map (by decide +kernel)

theorem sortedGroups_sortedByNetWage : sortedGroups sortedByNetWage = [⟨"net_wage", .asc⟩] := by
  decide +kernel

theorem not_permits_netWage : ¬ unsortedWages.columns.Permits (·.sortable) "net_wage" := by
  rintro ⟨d, hd, sortable⟩
  have own : unsortedWages.columns.get? "net_wage" =
      some { field := "net_wage", sortable := false } := by
    cbv
  rw [own] at hd
  cases hd
  cases sortable

/-- The net wages look like wages of a kind, so they are sorted by all the same. -/
theorem query_permitted_sortedByNetWage :
    unsortedWages.columns.isEmpty = false ∧ unsortedWages.aggregates = .builtin ∧
      unsortedWages.HooksKeep (AllPermitted unsortedWages.columns) ∧ ∃ q pivot,
        unsortedWages.query sortedByNetWage = .ok (q, pivot) ∧
        q.GroupsByPermitted unsortedWages.columns ∧
        (∀ n ∈ q.nodes, n.IsPermitted unsortedWages.columns) ∧
        ¬ ∀ key ∈ q.orderBy, ∀ owner field, key.expr = .column owner field →
          unsortedWages.columns.Permits (·.sortable) field := by
  obtain ⟨⟨q, pivot⟩, accepted, -⟩ := query_sortedByNetWage
  have hooks := hookless_unsortedWages.hooksKeep (AllPermitted unsortedWages.columns)
  obtain ⟨groups, parts, -, sorted⟩ := query_permitted rfl rfl hooks accepted
  refine ⟨rfl, rfl, hooks, q, pivot, accepted, groups, parts, sorted.not.2 fun sortable => ?_⟩
  have named : unsortedWages.namesPivotColumn sortedByNetWage "net_wage" = true := by
    decide +kernel
  exact not_permits_netWage (sortable ⟨"net_wage", .asc⟩
    (by rw [sortedGroups_sortedByNetWage]; exact List.mem_cons_self) rfl
    ((namesPivotColumn_iff rfl).1 named))

/-- A query may be sorted by a column that cannot be sorted. -/
theorem not_query_permitted :
    ¬ ∀ (g : Grid) (r : Request) (q : Query) (pivot : PivotContext), g.columns.isEmpty = false →
      g.aggregates = .builtin → g.Hookless → g.query r = .ok (q, pivot) →
        ∀ key ∈ q.orderBy, ∀ field, key.expr = .col field →
          g.columns.Permits (·.sortable) field := by
  intro permits
  obtain ⟨⟨q, pivot⟩, accepted, -⟩ := query_sortedByNetWage
  have sortable := permits _ _ _ _ rfl rfl hookless_unsortedWages accepted
  obtain ⟨p, -, rfl, rfl⟩ := query_ok accepted
  exact not_permits_netWage (sortable _ (mem_planOrderBy_of_sorted rfl
    (by rw [sortedGroups_sortedByNetWage]; exact List.mem_cons_self) p.select p.pivot) _ rfl)

end Grid

end GridSql
