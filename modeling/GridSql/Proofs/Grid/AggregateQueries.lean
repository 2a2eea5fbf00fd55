import GridSql.Proofs.Filter.Correctness
import GridSql.Proofs.Filter.Forms
import GridSql.Proofs.Grid.GroupAggregates
import GridSql.Proofs.Grid.Pivoted

/-!
# Queries that aggregate

A query that groups rows or calls an aggregate has one output row for many rows, so outside
of aggregate calls it may only read the columns that it groups by. The query of a request
does so at every level of groups. Of all rows of an expanded level it shows aggregates only
for generated columns, and there a sort key on a group column reads what is not grouped.
-/

namespace GridSql

namespace Expr

mutual

/-- The columns and stars of an expression outside of aggregate calls, subqueries apart. -/
def looseColumns : Expr → List Expr
  | column table name => [column table name]
  | star table => [star table]
  | call name args _ => if (Aggregate.ofName? name).isSome then [] else listLoose args
  | binary _ l r => l.looseColumns ++ r.looseColumns
  | unary _ e | cast e _ | isNull e _ | paren e | inQuery e _ _ => e.looseColumns
  | choice subject branches otherwise =>
      optionLoose subject ++ branchLoose branches ++ optionLoose otherwise
  | inList e candidates _ => e.looseColumns ++ listLoose candidates
  | between e low high _ => e.looseColumns ++ low.looseColumns ++ high.looseColumns
  | like e pattern _ _ => e.looseColumns ++ pattern.looseColumns
  | existsIn _ _ | literal _ | truth _ => []

def listLoose : List Expr → List Expr
  | [] => []
  | e :: es => e.looseColumns ++ listLoose es

def optionLoose : Option Expr → List Expr
  | some e => e.looseColumns
  | none => []

def branchLoose : List (Expr × Expr) → List Expr
  | [] => []
  | (condition, result) :: rest =>
      condition.looseColumns ++ result.looseColumns ++ branchLoose rest

end

/-- Whether an expression reads single rows only in some columns. -/
def ReadsOnly (keys : List Expr) (e : Expr) : Prop :=
  ∀ c ∈ e.looseColumns, c ∈ keys

theorem mem_listLoose_iff {es : List Expr} {c : Expr} :
    c ∈ listLoose es ↔ ∃ e ∈ es, c ∈ e.looseColumns := by
  induction es with
  | nil => simp [listLoose]
  | cons e es ih => simp [listLoose, ih]

theorem anyAggregate_eq_false_iff {es : List Expr} :
    anyAggregate es = false ↔ ∀ e ∈ es, e.hasAggregate = false := by
  induction es with
  | nil => simp [anyAggregate]
  | cons e es ih => simp [anyAggregate, ih]

theorem filterClosed_hasAggregate : FilterClosed fun e => e.hasAggregate = false where
  literal _ := by rw [hasAggregate]
  truth _ := by rw [hasAggregate]
  binary hl hr _ := by rw [hasAggregate, hl, hr]; rfl
  isNull h _ := by rw [hasAggregate, h]
  cast h _ := by rw [hasAggregate, h]
  like h hpattern _ _ := by rw [hasAggregate, h, hpattern]; rfl
  call h _ scalar := by rw [hasAggregate, scalar, anyAggregate_eq_false_iff.2 h]; rfl
  inList h _ hcandidates _ := by rw [hasAggregate, h, anyAggregate_eq_false_iff.2 hcandidates]; rfl

/-- Filters read nothing but what they apply to. -/
theorem filterClosed_readsOnly (keys : List Expr) : FilterClosed (ReadsOnly keys) where
  literal _ := by simp [ReadsOnly, looseColumns]
  truth _ := by simp [ReadsOnly, looseColumns]
  binary hl hr _ := by simpa [ReadsOnly, looseColumns, or_imp, forall_and] using ⟨hl, hr⟩
  isNull h _ := by simpa [ReadsOnly, looseColumns] using h
  cast h _ := by simpa [ReadsOnly, looseColumns] using h
  like h hpattern _ _ := by
    simpa [ReadsOnly, looseColumns, or_imp, forall_and] using ⟨h, hpattern⟩
  call h _ scalar := by
    intro c hc
    rw [looseColumns, scalar, if_neg (by simp), mem_listLoose_iff] at hc
    obtain ⟨e, he, hmem⟩ := hc
    exact h e he c hmem
  inList h _ hcandidates _ := by
    intro c hc
    rw [looseColumns, List.mem_append, mem_listLoose_iff] at hc
    rcases hc with hc | ⟨e, he, hmem⟩
    · exact h c hc
    · exact hcandidates e he c hmem

end Expr

/-! ## Clauses of a query -/

theorem FilterClosed.whereClause {C : Expr → Prop} (closed : FilterClosed C) {es : List Expr}
    (h : ∀ e ∈ es, C e) :
    ∀ e ∈ Table.whereClause es, C e := by
  cases es with
  | nil => simp [Table.whereClause]
  | cons first rest =>
      intro e he
      cases he
      exact closed.forms.joinAll rfl h true

theorem Expr.looseColumns_countRows : Expr.countRows.looseColumns = [] := by
  have count : Aggregate.ofName? "COUNT" = some .count := Aggregate.ofName?_name .count
  simp [countRows, Expr.count, fn, looseColumns, count]

namespace Query

def shown (q : Query) : List Expr :=
  q.select.map (·.expr) ++ q.having.toList ++ q.orderBy.map (·.expr)

/-- Whether a query makes one row of many. -/
def Aggregates (q : Query) : Prop :=
  q.groupBy ≠ [] ∨ ∃ e ∈ q.shown, e.hasAggregate = true

/-- Whether a query that aggregates reads single rows only in the columns that it groups by. -/
def FitsGroups (q : Query) : Prop :=
  q.Aggregates → ∀ e ∈ q.shown, e.ReadsOnly q.groupBy

end Query

structure GridConfig.HooksKeep (C : Expr → Prop) (c : GridConfig) : Prop where
  external : ∀ hook, c.externalFilter = some hook → ∀ payload e, hook payload = some e → C e
  quickForm : ∀ f, c.quickFilter.formatter = some f → ∀ e, C e → C (f e)
  quickMatcher : ∀ f, c.quickFilter.matcher = some f → ∀ words searched, (∀ e ∈ words, C e) →
    (∀ e ∈ searched, C e) → C (f words searched)
  rules : ∀ field, FilterRules.HooksKeep C (c.columns.rulesFor field)

namespace Grid

variable {g : Grid} {r : Request} {p : RequestPlan} {pivot : PivotContext}

/-- Whether no hook of the server makes expressions. -/
structure Hookless (g : Grid) : Prop where
  external : g.externalFilter = none
  quickForm : g.quickFilter.formatter = none
  quickMatcher : g.quickFilter.matcher = none
  rules : ∀ field, FilterRules.AllPlain (g.columns.rulesFor field)

theorem Hookless.keep (hookless : g.Hookless) (C : Expr → Prop) (field : String) :
    FilterRules.HooksKeep C (g.columns.rulesFor field) :=
  FilterRules.hooksKeep_iff.2 (hookless.rules field).hooksFit

theorem Hookless.hooksKeep (hookless : g.Hookless) (C : Expr → Prop) : g.HooksKeep C where
  external := by simp [hookless.external]
  quickForm := by simp [hookless.quickForm]
  quickMatcher := by simp [hookless.quickMatcher]
  rules := hookless.keep C

/-! ## Rows -/

def DecidesGroups (g : Grid) (r : Request) (entries : ColumnFilters) (q : Query) : Prop :=
  IsRowQuery g r entries q ∨ ∃ depth, IsGroupQuery g r entries depth q

section

variable {C : Expr → Prop} (closed : FilterClosed C)
  (rules : ∀ field, FilterRules.HooksKeep C (g.columns.rulesFor field))
  {filters : List (ColumnRef × ColumnFilter)} {predicates : List Expr}

include closed rules

theorem forall_rowPredicates_of_closed (columns : ∀ name, C (.col name))
    (compiled : List.Forall₂
      (fun filter e => g.filterContext.compileColumn filter.1.field filter.2 = .ok e)
      filters predicates) :
    ∀ e ∈ predicates, C e := by
  intro e he
  obtain ⟨filter, -, hfilter⟩ := exists_of_mem_right compiled he
  exact closed.compile (columns _) (rules _) hfilter

theorem forall_aggregatePredicates_of_closed
    (aggregates : ∀ filter ∈ filters, ∀ a, g.aggregates.aggregate filter.1 = .ok a → C a)
    (compiled : List.Forall₂ (fun filter e => g.aggregatePredicate filter.1 filter.2 = .ok e)
      filters predicates) :
    ∀ e ∈ predicates, C e := by
  intro e he
  obtain ⟨filter, hmem, hfilter⟩ := exists_of_mem_right compiled he
  obtain ⟨a, ha, compiled⟩ := bind_ok_iff.1 hfilter
  exact closed.compile (aggregates filter hmem a ha) (rules _) compiled

end

theorem forall_levelFilters_of_closed {C : Expr → Prop} (closed : FilterClosed C)
    (hooks : g.HooksKeep C) (columns : ∀ name, C (.col name))
    (subqueries : ∀ model entries, g.filterModel r = .ok model →
      g.levelFiltering r model = .aggregated entries →
        ∀ q, g.DecidesGroups r entries q → C (.existsIn q false))
    {filters : LevelFilters} (accepted : g.levelFilters r = .ok filters) :
    ∀ e ∈ filters.rows, C e := by
  obtain ⟨-, -, model, keys, hmodel, hkeys, restricts⟩ := levelFilters_ok accepted
  have free : ∀ e ∈ g.freePredicates r, C e := by
    intro e he
    rcases mem_freePredicates he with ⟨hook, payload, hhook, he⟩ | ⟨text, quick⟩
    · exact hooks.external hook hhook payload e he
    · exact closed.quick columns hooks.quickForm hooks.quickMatcher quick
  refine restricts.forall_rows (closed.groupKeys columns hkeys) free
    (fun entries e level compiled => ?_)
    (fun _ _ compiled => closed.compileAdvanced columns hooks.rules compiled)
    fun field _ _ compiled => closed.compile (columns _) (hooks.rules field) compiled
  obtain ⟨leaf, groups, rfl, hleaf, hgroups⟩ := groupAggregatePredicate_ok compiled
  refine closed.forms.joinAll rfl (fun e he => ?_) false
  obtain ⟨q, hq, rfl⟩ := List.mem_map.1 he
  refine subqueries _ _ hmodel level q ?_
  rcases List.mem_cons.1 hq with rfl | hq
  · exact .inl hleaf
  · obtain ⟨depth, -, hgroup⟩ := exists_of_mem_right hgroups hq
    exact .inr ⟨_, hgroup⟩

theorem forall_rows_of_closed {C : Expr → Prop} (closed : FilterClosed C)
    (hooks : g.HooksKeep C) (columns : ∀ name, C (.col name))
    (subqueries : ∀ model entries, g.filterModel r = .ok model →
      g.levelFiltering r model = .aggregated entries →
        ∀ q, g.DecidesGroups r entries q → C (.existsIn q false))
    (accepted : g.plan r = .ok p) :
    ∀ e ∈ p.rows, C e := by
  obtain ⟨_, _, hfilters, -, -, -, -, -, hrows⟩ := plan_ok accepted
  rw [hrows]
  exact forall_levelFilters_of_closed closed hooks columns subqueries hfilters

/-! ## Aggregates of value columns -/

/-- What a built-in function makes of an expression reads no single rows. -/
theorem loose_of_apply (builtin : g.aggregates = .builtin) {name : String} {e a : Expr}
    (h : g.aggregates.apply name e = .ok a) :
    a.looseColumns = [] ∧ a.hasAggregate = true := by
  rw [builtin] at h
  obtain ⟨f, hf, rfl⟩ := AggregateRegistry.apply_ok_iff.1 h
  obtain ⟨sql, aggregate, known, apply⟩ := apply_of_builtin hf
  rw [apply]
  simp [Expr.fn, Expr.looseColumns, Expr.hasAggregate, known]

theorem loose_of_aggregate (builtin : g.aggregates = .builtin) {c : ColumnRef} {a : Expr}
    (h : g.aggregates.aggregate c = .ok a) :
    a.looseColumns = [] := by
  obtain ⟨name, -, h⟩ := bind_ok_iff.1 h
  exact (loose_of_apply builtin h).1

theorem exists_applied_of_pivotColumn (hpivot : g.pivotContext r = .ok pivot)
    {column : PivotColumn} (h : column ∈ pivot.columns) :
    r.isPivoting = true ∧ ∃ combination ∈ pivot.combinations, ∃ c ∈ r.valueCols, ∃ function,
      AggregateRegistry.functionName c = .ok function ∧
        g.aggregates.apply function (PivotContext.matching combination c.field) =
          .ok column.expr := by
  unfold pivotContext at hpivot
  split at hpivot
  · next pivoting =>
      obtain ⟨values, -, built⟩ := bind_ok_iff.1 hpivot
      obtain ⟨-, -, columns, hcolumns, made⟩ := PivotContext.build_ok built
      rw [hcolumns] at h
      obtain ⟨list, hlist, hmem⟩ := List.mem_flatten.1 h
      obtain ⟨combination, hcombination, hmade⟩ := exists_of_mem_right made hlist
      obtain ⟨c, hc, -, function, named, applied⟩ :=
        exists_of_mem_right (PivotContext.columnsOf_ok hmade) hmem
      exact ⟨pivoting, combination, hcombination, c, hc, function, named, applied⟩
  · cases hpivot
    cases h

theorem loose_of_pivotColumn (builtin : g.aggregates = .builtin)
    (hpivot : g.pivotContext r = .ok pivot) :
    ∀ column ∈ pivot.columns, column.expr.looseColumns = [] ∧ column.expr.hasAggregate = true := by
  intro column hcolumn
  obtain ⟨-, _, -, _, -, _, -, applied⟩ := exists_applied_of_pivotColumn hpivot hcolumn
  exact loose_of_apply builtin applied

theorem mem_of_expression? {name : String} {e : Expr} (h : pivot.expression? name = some e) :
    ∃ column ∈ pivot.columns, column.expr = e := by
  obtain ⟨column, hcolumn, rfl⟩ := Option.map_eq_some_iff.1 h
  exact ⟨column, List.mem_of_find?_eq_some hcolumn, rfl⟩

theorem readsOnly_of_loose {keys : List Expr} {e : Expr} (h : e.looseColumns = []) :
    e.ReadsOnly keys := by
  simp [Expr.ReadsOnly, h]

theorem readsOnly_generated (builtin : g.aggregates = .builtin)
    (hpivot : g.pivotContext r = .ok pivot) {keys : List Expr} {e : Expr}
    (h : ∃ column ∈ pivot.columns, column.expr = e) :
    e.ReadsOnly keys := by
  obtain ⟨column, hcolumn, rfl⟩ := h
  exact readsOnly_of_loose (loose_of_pivotColumn builtin hpivot column hcolumn).1

/-! ## Conditions of generated columns -/

theorem mem_of_pivotPredicates {entries : ColumnFilters} {es : List Expr}
    (h : g.pivotPredicates pivot entries = .ok es) {predicate : Expr} (hmem : predicate ∈ es) :
    ∃ (name : String) (e : Expr) (target : FilterTarget) (f : ColumnFilter) (field : String),
      pivot.expression? name = some e ∧ target.expr = e ∧
        f.compile target (g.columns.rulesFor field) = .ok predicate := by
  induction entries generalizing es with
  | nil =>
      cases h
      cases hmem
  | cons entry rest ih =>
      obtain ⟨id, f⟩ := entry
      unfold pivotPredicates at h
      split at h
      · exact ih h hmem
      · next e he =>
          obtain ⟨first, hfirst, h⟩ := bind_ok_iff.1 h
          obtain ⟨others, hothers, h⟩ := bind_ok_iff.1 h
          cases h
          rcases List.mem_cons.1 hmem with rfl | hmem
          · exact ⟨id, e, _, f, _, he, rfl, hfirst⟩
          · exact ih hothers hmem

theorem forall_pivotPredicates_of_closed {C : Expr → Prop} (closed : FilterClosed C)
    (rules : ∀ field, FilterRules.HooksKeep C (g.columns.rulesFor field))
    (generated : ∀ column ∈ pivot.columns, C column.expr) {entries : ColumnFilters}
    {es : List Expr} (h : g.pivotPredicates pivot entries = .ok es) :
    ∀ e ∈ es, C e := by
  intro predicate hmem
  obtain ⟨name, e, target, f, field, he, rfl, compiled⟩ := mem_of_pivotPredicates h hmem
  obtain ⟨column, hcolumn, hexpr⟩ := mem_of_expression? he
  have own : C target.expr := by
    rw [← hexpr]
    exact generated column hcolumn
  exact closed.compile own (rules field) compiled

theorem readsOnly_having (builtin : g.aggregates = .builtin) (hookless : g.Hookless)
    (accepted : g.plan r = .ok p) (keys : List Expr) :
    ∀ e ∈ p.having, e.ReadsOnly keys := by
  obtain ⟨_, _, -, hpivot, -, hhaving, -, -, -⟩ := plan_ok accepted
  refine forall_pivotPredicates_of_closed (Expr.filterClosed_readsOnly keys) (hookless.keep _)
    (fun column hcolumn => ?_) hhaving
  exact readsOnly_generated builtin hpivot ⟨column, hcolumn, rfl⟩

/-! ## Levels of groups -/

theorem mem_select_of_grouping {projection : List String} {childCount : Option String}
    {level : GroupingPlan} (grouping : r.isGrouping = true)
    (h : GroupingPlan.ofRequest r g.aggregates projection childCount = .ok level)
    {item : SelectItem} (hitem : item ∈ level.select) :
    item.asName = none ∧ item.expr ∈ level.groupBy ∨ item.expr = Expr.countRows ∨
      ∃ c ∈ r.valueCols, g.aggregates.aggregate c = .ok item.expr := by
  have split_items (values : List SelectItem)
      (hlevel : level = ⟨(r.activeGroupCols.map fun c => Expr.col c.field).map (⟨·, none⟩) ++
        (childCount.map fun asName => (⟨Expr.countRows, some asName⟩ : SelectItem)).toList ++
          values, r.activeGroupCols.map fun c => Expr.col c.field⟩) :
      item.asName = none ∧ item.expr ∈ level.groupBy ∨ item.expr = Expr.countRows ∨
        item ∈ values := by
    subst hlevel
    rcases List.mem_append.1 hitem with hitem | hitem
    · rcases List.mem_append.1 hitem with hitem | hitem
      · obtain ⟨key, hkey, rfl⟩ := List.mem_map.1 hitem
        exact .inl ⟨rfl, hkey⟩
      · obtain ⟨asName, -, rfl⟩ := Option.map_eq_some_iff.1 (Option.mem_toList.1 hitem)
        exact .inr (.inl rfl)
    · exact .inr (.inr hitem)
  rw [GroupingPlan.ofRequest, if_pos grouping] at h
  dsimp only at h
  split at h
  · cases h
    refine (split_items [] rfl).imp_right (Or.imp_right ?_)
    simp
  · obtain ⟨values, hvalues, h⟩ := bind_ok_iff.1 h
    cases h
    refine (split_items values rfl).imp_right (Or.imp_right fun hmem => ?_)
    obtain ⟨c, hc, made⟩ := exists_of_mem_right (mapM_ok_iff.1 hvalues) hmem
    obtain ⟨e, he, made⟩ := bind_ok_iff.1 made
    cases made
    exact ⟨c, hc, he⟩

theorem readsOnly_of_mem_groupBy (accepted : g.plan r = .ok p) (grouping : r.isGrouping = true)
    {e : Expr} (h : e ∈ p.groupBy) :
    e.ReadsOnly p.groupBy := by
  obtain ⟨field, -, rfl⟩ : ∃ field ∈ r.groupFields, .col field = e := by
    rw [groupBy_of_grouping grouping accepted] at h
    exact List.mem_map.1 h
  intro c hc
  rw [Expr.col, Expr.looseColumns, List.mem_singleton] at hc
  rw [hc]
  exact h

theorem readsOnly_select (builtin : g.aggregates = .builtin) (accepted : g.plan r = .ok p)
    (grouping : r.isGrouping = true) :
    ∀ item ∈ p.select, item.expr.ReadsOnly p.groupBy := by
  obtain ⟨_, level, -, hpivot, hlevel, -, hselect, hgroupBy, -⟩ := plan_ok accepted
  intro item hitem
  have onLevel (hitem : item ∈ level.select) : item.expr.ReadsOnly p.groupBy := by
    rcases mem_select_of_grouping grouping hlevel hitem with ⟨-, key⟩ | count | ⟨c, -, aggregate⟩
    · rw [← hgroupBy] at key
      exact readsOnly_of_mem_groupBy accepted grouping key
    · rw [count]
      exact readsOnly_of_loose Expr.looseColumns_countRows
    · exact readsOnly_of_loose (loose_of_aggregate builtin aggregate)
  rw [hselect, selectOf_of_grouping grouping] at hitem
  rcases List.mem_append.1 hitem with hitem | hitem
  · exact onLevel hitem
  · obtain ⟨column, hcolumn, rfl⟩ := List.mem_map.1 hitem
    exact readsOnly_generated builtin hpivot ⟨column, hcolumn, rfl⟩

/-! ## Sort keys -/

def sortedGroups (r : Request) : List SortItem :=
  (r.sortModel.filter fun s => !isAutoGroupColumn s.colId).filter fun s =>
    r.activeGroupCols.any (·.field = s.colId)

/-- Behind the group columns come generated columns, or selected values where there are none. -/
theorem planOrderBy_eq (groups : r.isGrouping = true ∨ r.isPivoting = true)
    (select : List SelectItem) (pivot : PivotContext) :
    ∃ values, planOrderBy r select pivot =
        (sortedGroups r).map (fun s => s.key (.col s.colId)) ++ values ∧
      ∀ key ∈ values, (∃ column ∈ pivot.columns, column.expr = key.expr) ∨
        r.isPivoting = false ∧ ∃ item ∈ select, item.asName ≠ none ∧ item.expr = key.expr := by
  have notFlat : ¬ (!r.isPivoting && !r.isGrouping) = true := by
    rcases groups with h | h <;> simp [h]
  unfold planOrderBy
  dsimp only
  rw [if_neg notFlat]
  refine ⟨_, rfl, fun key hkey => ?_⟩
  obtain ⟨s, -, hs⟩ := List.mem_filterMap.1 hkey
  obtain ⟨e, he, rfl⟩ := Option.map_eq_some_iff.1 hs
  split at he
  · exact .inl (mem_of_expression? he)
  · next notPivoting =>
      obtain ⟨item, hitem, named, rfl⟩ := exists_of_selectedValue? he
      exact .inr ⟨by simpa using notPivoting, item, hitem, by simp [named], rfl⟩

theorem mem_groupFields_of_sorted {s : SortItem} (h : s ∈ sortedGroups r) :
    s.colId ∈ r.groupFields := by
  obtain ⟨c, hc, hcol⟩ := List.any_eq_true.1 (List.mem_filter.1 h).2
  exact List.mem_map.2 ⟨c, hc, by simpa using hcol⟩

/-! ## Queries of a request -/

variable {q : Query}

theorem query_ok (h : g.query r = .ok (q, pivot)) :
    ∃ p, g.plan r = .ok p ∧ p.pivot = pivot ∧
      q = { g.wholeQuery r p with window := r.window? } := by
  obtain ⟨p, hp, h⟩ := bind_ok_iff.1 h
  cases h
  exact ⟨p, hp, rfl, assemble_eq_window g r p⟩

theorem forall_shown_iff {P : Expr → Prop} {window : Option Window} :
    (∀ e ∈ { g.wholeQuery r p with window }.shown, P e) ↔
      (∀ item ∈ p.select, P item.expr) ∧ (∀ e ∈ Table.whereClause p.having, P e) ∧
        ∀ key ∈ planOrderBy r p.select p.pivot, P key.expr := by
  simp [Query.shown, wholeQuery, levelQuery, or_imp, forall_and]

theorem fitsGroups_of_grouping (builtin : g.aggregates = .builtin) (hookless : g.Hookless)
    (grouping : r.isGrouping = true) (accepted : g.plan r = .ok p) (window : Option Window) :
    { g.wholeQuery r p with window }.FitsGroups := by
  obtain ⟨_, _, -, hpivot, -⟩ := plan_ok accepted
  intro _
  refine forall_shown_iff.2 ⟨readsOnly_select builtin accepted grouping, ?_, ?_⟩
  · exact (Expr.filterClosed_readsOnly _).whereClause
      (readsOnly_having builtin hookless accepted p.groupBy)
  · obtain ⟨values, horder, onValues⟩ := planOrderBy_eq (.inl grouping) p.select p.pivot
    rw [horder, List.forall_mem_append]
    refine ⟨fun key hkey => ?_, fun key hkey => ?_⟩
    · obtain ⟨s, hs, rfl⟩ := List.mem_map.1 hkey
      refine readsOnly_of_mem_groupBy accepted grouping ?_
      rw [groupBy_of_grouping grouping accepted]
      exact List.mem_map_of_mem (mem_groupFields_of_sorted hs)
    · rcases onValues key hkey with generated | ⟨-, item, hitem, -, hexpr⟩
      · exact readsOnly_generated builtin hpivot generated
      · rw [← hexpr]
        exact readsOnly_select builtin accepted grouping item hitem

/-! ## Levels of rows -/

theorem leaf_of_plan_select (leaf : r.isGrouping = false) (accepted : g.plan r = .ok p) :
    p.groupBy = [] ∧ p.select =
      if p.pivot.isEmpty then leafItems g.columns.fields else p.pivot.selectItems := by
  obtain ⟨_, level, -, -, hlevel, -, hselect, hgroupBy, -⟩ := plan_ok accepted
  unfold GroupingPlan.ofRequest at hlevel
  rw [if_neg (by simp [leaf]), Except.ok.injEq] at hlevel
  rw [hgroupBy, hselect, ← hlevel, selectOf, leaf]
  exact ⟨rfl, rfl⟩

theorem having_of_isEmpty (empty : p.pivot.isEmpty = true) (accepted : g.plan r = .ok p) :
    p.having = [] := by
  obtain ⟨_, _, -, -, -, hhaving, -, -, -⟩ := plan_ok accepted
  refine List.eq_nil_iff_forall_not_mem.2 fun predicate hmem => ?_
  obtain ⟨name, e, -, -, -, he, -, -⟩ := mem_of_pivotPredicates hhaving hmem
  obtain ⟨column, hcolumn, -⟩ := mem_of_expression? he
  rw [List.isEmpty_iff.1 empty] at hcolumn
  cases hcolumn

/-- The rows of a level are sorted by columns of the table and by generated columns. -/
theorem mem_planOrderBy_of_rows (leaf : r.isGrouping = false) {select : List SelectItem}
    {key : OrderKey} (h : key ∈ planOrderBy r select pivot) :
    (∃ name, key.expr = .col name) ∨ ∃ column ∈ pivot.columns, column.expr = key.expr := by
  by_cases pivoting : r.isPivoting = true
  · obtain ⟨values, horder, onValues⟩ := planOrderBy_eq (.inr pivoting) select pivot
    rw [horder] at h
    rcases List.mem_append.1 h with h | h
    · obtain ⟨s, -, rfl⟩ := List.mem_map.1 h
      exact .inl ⟨s.colId, rfl⟩
    · rcases onValues key h with generated | ⟨notPivoting, -⟩
      · exact .inr generated
      · rw [pivoting] at notPivoting
        cases notPivoting
  · obtain ⟨s, -, -, hexpr⟩ := mem_planOrderBy_of_leaf leaf (by simpa using pivoting) h
    exact .inl ⟨s.colId, hexpr⟩

/-- Rows are shown one by one unless there are generated columns. -/
theorem not_aggregates_of_leaf (leaf : r.isGrouping = false) (empty : p.pivot.isEmpty = true)
    (accepted : g.plan r = .ok p) (window : Option Window) :
    ¬ { g.wholeQuery r p with window }.Aggregates := by
  obtain ⟨hgroupBy, hselect⟩ := leaf_of_plan_select leaf accepted
  have column (name : String) : (Expr.col name).hasAggregate = false := by
    rw [Expr.col, Expr.hasAggregate]
  have plain : ∀ e ∈ { g.wholeQuery r p with window }.shown, e.hasAggregate = false := by
    refine forall_shown_iff.2 ⟨fun item hitem => ?_, ?_, fun key hkey => ?_⟩
    · rw [hselect, if_pos empty] at hitem
      unfold leafItems at hitem
      split at hitem
      · rw [List.mem_singleton.1 hitem, Expr.hasAggregate]
      · obtain ⟨field, -, rfl⟩ := List.mem_map.1 hitem
        exact column field
    · rw [having_of_isEmpty empty accepted]
      simp [Table.whereClause]
    · rcases mem_planOrderBy_of_rows leaf hkey with ⟨name, hexpr⟩ | ⟨generated, hmem, -⟩
      · rw [hexpr]
        exact column name
      · rw [List.isEmpty_iff.1 empty] at hmem
        cases hmem
  rintro (grouped | ⟨e, he, aggregate⟩)
  · exact grouped hgroupBy
  · rw [plain e he] at aggregate
    cases aggregate

/-- Generated columns of all rows leave no single row to sort by. -/
theorem fitsGroups_leaf_iff (builtin : g.aggregates = .builtin) (hookless : g.Hookless)
    (leaf : r.isGrouping = false) (generated : p.pivot.isEmpty = false)
    (accepted : g.plan r = .ok p) (window : Option Window) :
    { g.wholeQuery r p with window }.FitsGroups ↔ sortedGroups r = [] := by
  obtain ⟨_, _, -, hpivot, -⟩ := plan_ok accepted
  obtain ⟨hgroupBy, hselect⟩ := leaf_of_plan_select leaf accepted
  rw [generated] at hselect
  have pivoting : r.isPivoting = true := by
    by_contra notPivoting
    rw [pivotContext_of_not (by simpa using notPivoting)] at hpivot
    rw [← Except.ok.inj hpivot] at generated
    cases generated
  have aggregates : { g.wholeQuery r p with window }.Aggregates := by
    obtain ⟨column, rest, hcolumns⟩ :=
      List.exists_cons_of_ne_nil (List.isEmpty_eq_false_iff.1 generated)
    have hmem : column ∈ p.pivot.columns := by
      rw [hcolumns]
      exact List.mem_cons_self
    refine .inr ⟨column.expr, ?_, (loose_of_pivotColumn builtin hpivot column hmem).2⟩
    have shown : ⟨column.expr, some column.name⟩ ∈ p.select := by
      rw [hselect]
      exact List.mem_map_of_mem hmem
    exact List.mem_append_left _ (List.mem_append_left _ (List.mem_map_of_mem shown))
  obtain ⟨values, horder, onValues⟩ := planOrderBy_eq (.inr pivoting) p.select p.pivot
  constructor
  · intro fits
    have sorted := (forall_shown_iff.1 (fits aggregates)).2.2
    refine List.eq_nil_iff_forall_not_mem.2 fun s hs => ?_
    have hkey : s.key (.col s.colId) ∈ planOrderBy r p.select p.pivot := by
      rw [horder]
      exact List.mem_append_left _ (List.mem_map_of_mem hs)
    have reads := sorted _ hkey (.col s.colId) (by
      rw [SortItem.key, OrderKey.directed, Expr.col, Expr.looseColumns]
      exact List.mem_singleton_self _)
    simp [wholeQuery, levelQuery, hgroupBy] at reads
  · intro unsorted _
    refine forall_shown_iff.2 ⟨fun item hitem => ?_, ?_, fun key hkey => ?_⟩
    · rw [hselect] at hitem
      obtain ⟨column, hcolumn, rfl⟩ := List.mem_map.1 hitem
      exact readsOnly_generated builtin hpivot ⟨column, hcolumn, rfl⟩
    · have closed := Expr.filterClosed_readsOnly (g.wholeQuery r p).groupBy
      exact closed.whereClause (readsOnly_having builtin hookless accepted _)
    · rw [horder, unsorted] at hkey
      rcases onValues key hkey with shown | ⟨notPivoting, -⟩
      · exact readsOnly_generated builtin hpivot shown
      · rw [pivoting] at notPivoting
        cases notPivoting

/--
The WHERE clause of a request aggregates nothing, and what is read besides aggregates is
grouped by, unless a sort key on a group column meets the generated columns of all rows.
-/
theorem query_fitsGroups_iff (builtin : g.aggregates = .builtin) (hookless : g.Hookless)
    (accepted : g.query r = .ok (q, pivot)) :
    (∀ e ∈ q.filter, e.hasAggregate = false) ∧
      (q.FitsGroups ↔
        r.isGrouping = true ∨ pivot.isEmpty = true ∨ sortedGroups r = []) := by
  obtain ⟨p, planned, rfl, rfl⟩ := query_ok accepted
  constructor
  · refine Expr.filterClosed_hasAggregate.whereClause ?_
    refine forall_rows_of_closed Expr.filterClosed_hasAggregate (hookless.hooksKeep _)
      (fun name => ?_) (fun _ _ _ _ q _ => ?_) planned
    · rw [Expr.col, Expr.hasAggregate]
    · rw [Expr.hasAggregate]
  · cases grouping : r.isGrouping with
    | true => simp [fitsGroups_of_grouping builtin hookless grouping planned]
    | false =>
        cases empty : p.pivot.isEmpty with
        | true =>
            have rows := not_aggregates_of_leaf grouping empty planned r.window?
            simp [Query.FitsGroups, rows]
        | false => simp [fitsGroups_leaf_iff builtin hookless grouping empty planned]

/-! ## Wages of one kind -/

def dayWagesByKind : Request where
  rowGroupCols := [{ field := "kind" }]
  groupKeys := [.string "day"]
  pivotMode := true
  pivotCols := [{ field := "kind" }]
  valueCols := [{ field := "wage", aggFunc := some "sum" }]
  sortModel := [⟨"kind", .asc⟩]

theorem hookless_netWages : netWages.Hookless where
  external := rfl
  quickForm := rfl
  quickMatcher := rfl
  rules := fun _ _ h => by cases h

theorem query_dayWagesByKind :
    ∃ answer, netWages.query dayWagesByKind = .ok answer ∧ answer.2.isEmpty = false :=
  exists_of_toOption_map (by decide +kernel)

theorem sortedGroups_dayWagesByKind : sortedGroups dayWagesByKind = [⟨"kind", .asc⟩] := by
  decide +kernel

/-- The wages of all rows are summed, yet the sort key reads the kind of one. -/
theorem query_fitsGroups_iff_dayWagesByKind :
    netWages.aggregates = .builtin ∧ netWages.Hookless ∧ ∃ q pivot,
      netWages.query dayWagesByKind = .ok (q, pivot) ∧
        (∀ e ∈ q.filter, e.hasAggregate = false) ∧ ¬ q.FitsGroups := by
  obtain ⟨⟨q, pivot⟩, accepted, generated⟩ := query_dayWagesByKind
  obtain ⟨rows, fits⟩ := query_fitsGroups_iff rfl hookless_netWages accepted
  refine ⟨rfl, hookless_netWages, q, pivot, accepted, rows, fits.not.2 ?_⟩
  rw [sortedGroups_dayWagesByKind, generated]
  simp [dayWagesByKind, Request.isGrouping]

/-- An accepted query need not fit its groups. -/
theorem not_query_fitsGroups :
    ¬ ∀ (g : Grid) (r : Request) (q : Query) (pivot : PivotContext), g.aggregates = .builtin →
      g.Hookless → g.query r = .ok (q, pivot) → q.FitsGroups := by
  intro allFit
  obtain ⟨⟨q, pivot⟩, accepted, generated⟩ := query_dayWagesByKind
  have fits := allFit netWages dayWagesByKind q pivot rfl hookless_netWages accepted
  obtain ⟨p, planned, rfl, rfl⟩ := query_ok accepted
  have unsorted := (fitsGroups_leaf_iff rfl hookless_netWages rfl generated planned _).1 fits
  rw [sortedGroups_dayWagesByKind] at unsorted
  cases unsorted

end Grid

end GridSql
