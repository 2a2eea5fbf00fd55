import GridSql.Proofs.Filter.OwnRow
import GridSql.Proofs.Grid.Selection
import GridSql.Proofs.Table.Subquery

/-!
# Filters on aggregates

A filter of a value column keeps a row if something in one of its groups passes: a row of
the requested level's group, or the aggregates of a group that it is in, at any depth. The
predicate says this with EXISTS subqueries, which compare the group columns of the rows
inside with those of the row around them.
-/

namespace GridSql

open GridSql.Expr

namespace Table

variable {t : Table} {row : Row} {rows : List Row} {o : OuterRow}

/-! ## Predicates of their own row -/

theorem holds_iff_of_isOwn {e : Expr} (own : IsOwn e) (outer : Option OuterRow) :
    t.Holds outer row e ↔ t.test (.row row) e = .ok true := by
  have bound : t.boundWithin outer e row = .ok e := bind_ok_iff.2 ⟨_, own.plain t outer, rfl⟩
  rw [test_eq_true_iff]
  simp [Holds, bound]

theorem holdsOfGroup_iff_of_isOwn {e : Expr} (own : IsOwn e) (outer : Option OuterRow) :
    t.HoldsOfGroup outer rows e ↔ t.test (.group rows) e = .ok true := by
  rw [test_eq_true_iff]
  simp [HoldsOfGroup, own.plain t outer, Resolved.plain]

/-! ## Being in the same group -/

def sameCell (field : String) (v : Value) : Expr :=
  ((Expr.col field).eq (.literal v)).or
    ((Expr.isNull (.col field) false).and (.isNull (.literal v) false))

theorem boundWithin_sameGroup {table : String}
    (apart : Text.eqIgnoringCase table o.innerName = false) (field : String) :
    t.boundWithin (some o) (Grid.sameGroup table field) row =
      .ok (sameCell field (o.row.cell field)) := by
  simp [boundWithin, Grid.sameGroup, sameCell, resolve, Expr.within, Expr.bindOuter, Expr.col,
    Expr.eq, Expr.or, Expr.and, apart, Resolved.plain, bind, Except.bind]

theorem decides_sameCell {field : String} (known : (t.typeOf? field).isSome = true) (v : Value) :
    t.Decides (.row row) (sameCell field v) ((row.cell field).same v = true) := by
  have own : t.eval (.row row) (.col field) = .ok (row.cell field) := eval_col known
  have given : t.eval (.row row) (.literal v) = .ok v := rfl
  refine ((decides_comparison .eq rfl own given).or
    ((decides_isNull own).and (decides_isNull given))).congr ?_
  simp only [BinaryOp.Accepts, Value.same]
  cases hcell : row.cell field <;> cases v <;> simp [Value.order?]

theorem known_of_eval_sameCell {field : String} {v w : Value}
    (h : t.eval (.row row) (sameCell field v) = .ok w) :
    (t.typeOf? field).isSome = true := by
  rw [sameCell, Expr.or, eval] at h
  obtain ⟨_, h, -⟩ := bind_ok_iff.1 h
  rw [Expr.eq, eval] at h
  · obtain ⟨_, h, -⟩ := bind_ok_iff.1 h
    rw [Expr.col, eval] at h
    split at h
    · assumption
    · cases h
  all_goals simp

theorem holds_sameGroup_iff {table field : String}
    (apart : Text.eqIgnoringCase table o.innerName = false)
    (known : (t.typeOf? field).isSome = true) :
    t.Holds (some o) row (Grid.sameGroup table field) ↔
      (row.cell field).same (o.row.cell field) = true :=
  holds_iff_of_decides (boundWithin_sameGroup apart field) (decides_sameCell known _)

/-- Where a row can be compared with itself, its columns are those of the table. -/
theorem known_of_matchedWithin {table : String} {fields : List String} {es : List Expr}
    {kept : List Row} (apart : Text.eqIgnoringCase table o.innerName = false)
    (h : t.matchedWithin (some o) (whereClause (fields.map (Grid.sameGroup table) ++ es)) =
      .ok kept)
    (hmem : o.row ∈ t.rows) (exact : HasContents (cells fields o.row)) :
    ∀ f ∈ fields, (t.typeOf? f).isSome = true := by
  -- From the left: a column is compared where the cells before it are the same.
  induction fields using List.reverseRecOn generalizing es with
  | nil => simp
  | append_singleton fields f ih =>
      have split : (fields ++ [f]).map (Grid.sameGroup table) ++ es =
          fields.map (Grid.sameGroup table) ++ Grid.sameGroup table f :: es := by simp
      rw [split] at h
      have exactFront : HasContents (cells fields o.row) := by
        intro v hv
        exact exact v (by simpa [cells] using .inl (List.mem_map.1 hv))
      have known := ih h exactFront
      have same : ∀ e ∈ fields.map (Grid.sameGroup table), t.Holds (some o) o.row e := by
        intro e he
        obtain ⟨d, hd, rfl⟩ := List.mem_map.1 he
        obtain ⟨c, hc⟩ := exactFront _ (List.mem_map_of_mem hd)
        exact (holds_sameGroup_iff apart (known d hd)).2 ((Value.same_iff hc hc).2 rfl)
      obtain ⟨e, v, he, hv⟩ := evaluates_of_matchedWithin h hmem same
      rw [boundWithin_sameGroup apart, Except.ok.injEq] at he
      subst he
      intro d hd
      rcases List.mem_append.1 hd with hd | hd
      · exact known d hd
      · rw [List.mem_singleton.1 hd]
        exact known_of_eval_sameCell hv

theorem holds_sameGroups_iff {table : String} {fields : List String}
    (apart : Text.eqIgnoringCase table o.innerName = false)
    (known : ∀ f ∈ fields, (t.typeOf? f).isSome = true) :
    (∀ e ∈ fields.map (Grid.sameGroup table), t.Holds (some o) row e) ↔
      Row.agrees fields o.row row = true := by
  simp only [List.forall_mem_map, Row.agrees, List.all_eq_true]
  exact forall₂_congr fun f hf => holds_sameGroup_iff apart (known f hf)

end Table

def Request.fieldsTo (r : Request) (depth : Nat) : List String :=
  (r.rowGroupCols.take depth).map (·.field)

namespace Grid

variable {g : Grid} {r : Request} {entries : ColumnFilters} {x : Row}

/-! ## The subqueries -/

def inside (g : Grid) (asName : String) (filter : List Expr) (groupBy : List Expr)
    (having_ : List Expr) : Query where
  select := [⟨.ofInt 1, none⟩]
  distinct := false
  source := some { g.table with asName := some asName }
  filter := Table.whereClause filter
  groupBy := groupBy
  having := Table.whereClause having_
  orderBy := []
  window := none

def sameGroups (g : Grid) (r : Request) (depth : Nat) : List Expr :=
  (r.fieldsTo depth).map (sameGroup g.table.table)

theorem correlated_eq (asName : String) (depth : Nat) :
    g.correlated r asName depth = g.inside asName (g.sameGroups r depth) [] [] := by
  have folded : g.correlated r asName depth = (g.sameGroups r depth).foldl Query.where_
      (g.inside asName [] [] []) := by
    simp only [correlated, sameGroups, Request.fieldsTo, List.map_map, List.foldl_map]
    rfl
  rw [folded, Query.foldl_where, inside]
  simp [Table.whereClause, Query.foldl_andInto, inside]

theorem leafPasses_eq (filters : List (ColumnRef × ColumnFilter)) :
    g.leafPasses r filters = (do
      let (predicates, vs) ← Violations.takeAll
        (fun (c, f) => g.filterContext.compileColumn c.field f) [] filters
      Violations.finish vs (.existsIn (g.inside "leaf"
        (g.sameGroups r (r.groupKeys.length + 1) ++ predicates) [] []) false)) := by
  unfold leafPasses
  refine bind_congr fun (predicates, vs) => ?_
  simp only [correlated_eq, Query.foldl_where, inside, ← Query.foldl_andInto, List.foldl_append]

theorem leafPasses_ok {filters : List (ColumnRef × ColumnFilter)} {e : Expr}
    (h : g.leafPasses r filters = .ok e) :
    ∃ predicates, List.Forall₂
        (fun filter e => g.filterContext.compileColumn filter.1.field filter.2 = .ok e)
        filters predicates ∧
      e = .existsIn (g.inside "leaf"
        (g.sameGroups r (r.groupKeys.length + 1) ++ predicates) [] []) false := by
  rw [leafPasses_eq] at h
  obtain ⟨⟨predicates, vs⟩, htake, h⟩ := bind_ok_iff.1 h
  obtain ⟨rfl, rfl⟩ := Violations.finish_ok_iff.1 h
  obtain ⟨-, hpredicates⟩ :=
    Violations.takeAll_ok (fun filter : ColumnRef × ColumnFilter =>
      ColumnFilter.explained_compile _ _ filter.2) htake
  exact ⟨predicates, hpredicates, rfl⟩

theorem groupPasses_eq (filters : List (ColumnRef × ColumnFilter)) (depth : Nat) :
    g.groupPasses r filters depth = (do
      let predicates ← filters.mapM fun (c, f) => g.aggregatePredicate c f
      .ok (.existsIn (g.inside "grp" (g.sameGroups r depth)
        ((r.fieldsTo depth).map .col) predicates) false)) := by
  unfold groupPasses
  refine bind_congr fun predicates => ?_
  dsimp only
  rw [correlated_eq, Query.foldl_andHaving]
  simp [inside, Query.withGroupBy, Query.foldl_andInto, Request.fieldsTo, Table.whereClause,
    Function.comp_def]

theorem groupPasses_ok {filters : List (ColumnRef × ColumnFilter)} {depth : Nat} {e : Expr}
    (h : g.groupPasses r filters depth = .ok e) :
    ∃ predicates, List.Forall₂ (fun filter e => g.aggregatePredicate filter.1 filter.2 = .ok e)
        filters predicates ∧
      e = .existsIn (g.inside "grp" (g.sameGroups r depth)
        ((r.fieldsTo depth).map .col) predicates) false := by
  rw [groupPasses_eq] at h
  obtain ⟨predicates, hpredicates, h⟩ := bind_ok_iff.1 h
  cases h
  exact ⟨predicates, mapM_ok_iff.1 hpredicates, rfl⟩

/-! ## What passes -/

/-- Whether a row passes the filter of a value column, looked at from a row of its group. -/
def RowPasses (g : Grid) (x : Row) (filter : ColumnRef × ColumnFilter) (y : Row) : Prop :=
  ∃ e, g.filterContext.compileColumn filter.1.field filter.2 = .ok e ∧
    g.source.Holds (some ⟨"leaf", x⟩) y e

/-- Whether the aggregates of a group pass the filter of a value column. -/
def GroupPasses (g : Grid) (x : Row) (filter : ColumnRef × ColumnFilter) (rows : List Row) :
    Prop :=
  ∃ e, g.aggregatePredicate filter.1 filter.2 = .ok e ∧
    g.source.HoldsOfGroup (some ⟨"grp", x⟩) rows e

def groupOf (g : Grid) (r : Request) (x : Row) (depth : Nat) : List Row :=
  g.source.rows.filter (Row.agrees (r.fieldsTo depth) x)

def PassesByRow (g : Grid) (r : Request) (entries : ColumnFilters) (x : Row) : Prop :=
  ∃ y ∈ g.groupOf r x (r.groupKeys.length + 1),
    ∀ filter ∈ valueFilters r entries, g.RowPasses x filter y

def PassesAtDepth (g : Grid) (r : Request) (entries : ColumnFilters) (x : Row) (depth : Nat) :
    Prop :=
  ∀ filter ∈ valueFilters r entries, g.GroupPasses x filter (g.groupOf r x depth)

/--
A request for a level of groups whose filters of value columns decide which groups are
kept. Its group columns hold no doubles and its table has a name of its own.
-/
structure FiltersGroups (g : Grid) (r : Request) (entries : ColumnFilters) : Prop where
  enabled : g.settings.grid.filterAggregates = true
  grouping : r.isGrouping = true
  notPivoting : r.isPivoting = false
  model : g.filterModel r = .ok (some (.columns entries))
  keyed : ∃ c ∈ r.valueCols, ∃ entry ∈ entries, entry.1 = c.field
  noDoubles : ∀ row ∈ g.source.rows, ∀ c ∈ r.rowGroupCols, ∀ d, row.cell c.field ≠ .float d
  apart : ∀ name ∈ ["leaf", "grp"], Text.eqIgnoringCase g.table.table name = false

variable {filters : List (ColumnRef × ColumnFilter)} {predicates : List Expr} {result : ResultSet}

theorem fieldsTo_ne_nil {depth : Nat} (first : 1 ≤ depth) (columns : r.rowGroupCols ≠ []) :
    r.fieldsTo depth ≠ [] := by
  have more := List.length_pos_iff.2 columns
  intro h
  have length : (r.fieldsTo depth).length = 0 := by simp [h]
  simp only [Request.fieldsTo, List.length_map, List.length_take] at length
  omega

theorem hasContents_fieldsTo
    (noDoubles : ∀ row ∈ g.source.rows, ∀ c ∈ r.rowGroupCols, ∀ d, row.cell c.field ≠ .float d)
    (depth : Nat) {row : Row} (hrow : row ∈ g.source.rows) :
    Table.HasContents (Table.cells (r.fieldsTo depth) row) := by
  intro v hv
  obtain ⟨field, hfield, rfl⟩ := List.mem_map.1 hv
  obtain ⟨c, hc, rfl⟩ := List.mem_map.1 hfield
  have notDouble := noDoubles row hrow c (List.mem_of_mem_take hc)
  cases hcell : row.cell c.field with
  | float d => exact absurd hcell (notDouble d)
  | _ => exact ⟨_, rfl⟩

theorem inside_leaf_iff (apart : Text.eqIgnoringCase g.table.table "leaf" = false)
    (exact : Table.HasContents (Table.cells (r.fieldsTo (r.groupKeys.length + 1)) x))
    (hx : x ∈ g.source.rows)
    (compiled : List.Forall₂
      (fun filter e => g.filterContext.compileColumn filter.1.field filter.2 = .ok e)
      filters predicates)
    (h : g.source.runWithin (some ⟨"leaf", x⟩) (g.inside "leaf"
      (g.sameGroups r (r.groupKeys.length + 1) ++ predicates) [] []) = .ok result) :
    result.rows ≠ [] ↔ ∃ y ∈ g.groupOf r x (r.groupKeys.length + 1),
      ∀ filter ∈ filters, g.RowPasses x filter y := by
  obtain ⟨-, kept, -, hkept, -, -⟩ := Table.runWithin_ok_iff.1 h
  have known := Table.known_of_matchedWithin apart hkept hx exact
  have same (y : Row) : (∀ e ∈ g.sameGroups r (r.groupKeys.length + 1),
      g.source.Holds (some ⟨"leaf", x⟩) y e) ↔
        Row.agrees (r.fieldsTo (r.groupKeys.length + 1)) x y = true :=
    Table.holds_sameGroups_iff apart known
  have passes (y : Row) : (∀ e ∈ predicates, g.source.Holds (some ⟨"leaf", x⟩) y e) ↔
      ∀ filter ∈ filters, g.RowPasses x filter y := forall_values_iff compiled
  rw [Table.exists_row_iff rfl ⟨rfl, rfl⟩ rfl h]
  simp only [List.forall_mem_append, groupOf, List.mem_filter, same, passes, and_assoc]

/-- The subquery of groups finds the row's own group, if its aggregates pass. -/
theorem inside_group_iff (apart : Text.eqIgnoringCase g.table.table "grp" = false) {depth : Nat}
    (nonempty : r.fieldsTo depth ≠ [])
    (exact : ∀ row ∈ g.source.rows, Table.HasContents (Table.cells (r.fieldsTo depth) row))
    (hx : x ∈ g.source.rows)
    (compiled : List.Forall₂ (fun filter e => g.aggregatePredicate filter.1 filter.2 = .ok e)
      filters predicates)
    (h : g.source.runWithin (some ⟨"grp", x⟩) (g.inside "grp" (g.sameGroups r depth)
      ((r.fieldsTo depth).map .col) predicates) = .ok result) :
    result.rows ≠ [] ↔ ∀ filter ∈ filters, g.GroupPasses x filter (g.groupOf r x depth) := by
  have grouped : Table.isGrouped (g.inside "grp" (g.sameGroups r depth)
      ((r.fieldsTo depth).map .col) predicates) = true := by
    simp [Table.isGrouped, inside, nonempty]
  obtain ⟨kept, groups, hkept, hgroups, found⟩ :=
    Table.exists_group_iff grouped ⟨rfl, rfl⟩ rfl h
  obtain ⟨passes, hfilter, holds⟩ := Table.matchedWithin_eq hkept
  have hkept' : g.source.matchedWithin (some ⟨"grp", x⟩)
      (Table.whereClause ((r.fieldsTo depth).map (sameGroup g.table.table) ++ [])) = .ok kept := by
    rw [List.append_nil]
    exact hkept
  have known := Table.known_of_matchedWithin apart hkept' hx (exact x hx)
  have own : kept = g.groupOf r x depth := by
    rw [hfilter, groupOf]
    refine List.filter_congr fun row hrow => ?_
    rw [Bool.eq_iff_iff, holds row hrow]
    exact Table.holds_sameGroups_iff apart known
  have single : g.source.groupRows ((r.fieldsTo depth).map .col) kept =
      .ok [g.groupOf r x depth] := by
    rw [own]
    exact Table.groupRows_agrees nonempty known exact hx
  rw [show groups = [g.groupOf r x depth] from Except.ok.inj (hgroups.symm.trans single)] at found
  rw [found]
  simp only [List.mem_singleton, exists_eq_left]
  exact forall_values_iff compiled

/-! ## The predicate of the groups -/

def IsRowQuery (g : Grid) (r : Request) (entries : ColumnFilters) (q : Query) : Prop :=
  ∃ predicates, List.Forall₂
      (fun filter e => g.filterContext.compileColumn filter.1.field filter.2 = .ok e)
      (valueFilters r entries) predicates ∧
    q = g.inside "leaf" (g.sameGroups r (r.groupKeys.length + 1) ++ predicates) [] []

def IsGroupQuery (g : Grid) (r : Request) (entries : ColumnFilters) (depth : Nat) (q : Query) :
    Prop :=
  ∃ predicates, List.Forall₂ (fun filter e => g.aggregatePredicate filter.1 filter.2 = .ok e)
      (valueFilters r entries) predicates ∧
    q = g.inside "grp" (g.sameGroups r depth) ((r.fieldsTo depth).map .col) predicates

theorem groupAggregatePredicate_ok {e : Expr} (h : g.groupAggregatePredicate r entries = .ok e) :
    ∃ leaf groups, e = disjunction ((leaf :: groups).map (.existsIn · false)) ∧
      IsRowQuery g r entries leaf ∧
      List.Forall₂ (fun i group => IsGroupQuery g r entries (i + 1) group)
        (List.range r.rowGroupCols.length) groups := by
  obtain ⟨first, hfirst, h⟩ := bind_ok_iff.1 h
  obtain ⟨rest, hrest, h⟩ := bind_ok_iff.1 h
  cases h
  obtain ⟨predicates, hpredicates, rfl⟩ := leafPasses_ok hfirst
  have hgroups : ∃ groups, rest = groups.map (.existsIn · false) ∧
      List.Forall₂ (fun i group => IsGroupQuery g r entries (i + 1) group)
        (List.range r.rowGroupCols.length) groups := by
    refine exists_map_of_forall₂ (mapM_ok_iff.1 hrest) fun i e he => ?_
    obtain ⟨predicates, hpredicates, rfl⟩ := groupPasses_ok he
    exact ⟨_, rfl, predicates, hpredicates, rfl⟩
  obtain ⟨groups, rfl, hgroups⟩ := hgroups
  exact ⟨_, groups, rfl, ⟨predicates, hpredicates, rfl⟩, hgroups⟩

theorem holds_groupAggregatePredicate_iff (level : g.FiltersGroups r entries) {e f : Expr}
    (compiled : g.groupAggregatePredicate r entries = .ok e) (hx : x ∈ g.source.rows)
    (bound : g.source.boundWithin none e x = .ok f) :
    g.source.Holds none x e ↔ g.PassesByRow r entries x ∨
      ∃ depth, 1 ≤ depth ∧ depth ≤ r.rowGroupCols.length ∧ g.PassesAtDepth r entries x depth := by
  obtain ⟨leaf, groups, rfl, ⟨predicates, hpredicates, rfl⟩, hgroups⟩ :=
    groupAggregatePredicate_ok compiled
  have exact (depth : Nat) : ∀ row ∈ g.source.rows,
      Table.HasContents (Table.cells (r.fieldsTo depth) row) :=
    fun row hrow => hasContents_fieldsTo level.noDoubles depth hrow
  have columns : r.rowGroupCols ≠ [] := by
    rintro hnil
    have grouping := level.grouping
    simp [Request.isGrouping, hnil] at grouping
  obtain ⟨runs, whole⟩ := Table.holds_disjunction_existsIn_iff bound
  obtain ⟨⟨result, hresult⟩, runs⟩ := List.forall_mem_cons.1 runs
  have byRow : g.source.Holds none x (.existsIn (g.inside "leaf"
      (g.sameGroups r (r.groupKeys.length + 1) ++ predicates) [] []) false) ↔
        g.PassesByRow r entries x :=
    (Table.holds_existsIn_iff hresult).trans
      (inside_leaf_iff (level.apart "leaf" (by simp)) (exact _ x hx) hx hpredicates hresult)
  have atDepth {i : Nat} {group : Query} (hgroup : group ∈ groups)
      (made : IsGroupQuery g r entries (i + 1) group) :
      g.source.Holds none x (.existsIn group false) ↔ g.PassesAtDepth r entries x (i + 1) := by
    obtain ⟨predicates, hpredicates, rfl⟩ := made
    obtain ⟨result, hresult⟩ := runs _ hgroup
    exact (Table.holds_existsIn_iff hresult).trans
      (inside_group_iff (level.apart "grp" (by simp)) (fieldsTo_ne_nil (by omega) columns)
        (exact _) hx hpredicates hresult)
  rw [whole, List.exists_mem_cons_iff, byRow]
  refine or_congr Iff.rfl ⟨?_, ?_⟩
  · rintro ⟨group, hgroup, holds⟩
    obtain ⟨i, hi, made⟩ := exists_of_mem_right hgroups hgroup
    have hi := List.mem_range.1 hi
    exact ⟨i + 1, by omega, by omega, (atDepth hgroup made).1 holds⟩
  · rintro ⟨depth, hfirst, hlast, passes⟩
    obtain ⟨i, rfl⟩ : ∃ i, depth = i + 1 := ⟨depth - 1, by omega⟩
    obtain ⟨group, hgroup, made⟩ := exists_of_mem_left hgroups (List.mem_range.2 hlast)
    exact ⟨group, hgroup, (atDepth hgroup made).2 passes⟩

/-! ## The rows that are kept -/

theorem levelFiltering_of_filtersGroups (level : g.FiltersGroups r entries) :
    g.levelFiltering r (some (.columns entries)) = .aggregated entries := by
  obtain ⟨c, hc, entry, hentry, hfield⟩ := level.keyed
  have filtersValues : (entries.any fun entry => r.valueCols.any (·.field = entry.1)) = true :=
    List.any_eq_true.2 ⟨entry, hentry, List.any_eq_true.2 ⟨c, hc, by simp [hfield]⟩⟩
  simp only [levelFiltering, level.grouping, level.notPivoting, level.enabled]
  simp [filtersValues]

theorem rows_of_filtersGroups (level : g.FiltersGroups r entries) {p : RequestPlan}
    (accepted : g.plan r = .ok p) :
    ∃ keys predicate, groupKeyPredicates r g.source.fieldType = .ok keys ∧
      g.groupAggregatePredicate r entries = .ok predicate ∧ p.rows = keys ++ [predicate] := by
  obtain ⟨filters, _, hfilters, -, -, -, -, -, hrows⟩ := plan_ok accepted
  obtain ⟨-, -, model, keys, hmodel, hkeys, restricts⟩ := levelFilters_ok hfilters
  rw [level.model, Except.ok.injEq] at hmodel
  subst hmodel
  have filtering := levelFiltering_of_filtersGroups level
  cases restricts with
  | suppressed level' => rw [filtering] at level'; cases level'
  | columns level' => rw [filtering] at level'; cases level'
  | aggregated level' compiled =>
      rw [filtering] at level'
      cases level'
      exact ⟨keys, _, hkeys, compiled, hrows⟩

theorem levelFilters_of_aggregated
    (level : g.levelFiltering r (some (.columns entries)) = .aggregated entries)
    (valid : g.validate r = .ok ()) (hmodel : g.filterModel r = .ok (some (.columns entries)))
    {keys : List Expr} (hkeys : groupKeyPredicates r g.source.fieldType = .ok keys)
    {predicate : Expr} (compiled : g.groupAggregatePredicate r entries = .ok predicate) :
    g.levelFilters r = .ok { rows := keys ++ [predicate] } := by
  unfold levelFilters
  simp only [valid, hmodel, hkeys, Violations.take, bind, Except.bind]
  have joined : (some (some (FilterModel.columns entries))).join = some (.columns entries) := rfl
  rw [joined, level]
  simp [compiled]

theorem kept_of_filtersGroups (level : g.FiltersGroups r entries) {p : RequestPlan}
    (accepted : g.plan r = .ok p) {kept : List Row}
    (evaluated : g.source.matched (Table.whereClause p.rows) = .ok kept) :
    ∃ keys, groupKeyPredicates r g.source.fieldType = .ok keys ∧
      ∃ passes : Row → Bool, kept = g.source.rows.filter passes ∧
        ∀ x ∈ g.source.rows, (passes x = true ↔
          (∀ e ∈ keys, g.source.Holds none x e) ∧ (g.PassesByRow r entries x ∨
            ∃ depth, 1 ≤ depth ∧ depth ≤ r.rowGroupCols.length ∧
              g.PassesAtDepth r entries x depth)) := by
  obtain ⟨keys, predicate, hkeys, compiled, hrows⟩ := rows_of_filtersGroups level accepted
  rw [hrows, Table.matched_eq_matchedWithin] at evaluated
  obtain ⟨passes, hkept, holds⟩ := Table.matchedWithin_eq evaluated
  refine ⟨keys, hkeys, passes, hkept, fun x hx => ?_⟩
  obtain ⟨f, bound⟩ := Table.exists_bound_of_matchedWithin evaluated hx predicate (by simp)
  rw [holds x hx, List.forall_mem_append, List.forall_mem_singleton,
    holds_groupAggregatePredicate_iff level compiled hx bound]

/-! ## Filters without foreign columns -/

theorem isOwn_of_mem_groupKeyPredicates {type : String → ScalarType} {keys : List Expr}
    (h : groupKeyPredicates r type = .ok keys) {e : Expr} (he : e ∈ keys) :
    IsOwn e :=
  filterClosed_isOwn.groupKeys isOwn_col h e he

/-- Whether the aggregate functions make expressions of their group alone. -/
def AggregatesOwn (g : Grid) : Prop :=
  ∀ c e, g.aggregates.aggregate c = .ok e → IsOwn e

theorem aggregatesOwn_of_builtin (builtin : g.aggregates = .builtin) : g.AggregatesOwn := by
  intro c e h
  rw [builtin] at h
  obtain ⟨name, -, h⟩ := bind_ok_iff.1 h
  obtain ⟨f, hf, rfl⟩ := AggregateRegistry.apply_ok_iff.1 h
  obtain ⟨⟨_, sql⟩, -, rfl⟩ := List.mem_map.1 (List.mem_of_find?_eq_some hf)
  exact isOwn_call (by simpa using isOwn_col c.field) sql false

/-- A filter whose hooks keep to their row is tested on each row alone. -/
theorem rowPasses_iff {filter : ColumnRef × ColumnFilter}
    (hooks : FilterRules.HooksOwn (g.columns.rulesFor filter.1.field)) {y : Row} :
    g.RowPasses x filter y ↔
      ∃ e, g.filterContext.compileColumn filter.1.field filter.2 = .ok e ∧
        g.source.test (.row y) e = .ok true := by
  unfold RowPasses
  refine exists_congr fun e => and_congr_right fun compiled => ?_
  exact Table.holds_iff_of_isOwn (ColumnFilter.isOwn_compile (isOwn_col _) hooks compiled) _

theorem groupPasses_iff {filter : ColumnRef × ColumnFilter} (own : g.AggregatesOwn)
    (hooks : FilterRules.HooksOwn (g.columns.rulesFor filter.1.field)) {rows : List Row} :
    g.GroupPasses x filter rows ↔
      ∃ e, g.aggregatePredicate filter.1 filter.2 = .ok e ∧
        g.source.test (.group rows) e = .ok true := by
  unfold GroupPasses
  refine exists_congr fun e => and_congr_right fun compiled => ?_
  obtain ⟨aggregate, haggregate, compiled⟩ := bind_ok_iff.1 compiled
  exact Table.holdsOfGroup_iff_of_isOwn
    (ColumnFilter.isOwn_compile (own _ _ haggregate) hooks compiled) _

/--
Under filters of aggregates a row is kept exactly if it has the keys of the expanded groups
and, in one of its groups, a row of the requested level's group or the aggregates at some
depth pass all filters of value columns. Unless a hook names foreign columns, rows and
groups pass on their own.
-/
theorem kept_iff_groupPasses (level : g.FiltersGroups r entries) {p : RequestPlan}
    (accepted : g.plan r = .ok p) {kept : List Row}
    (evaluated : g.source.matched (Table.whereClause p.rows) = .ok kept) :
    (∃ keys, groupKeyPredicates r g.source.fieldType = .ok keys ∧
      ∃ passes : Row → Bool, kept = g.source.rows.filter passes ∧
        ∀ x ∈ g.source.rows, (passes x = true ↔
          (∀ e ∈ keys, g.source.test (.row x) e = .ok true) ∧
            ((∃ y ∈ g.source.rows,
                Row.agrees (r.fieldsTo (r.groupKeys.length + 1)) x y = true ∧
                  ∀ filter ∈ valueFilters r entries, g.RowPasses x filter y) ∨
              ∃ depth, 1 ≤ depth ∧ depth ≤ r.rowGroupCols.length ∧
                ∀ filter ∈ valueFilters r entries, g.GroupPasses x filter
                  (g.source.rows.filter (Row.agrees (r.fieldsTo depth) x))))) ∧
    ∀ filter, FilterRules.HooksOwn (g.columns.rulesFor filter.1.field) → ∀ x,
      (∀ y, g.RowPasses x filter y ↔
        ∃ e, g.filterContext.compileColumn filter.1.field filter.2 = .ok e ∧
          g.source.test (.row y) e = .ok true) ∧
      (g.aggregates = .builtin → ∀ rows, g.GroupPasses x filter rows ↔
        ∃ e, g.aggregatePredicate filter.1 filter.2 = .ok e ∧
          g.source.test (.group rows) e = .ok true) := by
  constructor
  · obtain ⟨keys, hkeys, passes, hkept, holds⟩ := kept_of_filtersGroups level accepted evaluated
    refine ⟨keys, hkeys, passes, hkept, fun x hx => (holds x hx).trans ?_⟩
    have tested : (∀ e ∈ keys, g.source.Holds none x e) ↔
        ∀ e ∈ keys, g.source.test (.row x) e = .ok true :=
      forall₂_congr fun e he =>
        Table.holds_iff_of_isOwn (isOwn_of_mem_groupKeyPredicates hkeys he) none
    simp only [tested, PassesByRow, PassesAtDepth, groupOf, List.mem_filter, and_assoc]
  · exact fun filter hooks x =>
      ⟨fun y => rowPasses_iff hooks,
        fun builtin rows => groupPasses_iff (aggregatesOwn_of_builtin builtin) hooks⟩

/-! ## Sales by country and year -/

/-- A grid of sales whose groups are filtered by their aggregates. -/
def salesByYear : Grid where
  source := ⟨"sales", [⟨"country", .text⟩, ⟨"year", .integer⟩, ⟨"amount", .integer⟩],
    [[("country", .text "US"), ("year", .int 2023), ("amount", .int 10)],
      [("country", .text "US"), ("year", .int 2023), ("amount", .int 20)],
      [("country", .text "US"), ("year", .int 2024), ("amount", .int 5)]]⟩
  settings := { grid := { filterAggregates := true, countChildren := true } }
  table := { table := "sales" }
  isValid := by decide

def thirtyByCountry : Request where
  rowGroupCols := [{ field := "country" }, { field := "year" }]
  valueCols := [{ field := "amount", aggFunc := some "sum" }]
  filterModel := some (.object [("amount", .object [("filterType", .string "number"),
    ("type", .string "equals"), ("filter", .ofNat 30)])])

def amountIsThirty : ColumnFilters :=
  [("amount", .number ⟨.equals, some (.ofInt64 30), none⟩)]

set_option maxRecDepth 20000 in
theorem filterModel_thirtyByCountry :
    salesByYear.filterModel thirtyByCountry = .ok (some (.columns amountIsThirty)) := by
  have path : toString "filterModel." ++ toString "amount" = "filterModel.amount" := by
    cbv
  have family : Recognizers.ScalarFamily.ofName? "number" = some .number := by decide
  have option : FilterOption.ofName? "equals" = some .equals := by decide
  have thirty : Recognizers.literal Literal.decimal (.ofNat 30) "filterModel.amount" "filter" =
      .ok (some (.ofInt64 30)) := by
    have written : Recognizers.literalText (.ofNat 30) = some "30" := by cbv
    have read : Literal.decimal "30" = .ok (.ofInt64 30) := by decide +kernel
    rw [Recognizers.literal, written]
    simp only [read]
  have absent : Recognizers.literal Literal.decimal .null "filterModel.amount" "filterTo" =
      .ok none := rfl
  have recognized : salesByYear.recognizers.columnFilter "amount"
      [("filterType", .string "number"), ("type", .string "equals"), ("filter", .ofNat 30)] =
        .ok (.number ⟨.equals, some (.ofInt64 30), none⟩) := by
    rw [Recognizers.columnFilter, Recognizers.builtinColumn]
    simp [path, family, option, thirty, absent, Payload.requiredString, Payload.member, Json.lookup,
      Recognizers.rescue, Recognizers.scalar, Recognizers.word, Violations.take, Violations.finish,
      bind, Except.bind]
  simp [filterModel, thirtyByCountry, Request.hasFilterModel, Recognizers.recognize,
    Recognizers.isColumnKeyed, Json.asObject?, Recognizers.columnFilters, recognized,
    Violations.take, Violations.finish, bind, Except.bind, Except.map, amountIsThirty]

theorem filtersGroups_salesByYear :
    salesByYear.FiltersGroups thirtyByCountry amountIsThirty where
  enabled := rfl
  grouping := rfl
  notPivoting := rfl
  model := filterModel_thirtyByCountry
  keyed := ⟨_, List.mem_cons_self, _, List.mem_cons_self, rfl⟩
  noDoubles := by
    have plain : ∀ row ∈ salesByYear.source.rows, ∀ c ∈ thirtyByCountry.rowGroupCols,
        (row.cell c.field).content? ≠ none := by decide
    intro row hrow c hc d hcell
    exact plain row hrow c hc (by rw [hcell]; rfl)
  apart := by decide +kernel

def countriesPlan (predicate : Expr) : RequestPlan where
  select := [⟨.col "country", none⟩, ⟨Expr.countRows, some "childCount"⟩,
    ⟨.fn "SUM" [.col "amount"], some "amount"⟩]
  groupBy := [.col "country"]
  rows := [predicate]
  having := []
  pivot := {}

set_option maxRecDepth 20000 in
theorem exists_plan_salesByYear :
    ∃ predicate, salesByYear.groupAggregatePredicate thirtyByCountry amountIsThirty =
      .ok predicate ∧ salesByYear.plan thirtyByCountry = .ok (countriesPlan predicate) := by
  obtain ⟨predicate, compiled⟩ : ∃ predicate, salesByYear.groupAggregatePredicate
      thirtyByCountry amountIsThirty = .ok predicate := ⟨_, rfl⟩
  have valid : salesByYear.validate thirtyByCountry = .ok () := by
    cbv
  have filters := levelFilters_of_aggregated
    (levelFiltering_of_filtersGroups filtersGroups_salesByYear) valid filterModel_thirtyByCountry
    (rfl : groupKeyPredicates thirtyByCountry salesByYear.source.fieldType = .ok []) compiled
  exact ⟨predicate, compiled, plan_of_not rfl filters rfl⟩

theorem exists_kept_salesByYear {predicate : Expr}
    (compiled : salesByYear.groupAggregatePredicate thirtyByCountry amountIsThirty =
      .ok predicate) :
    ∃ kept, salesByYear.source.matched (Table.whereClause [predicate]) = .ok kept := by
  have matched : ((salesByYear.groupAggregatePredicate thirtyByCountry amountIsThirty).toOption.bind
      fun e => (salesByYear.source.matched (Table.whereClause [e])).toOption.map List.length) =
        some 2 := by
    decide +kernel
  rw [compiled] at matched
  obtain ⟨kept, hkept, -⟩ := exists_of_toOption_map matched
  exact ⟨kept, hkept⟩

/-- Without expanded groups only what the groups sell decides which sales are kept. -/
theorem kept_iff_groupPasses_salesByYear :
    salesByYear.FiltersGroups thirtyByCountry amountIsThirty ∧
      ∃ p kept passes, salesByYear.plan thirtyByCountry = .ok p ∧
        salesByYear.source.matched (Table.whereClause p.rows) = .ok kept ∧
        kept = salesByYear.source.rows.filter passes ∧
        ∀ x ∈ salesByYear.source.rows, (passes x = true ↔
          (∃ y ∈ salesByYear.source.rows, Row.agrees ["country"] x y = true ∧
            ∀ filter ∈ valueFilters thirtyByCountry amountIsThirty,
              salesByYear.RowPasses x filter y) ∨
          ∃ depth, 1 ≤ depth ∧ depth ≤ 2 ∧
            ∀ filter ∈ valueFilters thirtyByCountry amountIsThirty,
              salesByYear.GroupPasses x filter
                (salesByYear.source.rows.filter
                  (Row.agrees (thirtyByCountry.fieldsTo depth) x))) := by
  obtain ⟨predicate, compiled, accepted⟩ := exists_plan_salesByYear
  obtain ⟨kept, evaluated⟩ := exists_kept_salesByYear compiled
  obtain ⟨⟨keys, hkeys, passes, hkept, holds⟩, -⟩ :=
    kept_iff_groupPasses filtersGroups_salesByYear accepted evaluated
  have none : groupKeyPredicates thirtyByCountry salesByYear.source.fieldType = .ok [] := rfl
  rw [none, Except.ok.injEq] at hkeys
  subst hkeys
  refine ⟨filtersGroups_salesByYear, _, kept, passes, accepted, evaluated, hkept, fun x hx => ?_⟩
  exact (holds x hx).trans (and_iff_right (by simp))

end Grid

end GridSql
