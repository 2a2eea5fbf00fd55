import GridSql.Proofs.Grid.DrillDown
import GridSql.Proofs.Grid.GroupAggregates
import GridSql.Proofs.Grid.Shown
import GridSql.Proofs.Table.Distinct

/-!
# Counting what a level shows

The number that is told for a level of groups is that of the different cells of its column
among the rows of its groups, while a group is shown for every combination of cells in the
columns down to the level. So the number is that of the groups only if no two of them hold
the same in the column of the level, and the group without a cell is never counted. Leaf
rows are counted as they are.
-/

namespace GridSql

def Request.page (r : Request) (start stop : Nat) : Request :=
  { r with startRow := start, endRow := stop }

def Request.whole (r : Request) : Request :=
  { r with startRow := 0, endRow := 0 }

theorem Request.isWhole_whole (r : Request) : r.whole.IsWhole :=
  ⟨rfl, rfl⟩

/-- Whether the cells above the requested level are of their columns' types, which are known. -/
def Request.ExpandsTyped (r : Request) (t : Table) : Prop :=
  ∀ c ∈ r.rowGroupCols.take r.groupKeys.length, t.fieldType c.field ≠ .other ∧
    ∀ row ∈ t.rows, (row.cell c.field).HasType (t.fieldType c.field)

namespace Grid

open Table

variable {g : Grid} {r : Request} {p : RequestPlan} {c : ColumnRef} {field : String}
  {kept : List Row} {groups : List (List Row)} {having_ : Option Resolved}

/-! ## The same level in other windows -/

/-- A window has to end behind its start, and nothing else is wanted of it. -/
theorem validate_page {start stop : Nat} (ordered : start ≤ stop) (h : g.validate r = .ok ()) :
    g.validate (r.page start stop) = .ok () := by
  obtain ⟨known, valid⟩ := validate_ok_iff.1 h
  have windows : windowFaults (r.page start stop) = [] := by
    have own : windowFaults r = [] := by
      simp only [violations, List.append_eq_nil_iff] at valid
      exact valid.1.2
    have depth := (List.append_eq_nil_iff.1 own).1
    simp only [windowFaults, Request.page, not_lt_of_ge ordered, if_false, List.append_nil]
    exact depth
  have valid' : g.violations (r.page start stop) = [] := by
    simp only [violations, List.append_eq_nil_iff] at valid ⊢
    exact ⟨⟨valid.1.1, windows⟩, valid.2⟩
  exact validate_ok_iff.2 ⟨known, valid'⟩

theorem plan_page {start stop : Nat} (ordered : start ≤ stop) (accepted : g.plan r = .ok p) :
    g.plan (r.page start stop) = .ok p := by
  obtain ⟨_, _, hfilters, -⟩ := plan_ok accepted
  obtain ⟨known, valid, -⟩ := levelFilters_ok hfilters
  have validated : g.validate r = .ok () := validate_ok_iff.2 ⟨known, valid⟩
  have filters : g.levelFilters (r.page start stop) = g.levelFilters r := by
    unfold levelFilters
    rw [validate_page ordered validated, validated]
    rfl
  unfold plan at accepted ⊢
  rw [filters]
  exact accepted

theorem plan_whole (accepted : g.plan r = .ok p) :
    g.plan r.whole = .ok p :=
  plan_page le_rfl accepted

/-! ## The counted level -/

/-- Whether the rows or groups that are counted are those of the requested level. -/
inductive CountsLevel (g : Grid) (r : Request) : Prop where
  | ungrouped (columns : r.rowGroupCols = []) (notPivoting : r.isPivoting = false)
  | first (grouping : r.isGrouping = true) (keys : r.groupKeys = [])
  | paginated (grouping : r.isGrouping = true)
      (paginates : g.settings.grid.paginateChildRows = true)
  | leaves (leaf : r.isGrouping = false) (notPivoting : r.isPivoting = false)
      (paginates : g.settings.grid.paginateChildRows = true)

theorem CountsLevel.column (level : g.CountsLevel r) :
    g.countedColumn? r = r.rowGroupCols[r.groupKeys.length]? := by
  unfold countedColumn?
  cases level with
  | ungrouped columns => simp [columns]
  | first _ keys => simp [keys, List.head?_eq_getElem?]
  | paginated _ paginates => rw [if_pos paginates]
  | leaves _ _ paginates => rw [if_pos paginates]

theorem CountsLevel.notPivoting (level : g.CountsLevel r) (leaf : r.isGrouping = false) :
    r.isPivoting = false := by
  cases level with
  | ungrouped _ notPivoting => exact notPivoting
  | first grouping => rw [leaf] at grouping; cases grouping
  | paginated grouping => rw [leaf] at grouping; cases grouping
  | leaves _ notPivoting => exact notPivoting

theorem countedColumn?_eq_none_iff (level : g.CountsLevel r) :
    g.countedColumn? r = none ↔ r.isGrouping = false := by
  rw [level.column, List.getElem?_eq_none_iff]
  simp [Request.isGrouping]

/-! ## Queries that count a level -/

theorem countQuery_rows (rows : g.countedColumn? r = none) :
    g.countQuery r p =
      countingQuery (some g.table) (whereClause p.rows) Expr.countRows := by
  unfold countQuery
  rw [filtered_eq, rows]
  rfl

theorem countQuery_groups (column : g.countedColumn? r = some c) (all : p.having = []) :
    g.countQuery r p =
      countingQuery (some g.table) (whereClause p.rows) (.countDistinct (.col c.field)) := by
  unfold countQuery
  rw [filtered_eq, column, all]
  rfl

def passingGroups (g : Grid) (p : RequestPlan) (c : ColumnRef) : Query where
  select := [⟨.col c.field, none⟩]
  distinct := false
  source := some g.table
  filter := whereClause p.rows
  groupBy := p.groupBy
  having := whereClause p.having
  orderBy := []
  window := none

/-- What the conditions of generated columns are tested on, if nothing else is grouped by. -/
def conditionKeys (p : RequestPlan) (c : ColumnRef) : List Expr :=
  if p.groupBy.isEmpty then [.col c.field] else p.groupBy

theorem countQuery_conditions (column : g.countedColumn? r = some c) (some_ : p.having ≠ []) :
    g.countQuery r p = countingQuery (some g.table)
      (whereClause (p.rows ++ [.inQuery (.col c.field)
        (g.passingGroups { p with groupBy := conditionKeys p c } c) false]))
      (.countDistinct (.col c.field)) := by
  unfold countQuery
  simp only [filtered_eq, column, List.isEmpty_iff, some_, if_false, Query.foldl_andHaving]
  rw [← Query.foldl_andInto (p.rows ++ _), List.foldl_append, Query.foldl_andInto]
  unfold passingGroups conditionKeys
  rw [← Query.foldl_andInto p.having]
  simp only [List.isEmpty_iff]
  rfl

theorem countQuery_passing (column : g.countedColumn? r = some c) (some_ : p.having ≠ [])
    (grouped : p.groupBy ≠ []) :
    g.countQuery r p = countingQuery (some g.table)
      (whereClause (p.rows ++ [.inQuery (.col c.field) (g.passingGroups p c) false]))
      (.countDistinct (.col c.field)) := by
  have own : conditionKeys p c = p.groupBy := if_neg (by simpa using grouped)
  rw [countQuery_conditions column some_, own]

/-- The rows and groups that a level of groups is answered from. -/
structure AnsweredFrom (g : Grid) (p : RequestPlan) (kept : List Row)
    (groups : List (List Row)) (having_ : Option Resolved) : Prop where
  source : g.source.checkSource (some g.table) = .ok ()
  matched : g.source.matched (whereClause p.rows) = .ok kept
  resolved : g.source.resolveOption none (whereClause p.having) = .ok having_
  grouped : g.source.groupRows p.groupBy kept = .ok groups
  tested : ∀ rows ∈ groups, ∀ e ∈ having_.map (·.expr),
    ∃ b, g.source.test (.group rows) e = .ok b

theorem runWithin_passingGroups (answered : g.AnsweredFrom p kept groups having_)
    (grouped : p.groupBy ≠ []) (known : groups ≠ [] → (g.source.typeOf? c.field).isSome = true) :
    ∃ result, g.source.runWithin none (g.passingGroups p c) = .ok result ∧
      result.rows = (groups.filter (g.source.passesHaving (having_.map (·.expr)))).map
        fun rows => [(Scope.group rows).cell c.field] := by
  have isGrouped : Table.isGrouped (g.passingGroups p c) = true := by
    simp [Table.isGrouped, passingGroups, grouped]
  have projects : List.Forall₂
      (fun rows projected => g.source.project (g.passingGroups p c) (.group rows) = .ok projected)
      (groups.filter (g.source.passesHaving (having_.map (·.expr))))
      ((groups.filter (g.source.passesHaving (having_.map (·.expr)))).map
        fun rows => ⟨[(Scope.group rows).cell c.field], []⟩) := by
    refine List.forall₂_map_right_iff.2 (List.forall₂_same.2 fun rows hrows => ?_)
    have hknown := known (List.ne_nil_of_mem (List.mem_of_mem_filter hrows))
    have items := @evalItems_cols g.source (.group rows) [c.field] (by simpa using hknown)
    exact bind_ok_iff.2 ⟨_, items, bind_ok_iff.2 ⟨[], rfl, rfl⟩⟩
  have houtput : g.source.output (g.passingGroups p c) (having_.map (·.expr)) kept =
      .ok ⟨g.source.outputColumns [⟨.col c.field, none⟩],
        (groups.filter (g.source.passesHaving (having_.map (·.expr)))).map
          fun rows => [(Scope.group rows).cell c.field]⟩ := by
    unfold output
    rw [if_pos isGrouped]
    refine bind_ok_iff.2 ⟨groups, answered.grouped, bind_ok_iff.2 ⟨_,
      projectGroups_ok_iff.2 ⟨answered.tested, projects⟩, ?_⟩⟩
    simp [passingGroups, sortRows, cut, Function.comp_def]
  exact ⟨_, runWithin_ok_iff.2 ⟨answered.source, kept, having_, answered.matched, answered.resolved,
    houtput⟩, rfl⟩

/-! ## Cells that are counted -/

def inGroups (field : String) (passing : List (List Row)) (row : Row) : Bool :=
  !(row.cell field).isNull &&
    passing.any fun members => (row.cell field).same ((Scope.group members).cell field)

def cellAmong (field : String) (passing : List (List Row)) : Expr :=
  .inList (.col field) ((passing.map fun members => (Scope.group members).cell field).map .literal)
    false

theorem isPlain_cellAmong (t : Table) (field : String) (passing : List (List Row)) :
    t.IsPlain (cellAmong field passing) :=
  rfl

theorem decides_inGroups {t : Table} (known : (t.typeOf? field).isSome = true)
    (passing : List (List Row)) (row : Row) :
    t.Decides (.row row) (cellAmong field passing) (inGroups field passing row = true) := by
  have cell : t.eval (.row row) (.col field) = .ok (row.cell field) := eval_col known
  refine (decides_inList _ cell).congr ?_
  simp [inGroups, ← Value.isNull_eq_false_iff]

section

variable {t : Table} {fields : List String} {rows : List Row}

theorem mem_heldBy_iff (nonempty : fields ≠ []) (hfield : field ∈ fields)
    (exact : ∀ row ∈ rows, HasContents (cells fields row))
    (h : t.groupRows (fields.map .col) rows = .ok groups) {k : Option Content} :
    k ∈ rows.map (fun row => (row.cell field).content?) ↔ k ∈ groups.map (heldBy field) := by
  simp only [List.mem_map, mem_groupRows_iff nonempty exact h]
  constructor
  · rintro ⟨x, hx, rfl⟩
    exact ⟨_, ⟨x, hx, rfl⟩, heldBy_agrees hfield exact hx⟩
  · rintro ⟨_, ⟨x, hx, rfl⟩, rfl⟩
    exact ⟨x, hx, (heldBy_agrees hfield exact hx).symm⟩

theorem mem_heldBy_inGroups_iff (nonempty : fields ≠ []) (hfield : field ∈ fields)
    (exact : ∀ row ∈ rows, HasContents (cells fields row))
    (h : t.groupRows (fields.map .col) rows = .ok groups) (passes : List Row → Bool)
    {k : Option Content} (notNull : k ≠ some .null) :
    k ∈ (rows.filter (inGroups field (groups.filter passes))).map
        (fun row => (row.cell field).content?) ↔
      k ∈ (groups.filter passes).map (heldBy field) := by
  have own {row : Row} (hrow : row ∈ rows) : ∃ a, (row.cell field).content? = some a :=
    exact row hrow _ (List.mem_map_of_mem hfield)
  have held {members : List Row} (hmembers : members ∈ groups) :
      ∃ a, ((Scope.group members).cell field).content? = some a := by
    obtain ⟨x, hx, rfl⟩ := (mem_groupRows_iff nonempty exact h).1 hmembers
    obtain ⟨a, ha⟩ := own hx
    exact ⟨a, (heldBy_agrees hfield exact hx).trans ha⟩
  constructor
  · intro hk
    obtain ⟨row, hrow, rfl⟩ := List.mem_map.1 hk
    obtain ⟨hmem, found⟩ := List.mem_filter.1 hrow
    obtain ⟨members, hmembers, same⟩ := List.any_eq_true.1 (Bool.and_eq_true_iff.1 found).2
    obtain ⟨a, ha⟩ := own hmem
    obtain ⟨b, hb⟩ := held (List.mem_of_mem_filter hmembers)
    refine List.mem_map.2 ⟨members, hmembers, ?_⟩
    rw [heldBy, hb, ha, (Value.same_iff ha hb).1 same]
  · intro hk
    obtain ⟨members, hmembers, rfl⟩ := List.mem_map.1 hk
    obtain ⟨x, hx, rfl⟩ :=
      (mem_groupRows_iff nonempty exact h).1 (List.mem_of_mem_filter hmembers)
    have same := heldBy_agrees hfield exact hx
    obtain ⟨a, ha⟩ := own hx
    refine List.mem_map.2 ⟨x, List.mem_filter.2 ⟨hx, ?_⟩, same.symm⟩
    refine Bool.and_eq_true_iff.2 ⟨?_, List.any_eq_true.2 ⟨_, hmembers, ?_⟩⟩
    · rw [same, Ne, Value.content?_eq_null_iff, ← Ne, ← Value.isNull_eq_false_iff] at notNull
      rw [notNull]
      rfl
    · exact (Value.same_iff ha (same.trans ha)).2 rfl

end

/-! ## Rows that are counted -/

/-- Where generated columns have conditions, all other predicates have truth values. -/
theorem truthful_of_pivoting (pivoting : r.isPivoting = true) (hooks : g.HooksTruthful)
    (accepted : g.plan r = .ok p) :
    ∀ e ∈ p.rows, g.source.Truthful e := by
  obtain ⟨_, _, hfilters, -, -, -, -, -, hrows⟩ := plan_ok accepted
  obtain ⟨-, -, model, keys, -, hkeys, restricts⟩ := levelFilters_ok hfilters
  rw [hrows]
  refine restricts.forall_rows
    ((filterForms_truthful _).groupKeys (fun _ => trivial) hkeys) (truthful_freePredicates hooks)
    (fun entries e level _ => ?_)
    (fun _ _ compiled => FilterContext.truthful_compileAdvanced hooks.text compiled)
    fun field _ _ compiled => ColumnFilter.truthful_compile (hooks.text field) compiled
  rw [levelFiltering_of_pivoting pivoting] at level
  cases level

/-- Whether the rows that pass a filter are some of a level and hold as much as some groups. -/
def HoldsAsMuch (t : Table) (field : String) (kept : List Row) (groups : List (List Row))
    (filter : Option Expr) : Prop :=
  ∀ counted, t.matched filter = .ok counted → (∀ row ∈ counted, row ∈ kept) ∧
    (different (counted.map fun row => (row.cell field).content?)).length =
      (different (groups.map (heldBy field))).length

section

variable (answered : g.AnsweredFrom p kept groups having_) (accepted : g.plan r = .ok p)
  (grouping : r.isGrouping = true) (column : g.countedColumn? r = some c)
  (shown : c.field ∈ r.groupFields)
  (exact : ∀ row ∈ kept, HasContents (cells r.groupFields row))

include answered accepted grouping column shown exact

/-- Without conditions on groups all rows of the level are counted. -/
theorem counted_of_all_groups (all : p.having = []) :
    ∃ filter, g.countQuery r p =
        countingQuery (some g.table) filter (.countDistinct (.col c.field)) ∧
      HoldsAsMuch g.source c.field kept
        (groups.filter (g.source.passesHaving (having_.map (·.expr)))) filter ∧
      ∃ counted, g.source.matched filter = .ok counted := by
  have nonempty := Request.groupFields_ne_nil grouping
  have hgroups := answered.grouped
  rw [groupBy_of_grouping grouping accepted] at hgroups
  have noHaving : having_ = none := by
    have resolved := answered.resolved
    rw [all] at resolved
    cases resolved
    rfl
  subst noHaving
  refine ⟨_, countQuery_groups column all, fun counted h => ?_, _, answered.matched⟩
  rw [answered.matched, Except.ok.injEq] at h
  subst h
  refine ⟨fun row hrow => hrow, length_different_eq fun k _ => ?_⟩
  rw [Option.map_none, filter_passesHaving_none]
  exact mem_heldBy_iff nonempty shown exact hgroups

/--
With conditions those rows are counted that have the cell of a group that passes: they may be
in another group, which has the same cell but other ones above the level.
-/
theorem counted_of_passing_groups (conditions : p.having ≠ []) :
    ∃ filter, g.countQuery r p =
        countingQuery (some g.table) filter (.countDistinct (.col c.field)) ∧
      HoldsAsMuch g.source c.field kept
        (groups.filter (g.source.passesHaving (having_.map (·.expr)))) filter ∧
      (g.HooksTruthful → (g.source.typeOf? c.field).isSome = true →
        ∃ counted, g.source.matched filter = .ok counted) := by
  have hgroupBy := groupBy_of_grouping grouping accepted
  have nonempty := Request.groupFields_ne_nil grouping
  have hgroups : g.source.groupRows (r.groupFields.map .col) kept = .ok groups := by
    rw [← hgroupBy]
    exact answered.grouped
  have grouped : p.groupBy ≠ [] := by
    rw [hgroupBy]
    simpa using nonempty
  have known {row : Row} (hrow : row ∈ kept) : (g.source.typeOf? c.field).isSome = true :=
    known_of_groupRows nonempty hgroups (List.ne_nil_of_mem hrow) _ shown
  obtain ⟨result, hrun, hrows⟩ := runWithin_passingGroups (c := c) answered grouped fun some_ => by
    obtain ⟨members, hmembers⟩ := List.exists_mem_of_ne_nil _ some_
    obtain ⟨x, hx, -⟩ := (mem_groupRows_iff nonempty exact hgroups).1 hmembers
    exact known hx
  generalize hpassing : groups.filter (g.source.passesHaving (having_.map (·.expr))) = passing
    at hrows
  have resolved : g.source.resolve none (.inQuery (.col c.field) (g.passingGroups p c) false) =
      .ok (.plain (cellAmong c.field passing)) := by
    rw [resolve_inQuery_col hrun, hrows, cellAmong]
    simp [List.filterMap_map, Function.comp_def]
  have plain := isPlain_cellAmong g.source c.field passing
  -- The subquery may stand for the list of the cells that it finds.
  have same :
      g.source.matched (whereClause
        (p.rows ++ [.inQuery (.col c.field) (g.passingGroups p c) false])) =
      g.source.matched (whereClause (p.rows ++ [cellAmong c.field passing])) :=
    matched_append_congr (resolved.trans plain.symm)
  refine ⟨_, countQuery_passing column conditions grouped, fun counted h => ?_,
    fun hooks hknown => ?_⟩
  · rw [same] at h
    have hcounted := matched_append_eq plain answered.matched
      (fun row hrow => decides_inGroups (known hrow) passing row) h
    rw [hcounted]
    refine ⟨fun row hrow => List.mem_of_mem_filter hrow, length_different_eq fun k notNull => ?_⟩
    have held := mem_heldBy_inGroups_iff nonempty shown exact hgroups
      (g.source.passesHaving (having_.map (·.expr))) notNull
    rw [hpassing] at held
    simpa using held
  · have pivoting : r.isPivoting = true := by
      by_contra notPivoting
      exact conditions (having_of_not (by simpa using notPivoting) accepted)
    have alone (f : Expr) (hf : p.rows ++ [] = [f]) : g.source.Truthful f := by
      rw [List.append_nil] at hf
      exact truthful_of_pivoting pivoting hooks accepted f (by simp [hf])
    have matched : g.source.matched (whereClause (p.rows ++ [])) = .ok kept := by
      rw [List.append_nil]
      exact answered.matched
    have inserted : g.source.matched (whereClause (p.rows ++ [cellAmong c.field passing])) =
        .ok (kept.filter fun row => inGroups c.field passing row = true) :=
      matched_insert alone plain (fun row _ => decides_inGroups hknown passing row) matched
    exact ⟨_, same.trans inserted⟩

/-- The rows that are counted hold the same as the groups that pass, but for null. -/
theorem counted_of_groups :
    ∃ filter, g.countQuery r p =
        countingQuery (some g.table) filter (.countDistinct (.col c.field)) ∧
      HoldsAsMuch g.source c.field kept
        (groups.filter (g.source.passesHaving (having_.map (·.expr)))) filter ∧
      (p.having = [] ∨ g.HooksTruthful ∧ (g.source.typeOf? c.field).isSome = true →
        ∃ counted, g.source.matched filter = .ok counted) := by
  by_cases all : p.having = []
  · obtain ⟨filter, query, same, counted⟩ :=
      counted_of_all_groups answered accepted grouping column shown exact all
    exact ⟨filter, query, same, fun _ => counted⟩
  · obtain ⟨filter, query, same, counted⟩ :=
      counted_of_passing_groups answered accepted grouping column shown exact all
    refine ⟨filter, query, same, fun truthful => ?_⟩
    obtain ⟨hooks, hknown⟩ := truthful.resolve_left all
    exact counted hooks hknown

end

/-! ## Groups with the same cell -/

theorem keys_of_plan (accepted : g.plan r = .ok p) :
    ∃ keys, groupKeyPredicates r g.source.fieldType = .ok keys ∧ ∀ e ∈ keys, e ∈ p.rows := by
  obtain ⟨_, _, hfilters, -, -, -, -, -, hrows⟩ := plan_ok accepted
  obtain ⟨-, -, model, keys, -, hkeys, restricts⟩ := levelFilters_ok hfilters
  refine ⟨keys, hkeys, fun e he => ?_⟩
  rw [hrows]
  cases restricts <;> simp [he]

/-- Above the level all rows that are kept hold what the keys are read as. -/
theorem content_of_expanded (typed : r.ExpandsTyped g.source) (accepted : g.plan r = .ok p)
    (hkept : g.source.matched (whereClause p.rows) = .ok kept) {d : ColumnRef}
    (hd : d ∈ r.rowGroupCols.take r.groupKeys.length) :
    ∃ k, ∀ row ∈ kept, (row.cell d.field).content? = some k := by
  obtain ⟨keys, hkeys, restricted⟩ := keys_of_plan accepted
  obtain ⟨group, hgroup, rfl⟩ := exists_keyedGroup hd
  obtain ⟨e, he, compiled⟩ := exists_of_mem_left (groupKeyPredicates_ok_iff.1 hkeys) hgroup
  obtain ⟨known, cells⟩ := typed _ hd
  obtain ⟨plain, k, -, decides⟩ := groupKeyPredicate_ok cells known compiled
  obtain ⟨passes, rfl, holds⟩ := matchedWithin_eq hkept
  refine ⟨k, fun row hrow => ?_⟩
  obtain ⟨hmem, pass⟩ := List.mem_filter.1 hrow
  exact (holds_iff_of_decides (plain.bound row) (decides row hmem)).1
    ((holds row hmem).1 pass e (restricted e he))

/-- Where the cells above the level are typed, no two groups hold the same in its column. -/
theorem nodup_heldBy (typed : r.ExpandsTyped g.source) (accepted : g.plan r = .ok p)
    (hc : r.rowGroupCols[r.groupKeys.length]? = some c)
    (hkept : g.source.matched (whereClause p.rows) = .ok kept)
    (exact : ∀ row ∈ kept, HasContents (cells r.groupFields row))
    (hgroups : g.source.groupRows (r.groupFields.map .col) kept = .ok groups) :
    (groups.map (heldBy c.field)).Nodup := by
  have nonempty := Request.groupFields_ne_nil (Request.isGrouping_of_column hc)
  obtain ⟨gs, grouped, rfl⟩ := grouped_of_groupRows nonempty exact hgroups
  rw [List.map_map]
  refine List.pairwise_map.2 ((List.pairwise_map.1 grouped.nodup).imp_of_mem ?_)
  intro a b ha hb apart same
  obtain ⟨x, xs, hx, hxmem, hxkey⟩ := grouped.first a ha
  obtain ⟨y, ys, hy, hymem, hykey⟩ := grouped.first b hb
  -- Above the level the first rows of both groups hold the keys of the request.
  refine apart ?_
  rw [hxkey, hykey, contents_groupFields_iff hc fun d hd => ?_]
  · simpa [heldBy, hx, hy, Scope.cell] using same
  · obtain ⟨k, hk⟩ := content_of_expanded typed accepted hkept hd
    rw [hk x hxmem, hk y hymem]

/-! ## Numbers of rows and groups -/

structure CountsGroups (g : Grid) (r : Request) (p : RequestPlan) (c : ColumnRef)
    (block : RowBlock) (n : Nat) (shown : List (List Row)) : Prop where
  rows : List.Forall₂ (g.IsGroupRow r.whole p) shown block.rows
  count : n = (different (shown.map (heldBy c.field))).length
  agrees : n = block.rows.length ↔
    (shown.map (heldBy c.field)).Nodup ∧ some .null ∉ shown.map (heldBy c.field)
  typed : r.ExpandsTyped g.source → (shown.map (heldBy c.field)).Nodup ∧
    block.rows.length = n + if some .null ∈ shown.map (heldBy c.field) then 1 else 0

def CountsShown (g : Grid) (r : Request) (p : RequestPlan) (block : RowBlock) (n : Nat) : Prop :=
  match g.countedColumn? r with
  | none => n = block.rows.length
  | some c => ∃ shown, g.CountsGroups r p c block n shown

theorem count_ok_iff (accepted : g.plan r = .ok p) {n : Nat} :
    g.count r = .ok n ↔ g.source.count (g.countQuery r p) = .ok n := by
  unfold count
  rw [accepted]
  exact mapError_ok_iff

theorem count_leaves (accepted : g.plan r = .ok p) (leaf : r.isGrouping = false)
    (notPivoting : r.isPivoting = false) (rows : g.countedColumn? r = none)
    (fits : g.source.rows.length < 2 ^ 63) {block : RowBlock}
    (answered : g.rows r.whole = .ok block) :
    g.count r = .ok block.rows.length := by
  obtain ⟨p', kept, having_, result, hp, hselected, source, hhaving, houtput, hobjects⟩ :=
    output_of_rows r.isWhole_whole answered
  rw [plan_whole accepted, Except.ok.injEq] at hp
  subst hp
  have hkept := (selected_iff_matched (plan_whole accepted)).1 hselected
  have all := having_of_not notPivoting accepted
  rw [all] at hhaving
  cases hhaving
  have plain : Table.isGrouped (g.wholeQuery r.whole p) = false := by
    rw [wholeQuery, all]
    exact isGrouped_leaf (r := r.whole) notPivoting leaf (plan_whole accepted)
  have length : block.rows.length = kept.length := by
    rw [hobjects, ResultSet.rowObjects, List.length_map]
    exact length_output plain ⟨rfl, rfl⟩ houtput
  rw [count_ok_iff accepted, countQuery_rows rows, length]
  have few := Nat.lt_of_le_of_lt (sublist_of_matched hkept).length_le fits
  exact (count_countingQuery_iff hasAggregate_countRows).2
    ⟨source, kept, _, hkept, eval_countRows kept, toCount?_length few⟩

theorem answeredFrom_of_rows (accepted : g.plan r = .ok p) (grouping : r.isGrouping = true)
    {block : RowBlock} (answered : g.rows r.whole = .ok block) :
    ∃ kept groups having_ shown, g.AnsweredFrom p kept groups having_ ∧
      shown.Perm (groups.filter (g.source.passesHaving (having_.map (·.expr)))) ∧
      List.Forall₂ (g.IsGroupRow r.whole p) shown block.rows := by
  obtain ⟨-, -, -, -, -, -, source, -⟩ := output_of_rows r.isWhole_whole answered
  obtain ⟨p', kept, having_, groups, shown, hp, hselected, hhaving, hgroups, tested, perm, rows⟩ :=
    groups_of_rows r.isWhole_whole grouping answered
  rw [plan_whole accepted, Except.ok.injEq] at hp
  subst hp
  have hkept := (selected_iff_matched (plan_whole accepted)).1 hselected
  rw [← groupBy_of_grouping (r := r.whole) grouping (plan_whole accepted)] at hgroups
  exact ⟨kept, groups, having_, shown, ⟨source, hkept, hhaving, hgroups, tested⟩, perm, rows⟩

theorem count_groups (answered : g.AnsweredFrom p kept groups having_)
    (accepted : g.plan r = .ok p) (column : g.countedColumn? r = some c)
    (hc : r.rowGroupCols[r.groupKeys.length]? = some c)
    (exact : ∀ row ∈ kept, HasContents (cells r.groupFields row))
    (fits : g.source.rows.length < 2 ^ 63) :
    (∀ n, g.count r = .ok n →
      n = (different ((groups.filter (g.source.passesHaving (having_.map (·.expr)))).map
        (heldBy c.field))).length) ∧
      (p.having = [] ∨ g.HooksTruthful ∧ (g.source.typeOf? c.field).isSome = true →
        ∃ n, g.count r = .ok n) := by
  have grouping := Request.isGrouping_of_column hc
  have nonempty := Request.groupFields_ne_nil grouping
  have field := field_mem_groupFields hc
  obtain ⟨filter, counting, same, exists_⟩ :=
    counted_of_groups answered accepted grouping column field exact
  have hgroups := answered.grouped
  rw [groupBy_of_grouping grouping accepted] at hgroups
  -- The rows that are counted are among those of the level, so their cells have contents.
  have evaluated {counted : List Row} (hcounted : g.source.matched filter = .ok counted) :
      g.source.eval (.group counted) (.countDistinct (.col c.field)) = .ok (.int (Int64.ofNat
        (different (counted.map fun row => (row.cell c.field).content?)).length)) := by
    obtain ⟨among, -⟩ := same counted hcounted
    refine eval_countDistinct (fun some_ => ?_) fun row hrow => ?_
    · obtain ⟨row, hrow⟩ := List.exists_mem_of_ne_nil _ some_
      exact known_of_groupRows nonempty hgroups (List.ne_nil_of_mem (among row hrow)) _ field
    · exact exact row (among row hrow) _ (List.mem_map_of_mem field)
  have small {counted : List Row} (hcounted : g.source.matched filter = .ok counted) :
      (different (counted.map fun row => (row.cell c.field).content?)).length < 2 ^ 63 := by
    calc (different (counted.map fun row => (row.cell c.field).content?)).length
        ≤ (counted.map fun row => (row.cell c.field).content?).length :=
          different_sublist.length_le
      _ = counted.length := List.length_map _
      _ ≤ g.source.rows.length := (sublist_of_matched hcounted).length_le
      _ < 2 ^ 63 := fits
  simp only [count_ok_iff accepted, counting,
    count_countingQuery_iff (hasAggregate_countDistinct _)]
  constructor
  · rintro n ⟨-, counted, v, hcounted, hv, hn⟩
    rw [evaluated hcounted, Except.ok.injEq] at hv
    rw [← hv, toCount?_length (small hcounted), Option.some.injEq] at hn
    rw [← hn]
    exact (same counted hcounted).2
  · intro truthful
    obtain ⟨counted, hcounted⟩ := exists_ truthful
    exact ⟨_, answered.source, counted, _, hcounted, evaluated hcounted,
      toCount?_length (small hcounted)⟩

theorem countsGroups_of_rows (accepted : g.plan r = .ok p) (column : g.countedColumn? r = some c)
    (hc : r.rowGroupCols[r.groupKeys.length]? = some c)
    (noDoubles : ∀ row ∈ g.source.rows, ∀ c ∈ r.rowGroupCols, ∀ d, row.cell c.field ≠ .float d)
    (fits : g.source.rows.length < 2 ^ 63) {block : RowBlock}
    (answered : g.rows r.whole = .ok block) :
    (∀ n, g.count r = .ok n → ∃ shown, g.CountsGroups r p c block n shown) ∧
      (p.having = [] ∨ g.HooksTruthful ∧ (g.source.typeOf? c.field).isSome = true →
        ∃ n, g.count r = .ok n) := by
  have grouping := Request.isGrouping_of_column hc
  obtain ⟨kept, groups, having_, shown, answeredFrom, perm, rows⟩ :=
    answeredFrom_of_rows accepted grouping answered
  have exact : ∀ row ∈ kept, HasContents (cells r.groupFields row) := fun row hrow =>
    hasContents_fieldsTo noDoubles (r.groupKeys.length + 1)
      ((sublist_of_matched answeredFrom.matched).subset hrow)
  obtain ⟨counts, exists_⟩ := count_groups answeredFrom accepted column hc exact fits
  have hgroups := answeredFrom.grouped
  rw [groupBy_of_grouping grouping accepted] at hgroups
  have length : block.rows.length = (shown.map (heldBy c.field)).length := by
    rw [List.length_map, rows.length_eq]
  refine ⟨fun n h => ?_, exists_⟩
  have number : n = (different (shown.map (heldBy c.field))).length := by
    rw [counts n h]
    exact length_different_eq fun k _ => (perm.map _).mem_iff.symm
  refine ⟨shown, rows, number, ?_, fun typed => ?_⟩
  · rw [number, length]
    exact length_different_eq_length_iff
  · have nodup : (shown.map (heldBy c.field)).Nodup := by
      have groupsNodup := nodup_heldBy typed accepted hc answeredFrom.matched exact hgroups
      exact (perm.map _).nodup_iff.2 (groupsNodup.sublist (List.filter_sublist.map _))
    refine ⟨nodup, ?_⟩
    rw [number, length]
    exact length_different_of_nodup nodup

/--
The number that is told for a level is that of the rows that are shown without a window, if
these are leaf rows. For groups it is the number of the different cells in their column but
for null. If the cells above the level are typed, these are all groups but the one without a
cell.
-/
theorem count_rows_whole (accepted : g.plan r = .ok p) (level : g.CountsLevel r)
    (noDoubles : ∀ row ∈ g.source.rows, ∀ c ∈ r.rowGroupCols, ∀ d, row.cell c.field ≠ .float d)
    (fits : g.source.rows.length < 2 ^ 63) {block : RowBlock}
    (answered : g.rows r.whole = .ok block) :
    (∀ n, g.count r = .ok n → g.CountsShown r p block n) ∧
      (p.having = [] ∨ g.HooksTruthful ∧
        (∀ c ∈ r.rowGroupCols, (g.source.typeOf? c.field).isSome = true) →
          ∃ n, g.count r = .ok n) := by
  cases column : g.countedColumn? r with
  | none =>
      have leaf := (countedColumn?_eq_none_iff level).1 column
      have counted := count_leaves accepted leaf (level.notPivoting leaf) column fits answered
      refine ⟨fun n h => ?_, fun _ => ⟨_, counted⟩⟩
      rw [counted, Except.ok.injEq] at h
      simp [CountsShown, column, h]
  | some c =>
      have hc : r.rowGroupCols[r.groupKeys.length]? = some c := level.column.symm.trans column
      obtain ⟨counts, exists_⟩ :=
        countsGroups_of_rows accepted column hc noDoubles fits answered
      refine ⟨fun n h => ?_, fun truthful => exists_ ?_⟩
      · simpa [CountsShown, column] using counts n h
      · exact truthful.imp_right fun ⟨hooks, known⟩ => ⟨hooks, known c (List.mem_of_getElem? hc)⟩

/-! ## Counting guests -/

theorem rows_guests :
    ∃ block, guests.rows (groupedBy "place" []) = .ok block ∧ block.rows.length = 2 :=
  exists_of_toOption_map (by decide +kernel)

theorem plan_guests :
    ∃ p, guests.plan (groupedBy "place" []) = .ok p ∧ p.having = [] := by
  obtain ⟨p, hp, -⟩ : ∃ p, guests.plan (groupedBy "place" []) = .ok p ∧ p.rows.length = 0 :=
    exists_of_toOption_map (by decide +kernel)
  exact ⟨p, hp, having_of_not rfl hp⟩

/-- Of the places of guests the one of the guest without a place is not counted. -/
theorem count_rows_whole_guests :
    (∀ row ∈ guests.source.rows, ∀ c ∈ (groupedBy "place" []).rowGroupCols, ∀ d,
      row.cell c.field ≠ .float d) ∧
    ∃ p block n shown, guests.plan (groupedBy "place" []) = .ok p ∧
      guests.rows (groupedBy "place" []).whole = .ok block ∧
      guests.count (groupedBy "place" []) = .ok n ∧
      guests.CountsGroups (groupedBy "place" []) p { field := "place" } block n shown := by
  have noDoubles : ∀ row ∈ guests.source.rows, ∀ c ∈ (groupedBy "place" []).rowGroupCols, ∀ d,
      row.cell c.field ≠ .float d := by
    have plain : ∀ row ∈ guests.source.rows, ∀ c ∈ (groupedBy "place" []).rowGroupCols,
        (row.cell c.field).content? ≠ none := by decide
    intro row hrow c hc d hcell
    exact plain row hrow c hc (by rw [hcell]; rfl)
  obtain ⟨p, accepted, all⟩ := plan_guests
  obtain ⟨block, answered, -⟩ := rows_guests
  obtain ⟨counts, exists_⟩ :=
    count_rows_whole accepted (.first rfl rfl) noDoubles (by decide) answered
  obtain ⟨n, hn⟩ := exists_ (.inl all)
  obtain ⟨shown, counted⟩ := counts n hn
  exact ⟨noDoubles, p, block, n, shown, accepted, answered, hn, counted⟩

/-- The guest without a place is shown as a group that is not counted. -/
theorem not_count_rows_whole :
    ¬ ∀ (g : Grid) (r : Request) (p : RequestPlan) (block : RowBlock), g.plan r = .ok p →
      g.CountsLevel r → g.rows r.whole = .ok block → g.count r = .ok block.rows.length := by
  intro h
  obtain ⟨p, accepted, -⟩ := plan_guests
  obtain ⟨block, answered, length⟩ := rows_guests
  have counted := h guests (groupedBy "place" []) p block accepted (.first rfl rfl) answered
  have number : (guests.count (groupedBy "place" [])).toOption = some 1 := by
    decide +kernel
  rw [counted, length] at number
  cases number

end Grid

end GridSql
