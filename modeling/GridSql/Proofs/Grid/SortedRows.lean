import GridSql.Proofs.Grid.GeneratedFilters
import GridSql.Proofs.Grid.OutputNames
import GridSql.Proofs.Grid.Windows
import GridSql.Proofs.Table.SortOrder

/-!
# Group rows are sorted by what they display

A level of groups is sorted by its group columns first and by its values behind them. The keys
are found by name and evaluated apart from the select list, but they are the cells that are
displayed under these names. So where the cells of a sorted column are well ordered, the rows
ascend by them, and rows that tie keep the order in which their groups appeared.
-/

namespace GridSql

/-! ## Sort items and displayed cells -/

namespace Request

def sortsOn (r : Request) (names : List String) : List SortItem :=
  r.sortModel.filter fun s => !isAutoGroupColumn s.colId && names.contains s.colId

def valueNames (r : Request) (pivot : PivotContext) : List String :=
  if r.isPivoting then pivot.resultFields else r.valueCols.map (·.field)

/-- The sort items on what a level of groups displays: first on group columns, then on values. -/
def displayedSorts (r : Request) (pivot : PivotContext) : List SortItem :=
  r.sortsOn r.groupFields ++ r.sortsOn (r.valueNames pivot)

end Request

namespace SortItem

/-- The order of two cells: nulls come first, and last if the order is turned round. -/
def compare (s : SortItem) (v w : Value) : Ordering :=
  let ascending := match v.isNull, w.isNull with
    | true, true => .eq
    | true, false => .lt
    | false, true => .gt
    | false, false => (v.order? w).getD .eq
  match s.direction with
  | .asc => ascending
  | .desc => ascending.swap

end SortItem

/-- The order of two rows by the cells of sorted columns, one after the other. -/
def compareDisplayed : List SortItem → Row → Row → Ordering
  | [], _, _ => .eq
  | s :: rest, x, y =>
      (s.compare (x.cell s.colId) (y.cell s.colId)).then (compareDisplayed rest x y)

def ResultSet.column (result : ResultSet) (name : String) : List Value :=
  result.rows.map fun values => Row.cell (result.columns.zip values) name

namespace Table

variable {t : Table} {s : Scope} {items : List SelectItem} {p p' : Projected}

/-- Whether a sort key is made of a sort item and evaluates what is selected under its name. -/
def SortsBy (items : List SelectItem) (s : SortItem) (key : OrderKey) : Prop :=
  (∃ e, key = s.key e) ∧ ∃ item ∈ items, item.expr = key.expr ∧ item.outputName = s.colId

theorem compareKey_of_sortsBy {sort : SortItem} {key : OrderKey} (h : SortsBy items sort key)
    (v w : Value) :
    compareKey key v w = sort.compare v w := by
  obtain ⟨⟨e, rfl⟩, -⟩ := h
  obtain ⟨colId, direction⟩ := sort
  cases direction <;> cases v <;> cases w <;> rfl

theorem compareKeys_eq_compareDisplayed {sorts : List SortItem} {keys : List OrderKey}
    (h : List.Forall₂ (SortsBy items) sorts keys) {x y : Row} :
    compareKeys keys (sorts.map fun s => x.cell s.colId) (sorts.map fun s => y.cell s.colId) =
      compareDisplayed sorts x y := by
  induction h with
  | nil => rfl
  | cons first _ ih =>
      rw [List.map_cons, List.map_cons, compareKeys, compareDisplayed, ih,
        compareKey_of_sortsBy first]

theorem keys_eq_cells {sorts : List SortItem} {keys : List OrderKey}
    (h : List.Forall₂ (SortsBy items) sorts keys) {row : Row}
    (shown : ∀ item ∈ items, t.IsValue s item.expr (row.cell item.outputName)) {vs : List Value}
    (evaluated : t.evalAll s (keys.map (·.expr)) = .ok vs) :
    vs = sorts.map fun s => row.cell s.colId := by
  induction h generalizing vs with
  | nil =>
      cases evaluated
      rfl
  | cons first _ ih =>
      obtain ⟨v, hv, evaluated⟩ := bind_ok_iff.1 evaluated
      obtain ⟨others, hothers, evaluated⟩ := bind_ok_iff.1 evaluated
      cases evaluated
      obtain ⟨-, item, hitem, hexpr, hname⟩ := first
      dsimp only at hv
      rw [← hexpr] at hv
      have plain : item.expr.isStar = false := by
        cases h : item.expr with
        | star table =>
            rw [h, eval] at hv
            cases hv
        | _ => rfl
      obtain rfl := Except.ok.inj ((shown item hitem plain).symm.trans hv)
      rw [List.map_cons, ← ih hothers, hname]

theorem keys_of_project {q : Query} {sorts : List SortItem}
    (h : List.Forall₂ (SortsBy q.select) sorts q.orderBy)
    (once : (t.outputColumns q.select).Nodup) (projected : t.project q s = .ok p) :
    p.keys = sorts.map fun s => Row.cell ((t.outputColumns q.select).zip p.values) s.colId := by
  obtain ⟨values, hvalues, evaluated⟩ := bind_ok_iff.1 projected
  obtain ⟨keys, hkeys, hp⟩ := bind_ok_iff.1 evaluated
  cases hp
  exact keys_eq_cells h (fun item hitem => isValue_cell hvalues hitem
    (List.nodup_iff_count_le_one.1 once _)) hkeys

theorem pairwise_zipIdx {α : Type} (l : List α) : l.zipIdx.Pairwise fun a b => a.2 < b.2 := by
  refine List.pairwise_map.1 ?_
  rw [List.zipIdx_map_snd]
  exact List.pairwise_lt_range'

/-- The groups that pass are displayed with their numbers, sorted by their keys. -/
theorem exists_numbered_of_output {q : Query} {having_ : Option Expr} {kept : List Row}
    {result : ResultSet} (grouped : isGrouped q = true)
    (plain : q.distinct = false ∧ q.window = none) (h : t.output q having_ kept = .ok result) :
    ∃ (groups : List (List Row)) (shown : List ((List Row × Nat) × Projected)),
      t.groupRows q.groupBy kept = .ok groups ∧ result.columns = t.outputColumns q.select ∧
      result.rows = shown.map (·.2.values) ∧
      (shown.map Prod.fst).Perm (groups.zipIdx.filter fun g => t.passesHaving having_ g.1) ∧
      (∀ row ∈ shown, t.project q (.group row.1.1) = .ok row.2) ∧
      (SortsConsistently q.orderBy (shown.map (·.2.keys)) → shown.Pairwise fun a b =>
        compareKeys q.orderBy a.2.keys b.2.keys = .lt ∨
          compareKeys q.orderBy a.2.keys b.2.keys = .eq ∧ a.1.2 < b.1.2) := by
  rw [output, if_pos grouped] at h
  obtain ⟨groups, hgroups, h⟩ := bind_ok_iff.1 h
  obtain ⟨ps, hps, h⟩ := bind_ok_iff.1 h
  cases h
  let numbered := groups.zipIdx.filter fun g => t.passesHaving having_ g.1
  have passing : groups.filter (t.passesHaving having_) = numbered.map Prod.fst := by
    have all : (groups.zipIdx.map Prod.fst).filter (t.passesHaving having_) =
        numbered.map Prod.fst := List.filter_map
    rwa [List.zipIdx_map_fst] at all
  have ascending : numbered.Pairwise fun g g' => g.2 < g'.2 := (pairwise_zipIdx groups).filter _
  obtain ⟨-, outputs⟩ := projectGroups_ok_iff.1 hps
  rw [passing, List.forall₂_map_left_iff] at outputs
  obtain ⟨rows, hrows, rfl, projected⟩ := exists_pairs_of_forall₂ outputs
  have perm := sortBeside_perm q.orderBy rows
  refine ⟨groups, sortBeside q.orderBy rows, hgroups, rfl, ?_, ?_, ?_, fun consistent => ?_⟩
  · simp only [plain, cut, Bool.false_eq_true, if_false, sortRows_map_snd, List.map_map]
    rfl
  · have sorted : ((sortBeside q.orderBy rows).map Prod.fst).Perm (rows.map Prod.fst) := perm.map _
    rwa [← hrows] at sorted
  · exact fun row hrow => projected row (perm.subset hrow)
  · rw [hrows, List.pairwise_map] at ascending
    exact sortBeside_stable (consistent.of_perm (perm.map _).symm) ascending

end Table

namespace Grid

variable {g : Grid} {r : Request} {p : RequestPlan} {pivot : PivotContext}

/-! ## Sort keys by name -/

/-- The sort items whose columns are found have a key each, in their order. -/
theorem forall₂_filterMap_key {lookup : String → Option Expr} {names : List String}
    (found : ∀ name, (lookup name).isSome = names.contains name) (sorts : List SortItem) :
    List.Forall₂ (fun s key => ∃ e, lookup s.colId = some e ∧ key = s.key e)
      (sorts.filter fun s => names.contains s.colId)
      (sorts.filterMap fun s => (lookup s.colId).map s.key) := by
  induction sorts with
  | nil => exact .nil
  | cons s sorts ih =>
      rw [List.filter_cons, List.filterMap_cons, ← found]
      cases h : lookup s.colId with
      | none => exact ih
      | some e => exact .cons ⟨e, h, rfl⟩ ih

theorem select_of_level (grouping : r.isGrouping = true) {projection : List String}
    {level : GroupingPlan} {count : Option String}
    (h : GroupingPlan.ofRequest r g.aggregates projection count = .ok level) :
    ∃ values, (r.isPivoting = true → values = []) ∧
      level.select = r.groupFields.map (fun f => ⟨.col f, none⟩) ++
        (count.map fun name => (⟨Expr.countRows, some name⟩ : SelectItem)).toList ++ values := by
  rw [GroupingPlan.ofRequest, if_pos grouping] at h
  dsimp only at h
  have keys : (r.activeGroupCols.map fun c => Expr.col c.field).map (⟨·, none⟩) =
      r.groupFields.map fun f => (⟨.col f, none⟩ : SelectItem) := by
    simp only [Request.groupFields, List.map_map, Function.comp_def]
  split at h
  · cases h
    exact ⟨[], fun _ => rfl, by rw [← keys]⟩
  · next notPivoting =>
      obtain ⟨values, -, h⟩ := bind_ok_iff.1 h
      cases h
      exact ⟨values, fun pivoting => absurd pivoting notPivoting, by rw [← keys]⟩

theorem mem_select_of_mem_groupFields (grouping : r.isGrouping = true) (accepted : g.plan r = .ok p)
    {field : String} (h : field ∈ r.groupFields) :
    (⟨.col field, none⟩ : SelectItem) ∈ p.select := by
  obtain ⟨_, level, -, -, hlevel, -, hselect, -, -⟩ := plan_ok accepted
  obtain ⟨values, -, hitems⟩ := select_of_level grouping hlevel
  have onLevel : (⟨.col field, none⟩ : SelectItem) ∈ level.select := by
    rw [hitems, List.append_assoc]
    exact List.mem_append_left _ (List.mem_map_of_mem h)
  rw [hselect, selectOf_of_grouping grouping]
  exact List.mem_append_left _ onLevel

/-- The values of a level are found by the names that they are displayed under. -/
theorem isSome_selectedValue? (grouping : r.isGrouping = true) (notPivoting : r.isPivoting = false)
    (accepted : g.plan r = .ok p) (name : String) :
    (selectedValue? r p.select name).isSome = (r.valueCols.map (·.field)).contains name := by
  obtain ⟨values, hvalues, hselect⟩ := select_of_grouping grouping notPivoting accepted
  have declared : (r.valueCols.any fun c => decide (c.field = name)) =
      (r.valueCols.map (·.field)).contains name := by
    rw [Bool.eq_iff_iff, List.any_eq_true, List.contains_iff_mem, List.mem_map]
    simp
  unfold selectedValue?
  rw [declared]
  split
  · next h =>
      rw [h]
      obtain ⟨c, hc, rfl⟩ := List.mem_map.1 (List.contains_iff_mem.1 h)
      obtain ⟨item, hitem, made⟩ := exists_of_mem_left (mapM_ok_iff.1 hvalues) hc
      obtain ⟨e, -, made⟩ := bind_ok_iff.1 made
      cases made
      rw [Option.isSome_map, List.find?_isSome, hselect]
      exact ⟨_, List.mem_append_right _ hitem, by simp⟩
  · next h => rw [eq_false_of_ne_true h, Option.isSome_none]

/-- Each sort item on what a level of groups displays becomes a key, in the order of the request. -/
theorem sortsBy_planOrderBy (grouping : r.isGrouping = true) (accepted : g.plan r = .ok p) :
    List.Forall₂ (Table.SortsBy p.select) (r.displayedSorts p.pivot)
      (planOrderBy r p.select p.pivot) := by
  have notFlat : ¬ (!r.isPivoting && !r.isGrouping) = true := by simp [grouping]
  have sortsOn (names : List String) : r.sortsOn names =
      (r.sortModel.filter fun s => !isAutoGroupColumn s.colId).filter
        fun s => names.contains s.colId := by
    rw [Request.sortsOn, List.filter_filter]
    exact List.filter_congr fun s _ => Bool.and_comm _ _
  have onGroups (s : SortItem) : (r.activeGroupCols.any fun c => decide (c.field = s.colId)) =
      r.groupFields.contains s.colId := by
    rw [Bool.eq_iff_iff, List.any_eq_true, List.contains_iff_mem, Request.groupFields, List.mem_map]
    simp
  unfold planOrderBy Request.displayedSorts
  dsimp only
  rw [if_neg notFlat]
  refine List.rel_append ?_ ?_
  · simp only [onGroups]
    rw [← sortsOn, List.forall₂_map_right_iff, List.forall₂_same]
    intro s hs
    have field : s.colId ∈ r.groupFields := by
      rw [sortsOn, List.mem_filter] at hs
      exact List.contains_iff_mem.1 hs.2
    exact ⟨⟨_, rfl⟩, _, mem_select_of_mem_groupFields grouping accepted field, rfl, rfl⟩
  · rw [sortsOn, Request.valueNames]
    cases pivoting : r.isPivoting with
    | true =>
        have found (name : String) :
            (p.pivot.expression? name).isSome = p.pivot.resultFields.contains name := by
          rw [Bool.eq_iff_iff, PivotContext.expression?_isSome_iff, List.contains_iff_mem]
        refine (forall₂_filterMap_key found _).imp fun s key h => ?_
        obtain ⟨e, he, rfl⟩ := h
        exact ⟨⟨e, rfl⟩, _, selectItems_subset accepted _ (mem_selectItems_of_expression? he), rfl,
          rfl⟩
    | false =>
        refine (forall₂_filterMap_key (isSome_selectedValue? grouping pivoting accepted) _).imp
          fun s key h => ?_
        obtain ⟨e, he, rfl⟩ := h
        obtain ⟨item, hitem, named, rfl⟩ := exists_of_selectedValue? he
        exact ⟨⟨_, rfl⟩, item, hitem, rfl, by simp [SelectItem.outputName, named]⟩

/-! ## Sorted levels -/

/-- What a level of groups displays is a group column, the child count or a value. -/
theorem mem_of_mem_outputNames (grouping : r.isGrouping = true) (accepted : g.plan r = .ok p)
    {name : String} (h : name ∈ p.select.map (·.outputName)) :
    name ∈ r.groupFields ∨ g.childCountName? r = some name ∨ name ∈ r.valueNames p.pivot := by
  unfold Request.valueNames
  cases pivoting : r.isPivoting with
  | false =>
      rw [map_outputName_of_grouping grouping pivoting accepted] at h
      simpa [or_assoc, eq_comm] using h
  | true =>
      obtain ⟨_, level, -, -, hlevel, -, hselect, -, -⟩ := plan_ok accepted
      obtain ⟨_, empty, hitems⟩ := select_of_level grouping hlevel
      have onLevel (h : name ∈ level.select.map (·.outputName)) :
          name ∈ r.groupFields ∨ g.childCountName? r = some name := by
        rw [hitems, empty pivoting, List.append_nil, List.map_append, Table.map_outputName_cols,
          List.mem_append] at h
        cases hname : g.childCountName? r <;>
          simpa [hname, SelectItem.outputName, eq_comm] using h
      have shown : name ∈ level.select.map (·.outputName) ∨ name ∈ p.pivot.resultFields := by
        rw [hselect, selectOf_of_grouping grouping, List.map_append, List.mem_append] at h
        simpa [PivotContext.selectItems, PivotContext.resultFields, SelectItem.outputName] using h
      rcases shown with shown | shown
      · rw [← or_assoc]
        exact .inl (onLevel shown)
      · exact .inr (.inr shown)

theorem mem_displayedSorts (grouping : r.isGrouping = true) (accepted : g.plan r = .ok p)
    {s : SortItem} (hs : s ∈ r.sortModel) (displayed : s.colId ∈ p.select.map (·.outputName))
    (own : isAutoGroupColumn s.colId = false) (notCount : g.childCountName? r ≠ some s.colId) :
    s ∈ r.displayedSorts p.pivot := by
  simp only [Request.displayedSorts, Request.sortsOn, List.mem_append, List.mem_filter, own,
    Bool.not_false, Bool.true_and, List.contains_iff_mem]
  rcases mem_of_mem_outputNames grouping accepted displayed with onGroup | onCount | onValue
  · exact .inl ⟨hs, onGroup⟩
  · exact absurd onCount notCount
  · exact .inr ⟨hs, onValue⟩

/--
Rows of groups, with the numbers of these, that ascend by their displayed cells; those that tie
stand in the order in which the groups have their first rows.
-/
structure ShowsSorted (t : Table) (items : List SelectItem) (sorts : List SortItem)
    (owners : List Nat) (groups : List Table.Group) (shown : List (Nat × List Value)) : Prop where
  own : ∀ row ∈ shown, ∃ group, groups[row.1]? = some group ∧
    t.evalItems (.group group.rows) items = .ok row.2
  once : (shown.map Prod.fst).Nodup
  ascending : shown.Pairwise fun a b =>
    let order := compareDisplayed sorts ((t.outputColumns items).zip a.2)
      ((t.outputColumns items).zip b.2)
    order = .lt ∨ order = .eq ∧ owners.idxOf a.1 < owners.idxOf b.1

theorem ShowsSorted.sublist {t : Table} {items : List SelectItem} {sorts : List SortItem}
    {owners : List Nat} {groups : List Table.Group} {shown part : List (Nat × List Value)}
    (h : ShowsSorted t items sorts owners groups shown) (sub : part.Sublist shown) :
    ShowsSorted t items sorts owners groups part where
  own row hrow := h.own row (sub.subset hrow)
  once := (sub.map Prod.fst).nodup h.once
  ascending := h.ascending.sublist sub

variable {q : Query} {all : ResultSet}

/-- All rows of a level stand in the order of what they display. -/
theorem showsSorted_of_run (grouping : r.isGrouping = true) (accepted : g.plan r = .ok p)
    (names : (g.source.outputColumns p.select).Nodup)
    (answered : g.source.run (g.wholeQuery r p) = .ok all)
    (wellOrdered : ∀ s ∈ r.displayedSorts p.pivot, Value.WellOrdered (all.column s.colId)) :
    ∃ kept owners groups shown, g.selected r = .ok kept ∧
      Table.Numbered (Table.cells r.groupFields) kept owners groups ∧
      ShowsSorted g.source p.select (r.displayedSorts p.pivot) owners groups shown ∧
      all.columns = g.source.outputColumns p.select ∧ all.rows = shown.map Prod.snd := by
  obtain ⟨-, kept, having_, hkept, -, houtput⟩ := Table.runWithin_ok_iff.1 answered
  have byFields : (g.wholeQuery r p).groupBy = r.groupFields.map .col :=
    groupBy_of_grouping grouping accepted
  have nonempty := Request.groupFields_ne_nil grouping
  have grouped : Table.isGrouped (g.wholeQuery r p) = true := by
    simp [Table.isGrouped, byFields, nonempty]
  obtain ⟨members, rows, hmembers, hcolumns, hrows, perm, projected, sorted⟩ :=
    Table.exists_numbered_of_output grouped ⟨rfl, rfl⟩ houtput
  rw [byFields] at hmembers
  obtain ⟨owners, groups, numbered, rfl⟩ := Table.numbered_of_groupRows nonempty hmembers
  have sorts : List.Forall₂ (Table.SortsBy (g.wholeQuery r p).select) (r.displayedSorts p.pivot)
      (g.wholeQuery r p).orderBy := sortsBy_planOrderBy grouping accepted
  have keys {row : (List Row × Nat) × Table.Projected} (hrow : row ∈ rows) :=
    Table.keys_of_project sorts names (projected row hrow)
  have consistent : Table.SortsConsistently (g.wholeQuery r p).orderBy (rows.map (·.2.keys)) := by
    refine Table.sortsConsistently_of_wellOrdered (List.forall_mem_map.2 wellOrdered)
      (List.forall_mem_map.2 fun row hrow => ?_)
    rw [keys hrow, List.forall₂_map_left_iff, List.forall₂_map_right_iff, List.forall₂_same]
    intro s _
    rw [ResultSet.column, hcolumns, hrows, List.map_map]
    exact List.mem_map.2 ⟨row, hrow, rfl⟩
  have number {row : (List Row × Nat) × Table.Projected} (hrow : row ∈ rows) :
      ∃ group, groups[row.1.2]? = some group ∧ group.rows = row.1.1 := by
    have passing := List.mem_of_mem_filter (perm.subset (List.mem_map_of_mem hrow))
    rw [List.mem_zipIdx_iff_getElem?, List.getElem?_map, Option.map_eq_some_iff] at passing
    exact passing
  refine ⟨kept, owners, groups, rows.map fun row => (row.1.2, row.2.values),
    selected_ok_iff.2 ⟨p, accepted, hkept⟩, numbered, ⟨?_, ?_, ?_⟩, hcolumns, ?_⟩
  · refine List.forall_mem_map.2 fun row hrow => ?_
    obtain ⟨group, hgroup, hmembers⟩ := number hrow
    exact ⟨group, hgroup, hmembers ▸ Table.evalItems_of_project (projected row hrow)⟩
  · have numbers := (perm.map Prod.snd).nodup_iff.2
      (List.pairwise_map.2 (((Table.pairwise_zipIdx _).filter _).imp Nat.ne_of_lt))
    rwa [List.map_map] at numbers ⊢
  · refine List.pairwise_map.2 ((sorted consistent).imp_of_mem fun {a b} ha hb h => ?_)
    rw [keys ha, keys hb, Table.compareKeys_eq_compareDisplayed sorts] at h
    obtain ⟨_, hgroup, -⟩ := number hb
    exact h.imp_right (And.imp_right fun before =>
      numbered.ordered _ _ before (List.getElem?_eq_some_iff.1 hgroup).1)
  · rw [hrows, List.map_map]
    rfl

theorem exists_block_of_run (accepted : g.query r = .ok (q, pivot))
    (answered : g.source.run { q with window := none } = .ok all) :
    ∃ block, g.rows r = .ok block ∧ block.rows =
      ResultSet.rowObjects ⟨all.columns, r.slice all.rows⟩
        (!g.settings.grid.suppressDotNotation) := by
  have window : q.window = r.window? := by
    obtain ⟨p, -, -, rfl⟩ := query_ok accepted
    rfl
  have run : g.source.run q = .ok ⟨all.columns, r.slice all.rows⟩ := by
    rw [Table.run_eq_cut, answered, window, ← Request.cut_window?]
    rfl
  exact ⟨_, bind_ok_iff.2 ⟨_, accepted, bind_ok_iff.2 ⟨_, mapError_ok_iff.2 run, rfl⟩⟩, rfl⟩

/--
Group rows are sorted by what they display: the rows of a window are cut out of those of its
level, which ascend by the cells of the sorted group columns and behind them of the sorted values,
in the order of the request. Rows that tie stand in the order in which their groups appear. Every
sort item on a displayed column counts, except on the child count and on a column with the name
of the one that the grid makes.
-/
theorem showsSorted_of_query (grouping : r.isGrouping = true)
    (accepted : g.query r = .ok (q, pivot)) (names : (g.source.outputColumns q.select).Nodup)
    (answered : g.source.run { q with window := none } = .ok all)
    (wellOrdered : ∀ s ∈ r.displayedSorts pivot, Value.WellOrdered (all.column s.colId)) :
    (∀ s ∈ r.sortModel, s.colId ∈ q.select.map (·.outputName) →
      isAutoGroupColumn s.colId = false → g.childCountName? r ≠ some s.colId →
        s ∈ r.displayedSorts pivot) ∧
    ∃ kept owners groups shown block, g.selected r = .ok kept ∧
      Table.Numbered (Table.cells r.groupFields) kept owners groups ∧
      ShowsSorted g.source q.select (r.displayedSorts pivot) owners groups shown ∧
      shown.map Prod.snd = r.slice all.rows ∧ g.rows r = .ok block ∧
      block.rows = ResultSet.rowObjects ⟨g.source.outputColumns q.select, shown.map Prod.snd⟩
        (!g.settings.grid.suppressDotNotation) := by
  obtain ⟨block, hblock, hobjects⟩ := exists_block_of_run accepted answered
  obtain ⟨p, planned, rfl, rfl⟩ := query_ok accepted
  obtain ⟨kept, owners, groups, shown, hkept, numbered, sorted, hcolumns, hrows⟩ :=
    showsSorted_of_run grouping planned names answered wellOrdered
  have rows : (r.slice shown).map Prod.snd = r.slice all.rows := by
    rw [hrows, Request.slice_map]
  rw [hcolumns, ← rows] at hobjects
  exact ⟨fun s hs displayed => mem_displayedSorts grouping planned hs displayed, kept, owners,
    groups, r.slice shown, block, hkept, numbered, sorted.sublist (Request.slice_sublist shown),
    rows, hblock, hobjects⟩

/-- Wages of a day at four places, one of them unknown. -/
def paidDays : List Row :=
  [dayWage (.text "inn") (.int 1), dayWage (.text "pub") .null, dayWage (.text "bar") (.int 2),
    dayWage (.text "spa") (.int 1)]

def bestPaid : Request where
  rowGroupCols := [{ field := "place" }]
  valueCols := [{ field := "wage", aggFunc := some "sum" }]
  sortModel := [{ colId := "wage", direction := .desc }]
  startRow := 1
  endRow := 4

set_option maxRecDepth 20000 in
theorem displayedSorts_bestPaid (pivot : PivotContext) :
    bestPaid.displayedSorts pivot = [{ colId := "wage", direction := .desc }] := by
  have own : isAutoGroupColumn "wage" = false := by cbv
  simp [Request.displayedSorts, Request.sortsOn, Request.valueNames, bestPaid, own,
    Request.groupFields, Request.activeGroupCols, Request.isPivoting]

set_option maxRecDepth 20000 in
theorem level_bestPaid :
    ((wages paidDays).query bestPaid).toOption.map (fun answer =>
        ((wages paidDays).source.outputColumns answer.1.select,
          ((wages paidDays).source.run { answer.1 with window := none }).toOption.map fun all =>
            (decide (Value.WellOrdered (all.column "wage")),
              (bestPaid.slice all.rows).map (·.map Value.display)))) =
      some (["place", "wage"], some (true, [["inn", "1"], ["spa", "1"], ["pub", "NULL"]])) := by
  cbv

/-- Two places with one wage stand as they do in the table, before the place without wage. -/
theorem showsSorted_of_query_bestPaid :
    ∃ q pivot all, (wages paidDays).query bestPaid = .ok (q, pivot) ∧
      ((wages paidDays).source.outputColumns q.select).Nodup ∧
      (wages paidDays).source.run { q with window := none } = .ok all ∧
      (∀ s ∈ bestPaid.displayedSorts pivot, Value.WellOrdered (all.column s.colId)) ∧
      ∃ kept owners groups shown block, (wages paidDays).selected bestPaid = .ok kept ∧
        Table.Numbered (Table.cells ["place"]) kept owners groups ∧
        ShowsSorted (wages paidDays).source q.select (bestPaid.displayedSorts pivot) owners groups
          shown ∧
        (wages paidDays).rows bestPaid = .ok block ∧
        shown.map (·.2.map Value.display) = [["inn", "1"], ["spa", "1"], ["pub", "NULL"]] := by
  obtain ⟨⟨q, pivot⟩, accepted, h⟩ := exists_of_toOption_map level_bestPaid
  obtain ⟨columns, h⟩ := Prod.mk.inj h
  obtain ⟨all, answered, h⟩ := exists_of_toOption_map h
  obtain ⟨ordered, cells⟩ := Prod.mk.inj h
  have names : ((wages paidDays).source.outputColumns q.select).Nodup := by
    rw [columns]
    decide
  have wellOrdered : ∀ s ∈ bestPaid.displayedSorts pivot,
      Value.WellOrdered (all.column s.colId) := by
    rw [displayedSorts_bestPaid, List.forall_mem_singleton]
    exact of_decide_eq_true ordered
  obtain ⟨-, kept, owners, groups, shown, block, hkept, numbered, sorted, rows, hblock, -⟩ :=
    showsSorted_of_query rfl accepted names answered wellOrdered
  refine ⟨q, pivot, all, accepted, names, answered, wellOrdered, kept, owners, groups, shown, block,
    hkept, numbered, sorted, hblock, ?_⟩
  rw [← cells, ← rows, List.map_map]
  rfl

/-! ## Sort items that do not order the rows -/

/-- A level of groups with one sort item, on a column whose displayed cells can be compared. -/
structure SortsOneColumn (g : Grid) (r : Request) (s : SortItem) (q : Query)
    (pivot : PivotContext) (all : ResultSet) : Prop where
  grouping : r.isGrouping = true
  single : r.sortModel = [s]
  accepted : g.query r = .ok (q, pivot)
  names : (g.source.outputColumns q.select).Nodup
  answered : g.source.run { q with window := none } = .ok all
  comparable : ∀ v ∈ all.column s.colId, ∀ w ∈ all.column s.colId, (v.order? w).isSome = true

/-- Whether the cells that are displayed under the name of a sort item ascend by it. -/
def Ascends (s : SortItem) (all : ResultSet) : Prop :=
  (all.column s.colId).Pairwise fun v w => s.compare v w ≠ .gt

instance (s : SortItem) (all : ResultSet) : Decidable (Ascends s all) :=
  inferInstanceAs (Decidable (List.Pairwise _ _))

theorem exists_not_ascends {s : SortItem} (grouping : r.isGrouping = true)
    (single : r.sortModel = [s])
    (h : (g.query r).toOption.map (fun answer =>
        (decide (g.source.outputColumns answer.1.select).Nodup,
          (g.source.run { answer.1 with window := none }).toOption.map fun all =>
            (decide (∀ v ∈ all.column s.colId, ∀ w ∈ all.column s.colId,
              (v.order? w).isSome = true), decide (Ascends s all)))) =
      some (true, some (true, false))) :
    ∃ q pivot all, SortsOneColumn g r s q pivot all ∧ ¬ Ascends s all := by
  obtain ⟨⟨q, pivot⟩, accepted, h⟩ := exists_of_toOption_map h
  obtain ⟨names, h⟩ := Prod.mk.inj h
  obtain ⟨all, answered, h⟩ := exists_of_toOption_map h
  obtain ⟨comparable, unsorted⟩ := Prod.mk.inj h
  exact ⟨q, pivot, all, ⟨grouping, single, accepted, of_decide_eq_true names, answered,
    of_decide_eq_true comparable⟩, of_decide_eq_false unsorted⟩

/-- Sort items on the column that the grid makes are as good as none. -/
theorem query_of_autoGroupColumns (own : ∀ s ∈ r.sortModel, isAutoGroupColumn s.colId = true) :
    g.query r = g.query { r with sortModel := [] } := by
  have noUse : g.sortUses r = [] := by
    refine List.flatMap_eq_nil_iff.2 fun entry hentry => ?_
    have auto := own entry.1 (List.fst_mem_of_mem_zipIdx hentry)
    simp only [sortUse, auto, Bool.true_or, if_true]
  have noKey : (r.sortModel.filter fun s => !isAutoGroupColumn s.colId) = [] := by
    simpa using own
  have valid : g.validate r = g.validate { r with sortModel := [] } := by
    simp only [validate, violations, noUse]
    rfl
  have orderBy (select : List SelectItem) (pivot : PivotContext) :
      planOrderBy r select pivot = planOrderBy { r with sortModel := [] } select pivot := by
    simp only [planOrderBy, noKey]
    rfl
  have filters : g.levelFilters r = g.levelFilters { r with sortModel := [] } := by
    unfold levelFilters
    rw [valid]
    rfl
  have plans : g.plan r = g.plan { r with sortModel := [] } := by
    unfold plan
    rw [filters]
    rfl
  unfold query assemble
  rw [plans]
  simp only [orderBy]
  rfl

/-- Four rows stay as they are where none of the comparisons that sorting makes moves one. -/
theorem mergeSort_four {α : Type} {le : α → α → Bool} {a b c d : α} (ab : le a b = true)
    (cd : le c d = true) (ac : le a c = true) (bc : le b c = true) :
    [a, b, c, d].mergeSort le = [a, b, c, d] := by
  simp [List.mergeSort, List.MergeSort.Internal.splitInTwo, ab, cd, ac, bc]

/-- Items in a column with the name of the one that the grid makes, in another case. -/
def autoItems : Grid where
  source := ⟨"items", [⟨"AG-GRID-AUTOCOLUMN", .text⟩],
    [[("AG-GRID-AUTOCOLUMN", .text "b")], [("AG-GRID-AUTOCOLUMN", .text "a")]]⟩
  table := { table := "items" }
  isValid := Settings.fault?_default

def scores (first last : Float) : Grid where
  source := ⟨"scores", [⟨"name", .text⟩, ⟨"score", .other⟩],
    [[("name", .text "a"), ("score", .float first)], [("name", .text "b"), ("score", .int 1)],
      [("name", .text "c"), ("score", .int 1)], [("name", .text "d"), ("score", .float last)]]⟩
  table := { table := "scores" }
  isValid := Settings.fault?_default

def highScores : Request where
  rowGroupCols := [{ field := "name" }]
  valueCols := [{ field := "score", aggFunc := some "max" }]
  sortModel := [{ colId := "score", direction := .asc }]

def highScoresQuery : Query where
  select := [⟨.col "name", none⟩, ⟨.fn "MAX" [.col "score"], some "score"⟩]
  distinct := false
  source := some { table := "scores" }
  filter := none
  groupBy := [.col "name"]
  having := none
  orderBy := [.directed .asc (.fn "MAX" [.col "score"])]
  window := none

section

variable {x y : Float}

set_option maxRecDepth 20000 in
theorem query_highScores : (scores x y).query highScores = .ok (highScoresQuery, {}) := by
  cbv

def highScoreRows (x y : Float) : List Table.Projected :=
  [⟨[.text "a", .float x], [.float x]⟩, ⟨[.text "b", .int 1], [.int 1]⟩,
    ⟨[.text "c", .int 1], [.int 1]⟩, ⟨[.text "d", .float y], [.float y]⟩]

set_option maxRecDepth 20000 in
theorem projections_highScores :
    (scores x y).source.projections highScoresQuery none (scores x y).source.rows =
      .ok (highScoreRows x y) := by
  cbv

set_option maxRecDepth 20000 in
theorem sortRows_highScores (first : (Value.float x).order? (.int 1) = some .eq)
    (last : (Value.int 1).order? (.float y) = some .eq) :
    Table.sortRows highScoresQuery.orderBy (highScoreRows x y) = highScoreRows x y := by
  have whole : (Value.int 1).order? (.int 1) = some .eq := by cbv
  have stays {v w : Value} (tie : v.order? w = some .eq) (hv : v.isNull = false)
      (hw : w.isNull = false) :
      (Table.compareKeys highScoresQuery.orderBy [v] [w] != .gt) = true := by
    simp [highScoresQuery, Table.compareKeys, Table.compareKey, tie, hv, hw]
  rw [Table.sortRows, if_neg (by simp [highScoresQuery])]
  exact mergeSort_four (stays first rfl rfl) (stays last rfl rfl) (stays first rfl rfl)
    (stays whole rfl rfl)

theorem run_highScores (first : (Value.float x).order? (.int 1) = some .eq)
    (last : (Value.int 1).order? (.float y) = some .eq) :
    (scores x y).source.run highScoresQuery =
      .ok ⟨["name", "score"], (highScoreRows x y).map (·.values)⟩ := by
  have known : (scores x y).source.checkSource highScoresQuery.source = .ok () := by cbv
  refine Table.runWithin_ok_iff.2 ⟨known, (scores x y).source.rows, none, by cbv, rfl, ?_⟩
  have sorted : Table.arranged highScoresQuery (highScoreRows x y) =
      (highScoreRows x y).map (·.values) :=
    congrArg (List.map Table.Projected.values) (sortRows_highScores first last)
  rw [Option.map_none, Table.output_eq_projections, projections_highScores, Except.map, sorted]
  rfl

end

/--
A sort item on a group column does not order the rows if the column has the name of the one that
the grid makes, nor does one on the child count. Where doubles stand beside whole numbers, the
cells can all be compared but do not have to ascend.
-/
theorem not_ascends_of_comparable :
    (¬ ∀ g r s q pivot all, SortsOneColumn g r s q pivot all → s.colId ∈ r.groupFields →
      Ascends s all) ∧
    (¬ ∀ g r s q pivot all, SortsOneColumn g r s q pivot all →
      g.childCountName? r = some s.colId → Ascends s all) ∧
    ¬ ∀ g r s q pivot all, SortsOneColumn g r s q pivot all → s.colId ∈ r.valueNames pivot →
      isAutoGroupColumn s.colId = false → Ascends s all := by
  refine ⟨fun ascend => ?_, fun ascend => ?_, fun ascend => ?_⟩
  · let auto : SortItem := ⟨"AG-GRID-AUTOCOLUMN", .asc⟩
    have own : ∀ s ∈ (groupedBy "AG-GRID-AUTOCOLUMN" [auto]).sortModel,
        isAutoGroupColumn s.colId = true := by
      rw [groupedBy, List.forall_mem_singleton]
      cbv
    obtain ⟨q, pivot, all, sorts, unsorted⟩ :
        ∃ q pivot all, SortsOneColumn autoItems (groupedBy "AG-GRID-AUTOCOLUMN" [auto]) auto q
          pivot all ∧ ¬ Ascends auto all :=
      exists_not_ascends rfl rfl (by rw [query_of_autoGroupColumns own]; decide +kernel)
    exact unsorted (ascend _ _ _ _ _ _ sorts (by simp [auto, groupedBy, Request.groupFields,
      Request.activeGroupCols]))
  · let counted : SortItem := ⟨"childCount", .asc⟩
    obtain ⟨q, pivot, all, sorts, unsorted⟩ :
        ∃ q pivot all, SortsOneColumn salesByYear (groupedBy "year" [counted]) counted q pivot
          all ∧ ¬ Ascends counted all :=
      exists_not_ascends rfl rfl (by decide +kernel)
    exact unsorted (ascend _ _ _ _ _ _ sorts rfl)
  · -- The first double is the next above one, and as a decimal number it is one.
    let x := Float.ofBits 0x3FF0000000000001
    let y := Float.ofBits 0x3FF0000000000000
    have sorts : SortsOneColumn (scores x y) highScores ⟨"score", .asc⟩ highScoresQuery {}
        ⟨["name", "score"], (highScoreRows x y).map (·.values)⟩ :=
      { grouping := rfl
        single := rfl
        accepted := query_highScores
        names := by decide +kernel
        answered := run_highScores (by decide +kernel) (by decide +kernel)
        comparable := by decide +kernel }
    have unsorted : ¬ Ascends ⟨"score", .asc⟩
        ⟨["name", "score"], (highScoreRows x y).map (·.values)⟩ := by decide +kernel
    exact unsorted (ascend _ _ _ _ _ _ sorts (by decide +kernel) (by decide +kernel))

end Grid

end GridSql
