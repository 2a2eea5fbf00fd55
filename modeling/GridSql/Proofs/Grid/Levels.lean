import GridSql.Grid.Answer
import GridSql.Proofs.Grid.RowObject
import GridSql.Proofs.Grid.Selection
import GridSql.Proofs.Table.Grouped
import GridSql.Proofs.Table.SelectList

/-!
# Answers of a level

Without a window a level of groups shows every group of the selected rows once, and the
leaf level shows every selected row. A group row holds the cells of its group columns
and the number of its rows, each under its own name.
-/

namespace GridSql

/-! ## Cells of row objects -/

theorem RowObject.lookup_ofCells (before : List (String × Value)) {names : List String}
    (nodup : names.Nodup) {values : List Value} {cell : String × Value}
    (hcell : cell ∈ names.zip values) :
    Json.lookup cell.1 (ofCells false (before ++ names.zip values)) = some cell.2.toJson :=
  at?_ofCells_zip before (nodup.imp fun h => (apart_flat_iff _ _).2 h) hcell

def countJson (n : Nat) : Json :=
  (Value.int (Int64.ofNat n)).toJson

def groupObject (fields : List String) (name : String) (others : List String)
    (rows : List Row) (values : List Value) : RowObject :=
  .ofCells false ((fields ++ name :: others).zip
    (fields.map (Scope.group rows).cell ++ .int (Int64.ofNat rows.length) :: values))

section

variable {fields others : List String} {name : String} {rows : List Row} {values : List Value}

theorem lookup_groupObject_count (nodup : (name :: others).Nodup) :
    Json.lookup name (groupObject fields name others rows values) =
      some (countJson rows.length) := by
  have hcell : (name, Value.int (Int64.ofNat rows.length)) ∈ (name :: others).zip
      (.int (Int64.ofNat rows.length) :: values) :=
    List.mem_cons_self
  unfold groupObject
  rw [List.zip_append (by simp)]
  exact RowObject.lookup_ofCells _ nodup hcell

theorem lookup_groupObject_key (nodup : (fields ++ name :: others).Nodup) {field : String}
    (hfield : field ∈ fields) :
    Json.lookup field (groupObject fields name others rows values) =
      some ((Scope.group rows).cell field).toJson := by
  have hcell : (field, (Scope.group rows).cell field) ∈ (fields ++ name :: others).zip
      (fields.map (Scope.group rows).cell ++ .int (Int64.ofNat rows.length) :: values) := by
    obtain ⟨i, hi⟩ := List.mem_iff_getElem?.1 hfield
    rw [List.zip_append (by simp), List.zip_map_right]
    refine List.mem_append_left _ (List.mem_map.2 ⟨(field, field), ?_, rfl⟩)
    exact List.mem_iff_getElem?.2 ⟨i, List.getElem?_zip_eq_some.2 ⟨hi, hi⟩⟩
  exact RowObject.lookup_ofCells [] nodup hcell

end

/-- Whether a request asks for its level without a window. -/
def Request.IsWhole (r : Request) : Prop :=
  r.startRow = 0 ∧ r.endRow = 0

instance (r : Request) : Decidable r.IsWhole :=
  inferInstanceAs (Decidable (_ ∧ _))

def Request.groupFields (r : Request) : List String :=
  r.activeGroupCols.map (·.field)

theorem Request.groupFields_ne_nil {r : Request} (grouping : r.isGrouping = true) :
    r.groupFields ≠ [] := by
  have more : r.groupKeys.length < r.rowGroupCols.length := by
    simpa [Request.isGrouping] using grouping
  intro h
  have length : r.groupFields.length = 0 := by simp [h]
  simp only [groupFields, activeGroupCols, List.length_map, List.length_take] at length
  omega

namespace Grid

variable {g : Grid} {r : Request}

/-! ## Queries of a level -/

theorem filtered_eq (es : List Expr) :
    g.filtered es = { Query.empty.withSource g.table with filter := Table.whereClause es } := by
  rw [filtered, Query.foldl_where, ← Query.foldl_andInto]
  rfl

def levelQuery (g : Grid) (r : Request) (p : RequestPlan) : Query where
  select := p.select
  distinct := false
  source := some g.table
  filter := Table.whereClause p.rows
  groupBy := p.groupBy
  having := none
  orderBy := planOrderBy r p.select p.pivot
  window := none

theorem assemble_whole (whole : r.IsWhole) {p : RequestPlan} (plain : p.having = []) :
    g.assemble r p = g.levelQuery r p := by
  obtain ⟨hstart, hend⟩ := whole
  have size : r.pageSize = 0 := by simp [Request.pageSize, hstart, hend]
  unfold assemble
  rw [filtered_eq, plain]
  simp only [size, hstart, if_true]
  rfl

/-- An answer shows the result of the query that the plan of the request makes. -/
theorem answers_iff {objects : List RowObject} :
    (∃ block, g.rows r = .ok block ∧ block.rows = objects) ↔
      ∃ p result, g.plan r = .ok p ∧ g.source.run (g.assemble r p) = .ok result ∧
        objects = result.rowObjects (!g.settings.grid.suppressDotNotation) := by
  constructor
  · rintro ⟨block, h, rfl⟩
    obtain ⟨⟨q, pivot⟩, hquery, h⟩ := bind_ok_iff.1 h
    obtain ⟨result, hrun, h⟩ := bind_ok_iff.1 h
    cases h
    obtain ⟨p, hp, hquery⟩ := bind_ok_iff.1 hquery
    cases hquery
    exact ⟨p, result, hp, mapError_ok_iff.1 hrun, rfl⟩
  · rintro ⟨p, result, hp, hrun, rfl⟩
    have hquery : g.query r = .ok (g.assemble r p, p.pivot) := bind_ok_iff.2 ⟨p, hp, rfl⟩
    exact ⟨_, bind_ok_iff.2 ⟨_, hquery, bind_ok_iff.2 ⟨_, mapError_ok_iff.2 hrun, rfl⟩⟩, rfl⟩

theorem rows_ok_iff (notPivoting : r.isPivoting = false) (whole : r.IsWhole)
    {objects : List RowObject} :
    (∃ block, g.rows r = .ok block ∧ block.rows = objects) ↔
      g.source.checkSource (some g.table) = .ok () ∧ ∃ p kept result,
        g.plan r = .ok p ∧ g.selected r = .ok kept ∧
        g.source.output (g.levelQuery r p) none kept = .ok result ∧
        objects = result.rowObjects (!g.settings.grid.suppressDotNotation) := by
  rw [answers_iff]
  constructor
  · rintro ⟨p, result, hp, hrun, rfl⟩
    rw [assemble_whole whole (having_of_not notPivoting hp), Table.run_eq rfl] at hrun
    obtain ⟨⟨⟩, hsource, hrun⟩ := bind_ok_iff.1 hrun
    obtain ⟨kept, hkept, houtput⟩ := bind_ok_iff.1 hrun
    exact ⟨hsource, p, kept, result, hp, selected_ok_iff.2 ⟨p, hp, hkept⟩, houtput, rfl⟩
  · rintro ⟨hsource, p, kept, result, hp, hselected, houtput, rfl⟩
    refine ⟨p, result, hp, ?_, rfl⟩
    rw [assemble_whole whole (having_of_not notPivoting hp), Table.run_eq rfl]
    exact bind_ok_iff.2 ⟨(), hsource, bind_ok_iff.2
      ⟨kept, (selected_iff_matched hp).1 hselected, houtput⟩⟩

/-! ## Levels of groups -/

def groups (g : Grid) (r : Request) : Except QueryError (List (List Row)) := do
  let p ← g.plan r
  let kept ← g.selected r
  (g.source.groupRows p.groupBy kept).mapError .source

/-- A direct request for a whole level whose groups are counted. -/
structure CountedLevel (g : Grid) (r : Request) : Prop extends Direct g r where
  counted : g.settings.grid.countChildren = true
  flat : g.settings.grid.suppressDotNotation = true
  whole : r.IsWhole

theorem CountedLevel.expand (level : g.CountedLevel r) (key : Json) :
    g.CountedLevel (r.expand key) :=
  ⟨level.toDirect.expand key, level.counted, level.flat, level.whole⟩

theorem level_of_plan (level : g.CountedLevel r) (grouping : r.isGrouping = true)
    {p : RequestPlan} (h : g.plan r = .ok p) :
    ∃ values, GroupingPlan.valueItems g.aggregates r.valueCols = .ok values ∧
      p.select = Table.levelItems r.groupFields g.settings.grid.childCountName values ∧
      p.groupBy = r.groupFields.map .col := by
  obtain ⟨-, -, hlevel, -⟩ := plan_direct level.toDirect h
  obtain ⟨values, hvalues, hselect, hgroupBy⟩ :=
    valueItems_of_plan grouping level.notPivoting hlevel
  have named : g.childCountName? r = some g.settings.grid.childCountName := by
    simp [childCountName?, level.counted, grouping]
  rw [named] at hselect
  refine ⟨values, hvalues, ?_, hgroupBy⟩
  rw [show p.select = _ from hselect]
  simp [Table.levelItems, Request.groupFields, Function.comp_def]

theorem isGrouped_groups (grouping : r.isGrouping = true) {p : RequestPlan}
    (h : p.groupBy = r.groupFields.map .col) :
    Table.isGrouped (g.levelQuery r p) = true := by
  have nonempty := Request.groupFields_ne_nil grouping
  simp [Table.isGrouped, levelQuery, h, nonempty]

theorem fieldType_of_mem_groupFields (direct : g.Direct r) {field : String}
    (h : field ∈ r.groupFields) :
    g.source.fieldType field ≠ .other := by
  obtain ⟨c, hc, rfl⟩ := List.mem_map.1 h
  exact direct.known c (List.mem_of_mem_take hc)

theorem groupFields_known (direct : g.Direct r) {field : String} (h : field ∈ r.groupFields) :
    (g.source.typeOf? field).isSome = true := by
  rw [Table.typeOf?_of_fieldType (fieldType_of_mem_groupFields direct h)]
  rfl

theorem hasContents_groupFields (direct : g.Direct r) {row : Row} (hrow : row ∈ g.source.rows) :
    Table.HasContents (Table.cells r.groupFields row) := by
  intro v hv
  obtain ⟨field, hfield, rfl⟩ := List.mem_map.1 hv
  have hknown := fieldType_of_mem_groupFields direct hfield
  have htype := direct.typed.hasType hrow hknown
  exact htype.exists_content hknown

theorem groups_of_selected (level : g.CountedLevel r) (grouping : r.isGrouping = true)
    {kept : List Row} (h : g.selected r = .ok kept) :
    ∃ groups, Table.Grouped (Table.cells r.groupFields) kept groups ∧
      g.groups r = .ok (groups.map (·.rows)) := by
  obtain ⟨p, hp, -⟩ := selected_ok_iff.1 h
  obtain ⟨-, -, -, hgroupBy⟩ := level_of_plan level grouping hp
  obtain ⟨groups, grouped, hgroups⟩ := Table.groupRows_cols (t := g.source)
    (Request.groupFields_ne_nil grouping) (fun f hf => groupFields_known level.toDirect hf)
    (fun row hrow => hasContents_groupFields level.toDirect
      (content_of_selected level.toDirect h hrow).1)
  rw [← hgroupBy] at hgroups
  exact ⟨groups, grouped, bind_ok_iff.2 ⟨p, hp, bind_ok_iff.2 ⟨kept, h,
    mapError_ok_iff.2 hgroups⟩⟩⟩

theorem groupObjects_of_rows (level : g.CountedLevel r) (grouping : r.isGrouping = true)
    {block : RowBlock} (h : g.rows r = .ok block) :
    ∃ kept groups values sorted, g.selected r = .ok kept ∧
      Table.Grouped (Table.cells r.groupFields) kept groups ∧
      g.groups r = .ok (groups.map (·.rows)) ∧
      GroupingPlan.valueItems g.aggregates r.valueCols = .ok values ∧
      sorted.Perm (groups.map (·.rows)) ∧
      List.Forall₂ (fun rows object => ∃ vs, object = groupObject r.groupFields
        g.settings.grid.childCountName (g.source.outputColumns values) rows vs)
        sorted block.rows := by
  obtain ⟨-, p, kept, result, hp, hselected, houtput, hobjects⟩ :=
    (rows_ok_iff level.notPivoting level.whole).1 ⟨block, h, rfl⟩
  obtain ⟨groups, grouped, hgroups⟩ := groups_of_selected level grouping hselected
  obtain ⟨values, hvalues, hselect, hgroupBy⟩ := level_of_plan level grouping hp
  obtain ⟨groups', hgroups', hcolumns, -, sorted, perm, projected⟩ :=
    Table.output_groups (isGrouped_groups grouping hgroupBy) ⟨rfl, rfl⟩ houtput
  have same : g.groups r = .ok groups' := by
    refine bind_ok_iff.2 ⟨p, hp, bind_ok_iff.2 ⟨kept, hselected, mapError_ok_iff.2 hgroups'⟩⟩
  rw [hgroups, Except.ok.injEq] at same
  rw [Table.filter_passesHaving_none, ← same] at perm
  refine ⟨kept, groups, values, sorted, hselected, grouped, hgroups, hvalues, perm, ?_⟩
  rw [hobjects, ResultSet.rowObjects, level.flat, hcolumns]
  refine List.forall₂_map_right_iff.2 (projected.imp fun rows cells hcells => ?_)
  obtain ⟨output, houtput, rfl⟩ := hcells
  obtain ⟨vs, hvs⟩ := Table.values_of_project
    (fun f hf => groupFields_known level.toDirect hf) hselect houtput
  refine ⟨vs, ?_⟩
  have names : g.source.outputColumns (g.levelQuery r p).select =
      r.groupFields ++ g.settings.grid.childCountName :: g.source.outputColumns values := by
    rw [← Table.outputColumns_level, ← hselect]
    rfl
  rw [names, hvs]
  rfl

def outputNames (g : Grid) (r : Request) : Except QueryError (List String) := do
  let p ← g.plan r
  .ok (g.source.outputColumns p.select)

theorem outputNames_groups (level : g.CountedLevel r) (grouping : r.isGrouping = true)
    {kept : List Row} (h : g.selected r = .ok kept) {values : List SelectItem}
    (hvalues : GroupingPlan.valueItems g.aggregates r.valueCols = .ok values) :
    g.outputNames r = .ok (r.groupFields ++
      g.settings.grid.childCountName :: g.source.outputColumns values) := by
  obtain ⟨p, hp, -⟩ := selected_ok_iff.1 h
  obtain ⟨values', hvalues', hselect, -⟩ := level_of_plan level grouping hp
  rw [hvalues, Except.ok.injEq] at hvalues'
  refine bind_ok_iff.2 ⟨p, hp, ?_⟩
  rw [hselect, Table.outputColumns_level, hvalues']

/-! ## Leaf levels -/

def leafItems (fields : List String) : List SelectItem :=
  if fields.isEmpty then [⟨.star none, none⟩] else fields.map fun field => ⟨.col field, none⟩

theorem leaf_of_plan (notPivoting : r.isPivoting = false) (leaf : r.isGrouping = false)
    {p : RequestPlan} (h : g.plan r = .ok p) :
    p.select = leafItems g.columns.fields ∧ p.groupBy = [] := by
  obtain ⟨_, level, -, hpivot, hlevel, -, hselect, hgroupBy, -⟩ := plan_ok h
  rw [pivotContext_of_not notPivoting, Except.ok.injEq] at hpivot
  rw [← hpivot] at hselect
  unfold GroupingPlan.ofRequest at hlevel
  rw [if_neg (by simp [leaf]), Except.ok.injEq] at hlevel
  rw [hselect, hgroupBy, ← hlevel]
  exact ⟨rfl, rfl⟩

theorem isGrouped_leaf (notPivoting : r.isPivoting = false) (leaf : r.isGrouping = false)
    {p : RequestPlan} (h : g.plan r = .ok p) :
    Table.isGrouped (g.levelQuery r p) = false := by
  obtain ⟨hselect, hgroupBy⟩ := leaf_of_plan notPivoting leaf h
  simp only [Table.isGrouped, levelQuery, hselect, hgroupBy, leafItems]
  split
  · rfl
  · simp [Expr.col, Expr.hasAggregate]

theorem length_rows_of_leaf (notPivoting : r.isPivoting = false) (whole : r.IsWhole)
    (leaf : r.isGrouping = false) {block : RowBlock} (h : g.rows r = .ok block) :
    ∃ kept, g.selected r = .ok kept ∧ block.rows.length = kept.length := by
  obtain ⟨-, p, kept, result, hp, hselected, houtput, hobjects⟩ :=
    (rows_ok_iff notPivoting whole).1 ⟨block, h, rfl⟩
  have plain := isGrouped_leaf notPivoting leaf hp
  refine ⟨kept, hselected, ?_⟩
  rw [hobjects, ResultSet.rowObjects, List.length_map]
  exact Table.length_output plain ⟨rfl, rfl⟩ houtput

def shownFields (g : Grid) : List String :=
  if g.columns.fields.isEmpty then g.source.columns.map (·.name) else g.columns.fields

def leafObject (g : Grid) (row : Row) : RowObject :=
  .ofCells (!g.settings.grid.suppressDotNotation) (g.shownFields.zip (g.shownFields.map row.cell))

theorem outputColumns_leafItems (g : Grid) :
    g.source.outputColumns (leafItems g.columns.fields) = g.shownFields := by
  unfold leafItems shownFields
  split
  · simp [Table.outputColumns, Expr.isStar]
  · induction g.columns.fields with
    | nil => rfl
    | cons f fields ih =>
        rw [List.map_cons, Table.outputColumns, List.flatMap_cons]
        rw [Table.outputColumns] at ih
        rw [ih]
        rfl

theorem evalItems_leafItems (known : ∀ f ∈ g.columns.fields, (g.source.typeOf? f).isSome = true)
    (s : Scope) :
    g.source.evalItems s (leafItems g.columns.fields) = .ok (g.shownFields.map s.cell) := by
  unfold leafItems shownFields
  split
  · exact Table.evalItems_cons_ok_iff.2 ⟨_, [], Table.evalItem_star _ _, rfl, by simp⟩
  · exact Table.evalItems_cols known

/-- A leaf level that is not sorted shows the selected rows as they stand in the source. -/
theorem rows_leaf_ok_iff (notPivoting : r.isPivoting = false) (whole : r.IsWhole)
    (leaf : r.isGrouping = false) (unsorted : r.sortModel = [])
    (source : g.source.checkSource (some g.table) = .ok ())
    (known : ∀ f ∈ g.columns.fields, (g.source.typeOf? f).isSome = true)
    {objects : List RowObject} :
    (∃ block, g.rows r = .ok block ∧ block.rows = objects) ↔
      ∃ kept, g.selected r = .ok kept ∧ objects = kept.map g.leafObject := by
  rw [rows_ok_iff notPivoting whole]
  have shown {p : RequestPlan} (hp : g.plan r = .ok p) (kept : List Row) :
      g.source.output (g.levelQuery r p) none kept =
        .ok ⟨g.shownFields, kept.map fun row => g.shownFields.map row.cell⟩ := by
    obtain ⟨hselect, -⟩ := leaf_of_plan notPivoting leaf hp
    have inOrder : planOrderBy r p.select p.pivot = [] := by
      simp [planOrderBy, unsorted, leaf, notPivoting]
    have cells (row : Row) : g.source.evalItems (.row row) (g.levelQuery r p).select =
        .ok (g.shownFields.map row.cell) := by
      rw [levelQuery, hselect]
      exact evalItems_leafItems known (.row row)
    rw [Table.output_rows (isGrouped_leaf notPivoting leaf hp) ⟨rfl, rfl⟩ inOrder cells,
      levelQuery, hselect, outputColumns_leafItems]
  have objects_eq (kept : List Row) :
      ResultSet.rowObjects ⟨g.shownFields, kept.map fun row => g.shownFields.map row.cell⟩
        (!g.settings.grid.suppressDotNotation) = kept.map g.leafObject := by
    simp [ResultSet.rowObjects, leafObject, Function.comp_def]
  constructor
  · rintro ⟨-, p, kept, result, hp, hkept, houtput, rfl⟩
    rw [shown hp, Except.ok.injEq] at houtput
    exact ⟨kept, hkept, by rw [← houtput, objects_eq]⟩
  · rintro ⟨kept, hkept, rfl⟩
    obtain ⟨p, hp, -⟩ := selected_ok_iff.1 hkept
    exact ⟨source, p, kept, _, hp, hkept, shown hp kept, (objects_eq kept).symm⟩

/-! ## Counted rows -/

/-- Whether the child counts of groups, or the number of leaf rows, come to a number. -/
def AddsUp (g : Grid) (r : Request) (block : RowBlock) (n : Nat) : Prop :=
  if r.isGrouping then
    ∃ counts : List Nat, counts.sum = n ∧
      block.rows.map (Json.lookup g.settings.grid.childCountName) =
        counts.map fun count => some (countJson count)
  else block.rows.length = n

theorem addsUp_of_rows (level : g.CountedLevel r)
    (named : ∀ values, GroupingPlan.valueItems g.aggregates r.valueCols = .ok values →
      (g.settings.grid.childCountName :: g.source.outputColumns values).Nodup)
    {block : RowBlock} (h : g.rows r = .ok block) {kept : List Row}
    (hselected : g.selected r = .ok kept) :
    g.AddsUp r block kept.length := by
  unfold AddsUp
  split
  · next grouping =>
      obtain ⟨kept', groups, values, sorted, hkept', grouped, -, hvalues, perm, objects⟩ :=
        groupObjects_of_rows level grouping h
      rw [hselected, Except.ok.injEq] at hkept'
      refine ⟨sorted.map List.length, ?_, ?_⟩
      · rw [(perm.map List.length).sum_nat, List.map_map, hkept']
        exact grouped.total
      · rw [List.map_map]
        refine map_eq_of_forall₂ (objects.imp fun rows object hobject => ?_)
        obtain ⟨vs, rfl⟩ := hobject
        exact lookup_groupObject_count (named values hvalues)
  · next leaf =>
      obtain ⟨kept', hkept', length⟩ :=
        length_rows_of_leaf level.notPivoting level.whole (by simpa using leaf) h
      rw [hselected, Except.ok.injEq] at hkept'
      rw [length, hkept']

/-! ## Levels that are answered -/

/--
Whether showing a level cannot fail. In groups, values are counted or the least or the
greatest is taken; at the leaf level all columns that are shown or sorted by are there.
-/
structure Answerable (g : Grid) (r : Request) : Prop where
  values : r.isGrouping = true → ∀ c ∈ r.valueCols, (g.source.typeOf? c.field).isSome = true ∧
    ∃ name ∈ Table.totalFunctions, g.aggregates.aggregate c = .ok (.fn name [.col c.field])
  shown : r.isGrouping = false → ∀ field ∈ g.columns.fields,
    (g.source.typeOf? field).isSome = true
  sorted : r.isGrouping = false → ∀ s ∈ r.sortModel, isAutoGroupColumn s.colId = false →
    (g.source.typeOf? s.colId).isSome = true

theorem eval_of_mem_levelItems {fields : List String}
    (known : ∀ f ∈ fields, (g.source.typeOf? f).isSome = true) {values : List SelectItem}
    (hvalues : GroupingPlan.valueItems g.aggregates r.valueCols = .ok values)
    (total : ∀ c ∈ r.valueCols, (g.source.typeOf? c.field).isSome = true ∧
      ∃ name ∈ Table.totalFunctions, g.aggregates.aggregate c = .ok (.fn name [.col c.field]))
    {name : String} {item : SelectItem} (hitem : item ∈ Table.levelItems fields name values)
    (rows : List Row) :
    ∃ v, g.source.eval (.group rows) item.expr = .ok v := by
  rcases List.mem_append.1 hitem with hitem | hitem
  · obtain ⟨f, hf, rfl⟩ := List.mem_map.1 hitem
    exact ⟨_, Table.eval_col (known f hf)⟩
  · rcases List.mem_cons.1 hitem with rfl | hitem
    · exact ⟨_, Table.eval_countRows rows⟩
    · obtain ⟨c, hc, hvalue⟩ := exists_of_mem_right (mapM_ok_iff.1 hvalues) hitem
      obtain ⟨present, function, hfunction, haggregate⟩ := total c hc
      obtain ⟨e, he, hvalue⟩ := bind_ok_iff.1 hvalue
      rw [haggregate, Except.ok.injEq] at he
      cases hvalue
      rw [← he]
      exact Table.eval_totalFunction hfunction present rows

theorem exists_of_selectedValue? {select : List SelectItem} {field : String} {e : Expr}
    (h : selectedValue? r select field = some e) :
    ∃ item ∈ select, item.asName = some field ∧ item.expr = e := by
  unfold selectedValue? at h
  split at h
  · obtain ⟨item, hitem, rfl⟩ := Option.map_eq_some_iff.1 h
    exact ⟨item, List.mem_of_find?_eq_some hitem, by simpa using List.find?_some hitem, rfl⟩
  · cases h

/-- A level of groups is sorted by columns that it shows or groups by. -/
theorem mem_planOrderBy_of_grouping {select : List SelectItem} {pivot : PivotContext}
    (grouping : r.isGrouping = true) (notPivoting : r.isPivoting = false) {key : OrderKey}
    (h : key ∈ planOrderBy r select pivot) :
    (∃ f ∈ r.groupFields, key.expr = .col f) ∨ ∃ item ∈ select, key.expr = item.expr := by
  unfold planOrderBy at h
  simp only [grouping, notPivoting, Bool.not_true, Bool.and_false, Bool.false_eq_true,
    if_false] at h
  rcases List.mem_append.1 h with h | h
  · obtain ⟨s, hs, rfl⟩ := List.mem_map.1 h
    obtain ⟨c, hc, hcol⟩ := List.any_eq_true.1 (List.mem_filter.1 hs).2
    refine .inl ⟨s.colId, List.mem_map.2 ⟨c, hc, by simpa using hcol⟩, rfl⟩
  · obtain ⟨s, -, hs⟩ := List.mem_filterMap.1 h
    obtain ⟨e, he, rfl⟩ := Option.map_eq_some_iff.1 hs
    obtain ⟨item, hitem, -, rfl⟩ := exists_of_selectedValue? he
    exact .inr ⟨item, hitem, rfl⟩

theorem evalItem_of_mem_leafItems {fields : List String}
    (known : ∀ f ∈ fields, (g.source.typeOf? f).isSome = true) {item : SelectItem}
    (h : item ∈ leafItems fields) {s : Scope} :
    ∃ values, g.source.evalItem s item = .ok values := by
  unfold leafItems at h
  split at h
  · cases List.mem_singleton.1 h
    exact ⟨_, Table.evalItem_star _ _⟩
  · obtain ⟨f, hf, rfl⟩ := List.mem_map.1 h
    exact ⟨_, Table.evalItem_col (known f hf)⟩

theorem mem_planOrderBy_of_leaf {select : List SelectItem} {pivot : PivotContext}
    (leaf : r.isGrouping = false) (notPivoting : r.isPivoting = false) {key : OrderKey}
    (h : key ∈ planOrderBy r select pivot) :
    ∃ s ∈ r.sortModel, isAutoGroupColumn s.colId = false ∧ key.expr = .col s.colId := by
  unfold planOrderBy at h
  simp only [leaf, notPivoting, Bool.not_false, Bool.and_true, if_true] at h
  obtain ⟨s, hs, rfl⟩ := List.mem_map.1 h
  obtain ⟨hmem, named⟩ := List.mem_filter.1 hs
  exact ⟨s, hmem, by simpa using named, rfl⟩

theorem output_groups_of_answerable (level : g.CountedLevel r) (answerable : g.Answerable r)
    (grouping : r.isGrouping = true) {p : RequestPlan} (hp : g.plan r = .ok p)
    {kept : List Row} (h : g.selected r = .ok kept) :
    ∃ result, g.source.output (g.levelQuery r p) none kept = .ok result := by
  have known : ∀ f ∈ r.groupFields, (g.source.typeOf? f).isSome = true :=
    fun f hf => groupFields_known level.toDirect hf
  obtain ⟨values, hvalues, hselect, hgroupBy⟩ := level_of_plan level grouping hp
  obtain ⟨groups, -, hgroups⟩ := groups_of_selected level grouping h
  obtain ⟨p', hp', hgroups⟩ := bind_ok_iff.1 hgroups
  obtain ⟨kept', hkept', hgroups⟩ := bind_ok_iff.1 hgroups
  rw [hp, Except.ok.injEq] at hp'
  rw [h, Except.ok.injEq] at hkept'
  subst hp' hkept'
  have shown (rows : List Row) : ∀ item ∈ p.select,
      ∃ v, g.source.eval (.group rows) item.expr = .ok v := by
    intro item hitem
    rw [hselect] at hitem
    exact eval_of_mem_levelItems known hvalues (answerable.values grouping) hitem rows
  refine Table.output_groups_isOk (isGrouped_groups grouping hgroupBy)
    (mapError_ok_iff.1 hgroups) fun rows _ => Table.project_isOk ?_ fun key hkey => ?_
  · intro item hitem
    exact Table.evalItem_isOk (shown rows item hitem)
  · rcases mem_planOrderBy_of_grouping grouping level.notPivoting hkey with
      ⟨f, hf, hexpr⟩ | ⟨item, hitem, hexpr⟩
    · rw [hexpr]
      exact ⟨_, Table.eval_col (known f hf)⟩
    · rw [hexpr]
      exact shown rows item hitem

theorem output_leaf_of_answerable (direct : g.Direct r) (answerable : g.Answerable r)
    (leaf : r.isGrouping = false) {p : RequestPlan} (hp : g.plan r = .ok p) (kept : List Row) :
    ∃ result, g.source.output (g.levelQuery r p) none kept = .ok result := by
  refine Table.output_rows_isOk (isGrouped_leaf direct.notPivoting leaf hp)
    fun row _ => Table.project_isOk ?_ fun key hkey => ?_
  · intro item hitem
    rw [levelQuery, (leaf_of_plan direct.notPivoting leaf hp).1] at hitem
    exact evalItem_of_mem_leafItems (answerable.shown leaf) hitem
  · obtain ⟨s, hs, named, hexpr⟩ := mem_planOrderBy_of_leaf leaf direct.notPivoting hkey
    rw [hexpr]
    exact ⟨_, Table.eval_col (answerable.sorted leaf s hs named)⟩

theorem rows_isOk (level : g.CountedLevel r) (answerable : g.Answerable r)
    (hsource : g.source.checkSource (some g.table) = .ok ()) {kept : List Row}
    (h : g.selected r = .ok kept) :
    ∃ block, g.rows r = .ok block := by
  obtain ⟨p, hp, -⟩ := selected_ok_iff.1 h
  have output : ∃ result, g.source.output (g.levelQuery r p) none kept = .ok result := by
    cases grouping : r.isGrouping with
    | true => exact output_groups_of_answerable level answerable grouping hp h
    | false => exact output_leaf_of_answerable level.toDirect answerable grouping hp kept
  obtain ⟨result, houtput⟩ := output
  obtain ⟨block, hblock, -⟩ := (rows_ok_iff level.notPivoting level.whole).2
    ⟨hsource, p, kept, result, hp, h, houtput, rfl⟩
  exact ⟨block, hblock⟩

end Grid

end GridSql
