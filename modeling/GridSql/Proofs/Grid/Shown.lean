import GridSql.Proofs.Grid.Levels
import GridSql.Proofs.Table.Subquery

/-!
# What a level shows

A request without a window shows the selected rows of a leaf level, and of a level of
groups those groups that pass the conditions of its generated columns. A group is made of
all selected rows that agree on the group columns.
-/

namespace GridSql

namespace Table

variable {t : Table} {fields : List String} {rows : List Row}

/-! ## Groups by columns of the table -/

theorem grouped_of_groupRows (nonempty : fields ≠ [])
    (exact : ∀ row ∈ rows, HasContents (cells fields row)) {groups : List (List Row)}
    (h : t.groupRows (fields.map .col) rows = .ok groups) :
    ∃ gs, Grouped (cells fields) rows gs ∧ groups = gs.map (·.rows) := by
  by_cases some_ : rows = []
  · subst some_
    have notEmpty : (fields.map Expr.col).isEmpty = false := by simpa using nonempty
    rw [groupRows, notEmpty] at h
    cases h
    exact ⟨[], grouped_nil _, rfl⟩
  · obtain ⟨gs, grouped, hgroups⟩ :=
      groupRows_cols nonempty (known_of_groupRows nonempty h some_) exact
    exact ⟨gs, grouped, Except.ok.inj (h.symm.trans hgroups)⟩

theorem Grouped.mem_rows_iff {gs : List Group} (h : Grouped (cells fields) rows gs)
    (exact : ∀ row ∈ rows, HasContents (cells fields row)) {members : List Row} :
    members ∈ gs.map (·.rows) ↔ ∃ x ∈ rows, members = rows.filter (Row.agrees fields x) := by
  have own {g : Group} (hg : g ∈ gs) {x : Row} (hx : x ∈ rows)
      (hkey : contents (cells fields x) = contents g.key) :
      g.rows = rows.filter (Row.agrees fields x) := by
    rw [h.complete g hg]
    refine List.filter_congr fun row hrow => ?_
    rw [Bool.eq_iff_iff, agrees_iff (exact x hx) (exact row hrow), hkey]
    simp
  constructor
  · intro hmembers
    obtain ⟨g, hg, rfl⟩ := List.mem_map.1 hmembers
    obtain ⟨x, _, -, hx, hkey⟩ := h.first g hg
    exact ⟨x, hx, own hg hx (by rw [hkey])⟩
  · rintro ⟨x, hx, rfl⟩
    obtain ⟨g, hg, hkey⟩ := List.mem_map.1 (h.covers x hx)
    exact List.mem_map.2 ⟨g, hg, own hg hx hkey.symm⟩

theorem mem_groupRows_iff (nonempty : fields ≠ [])
    (exact : ∀ row ∈ rows, HasContents (cells fields row)) {groups : List (List Row)}
    (h : t.groupRows (fields.map .col) rows = .ok groups) {members : List Row} :
    members ∈ groups ↔ ∃ x ∈ rows, members = rows.filter (Row.agrees fields x) := by
  obtain ⟨gs, grouped, rfl⟩ := grouped_of_groupRows nonempty exact h
  exact grouped.mem_rows_iff exact

end Table

/-- The window of a request's query; a window of no size only has a start. -/
def Request.window? (r : Request) : Option Window :=
  if r.pageSize = 0 ∧ r.startRow = 0 then none
  else some
    { limit := if r.pageSize = 0 then none else some r.pageSize
      offset := if r.startRow = 0 then none else some r.startRow }

namespace Grid

variable {g : Grid} {r : Request} {p : RequestPlan}

/-! ## Whole levels -/

def wholeQuery (g : Grid) (r : Request) (p : RequestPlan) : Query :=
  { g.levelQuery r p with having := Table.whereClause p.having }

theorem assemble_eq_window (g : Grid) (r : Request) (p : RequestPlan) :
    g.assemble r p = { g.wholeQuery r p with window := r.window? } := by
  have clauses : (p.having.foldl Query.andHaving
      (((g.filtered p.rows).withSelect p.select).withGroupBy p.groupBy)).withOrderBy
        (planOrderBy r p.select p.pivot) = g.wholeQuery r p := by
    rw [filtered_eq, Query.foldl_andHaving, wholeQuery, ← Query.foldl_andInto p.having]
    rfl
  unfold assemble Request.window?
  dsimp only
  rw [clauses]
  by_cases size : r.pageSize = 0 <;> by_cases start : r.startRow = 0 <;>
    simp only [size, start, if_true, if_false, and_true, and_false] <;> rfl

theorem assemble_eq_wholeQuery (whole : r.IsWhole) :
    g.assemble r p = g.wholeQuery r p := by
  obtain ⟨hstart, hend⟩ := whole
  have noWindow : r.window? = none := by simp [Request.window?, Request.pageSize, hstart, hend]
  rw [assemble_eq_window, noWindow]
  rfl

theorem output_of_rows (whole : r.IsWhole) {block : RowBlock} (h : g.rows r = .ok block) :
    ∃ p kept having_ result, g.plan r = .ok p ∧ g.selected r = .ok kept ∧
      g.source.checkSource (some g.table) = .ok () ∧
      g.source.resolveOption none (Table.whereClause p.having) = .ok having_ ∧
      g.source.output (g.wholeQuery r p) (having_.map (·.expr)) kept = .ok result ∧
      block.rows = result.rowObjects (!g.settings.grid.suppressDotNotation) := by
  obtain ⟨p, result, hp, hrun, shown⟩ := answers_iff.1 ⟨block, h, rfl⟩
  rw [assemble_eq_wholeQuery whole] at hrun
  obtain ⟨hsource, kept, having_, hkept, hhaving, houtput⟩ := Table.runWithin_ok_iff.1 hrun
  exact ⟨p, kept, having_, result, hp, selected_ok_iff.2 ⟨p, hp, hkept⟩, hsource, hhaving,
    houtput, shown⟩

/-! ## Levels of groups -/

theorem groupBy_of_grouping (grouping : r.isGrouping = true) (accepted : g.plan r = .ok p) :
    p.groupBy = r.groupFields.map .col := by
  obtain ⟨_, level, -, -, hlevel, -, -, hgroupBy, -⟩ := plan_ok accepted
  rw [GroupingPlan.ofRequest, if_pos grouping] at hlevel
  have keys : level.groupBy = r.activeGroupCols.map fun c => .col c.field := by
    dsimp only at hlevel
    split at hlevel
    · cases hlevel
      rfl
    · obtain ⟨values, -, hlevel⟩ := bind_ok_iff.1 hlevel
      cases hlevel
      rfl
  rw [hgroupBy, keys]
  simp [Request.groupFields, Function.comp_def]

/-- Whether an object shows a group of a level: its cells, their aggregates and the count. -/
def IsGroupRow (g : Grid) (r : Request) (p : RequestPlan) (members : List Row)
    (object : RowObject) : Prop :=
  ∃ projected, g.source.project (g.levelQuery r p) (.group members) = .ok projected ∧
    object = .ofCells (!g.settings.grid.suppressDotNotation)
      ((g.source.outputColumns p.select).zip projected.values)

theorem groups_of_rows (whole : r.IsWhole) (grouping : r.isGrouping = true) {block : RowBlock}
    (h : g.rows r = .ok block) :
    ∃ p kept having_ groups sorted, g.plan r = .ok p ∧ g.selected r = .ok kept ∧
      g.source.resolveOption none (Table.whereClause p.having) = .ok having_ ∧
      g.source.groupRows (r.groupFields.map .col) kept = .ok groups ∧
      (∀ rows ∈ groups, ∀ e ∈ having_.map (·.expr),
        ∃ b, g.source.test (.group rows) e = .ok b) ∧
      sorted.Perm (groups.filter (g.source.passesHaving (having_.map (·.expr)))) ∧
      List.Forall₂ (g.IsGroupRow r p) sorted block.rows := by
  obtain ⟨p, kept, having_, result, hp, hkept, -, hhaving, houtput, hobjects⟩ :=
    output_of_rows whole h
  have hgroupBy := groupBy_of_grouping grouping hp
  have nonempty := Request.groupFields_ne_nil grouping
  have grouped : Table.isGrouped (g.wholeQuery r p) = true := by
    simp [Table.isGrouped, wholeQuery, levelQuery, hgroupBy, nonempty]
  obtain ⟨groups, hgroups, hcolumns, tested, sorted, perm, shown⟩ :=
    Table.output_groups grouped ⟨rfl, rfl⟩ houtput
  rw [show (g.wholeQuery r p).groupBy = _ from hgroupBy] at hgroups
  refine ⟨p, kept, having_, groups, sorted, hp, hkept, hhaving, hgroups, tested, perm, ?_⟩
  rw [hobjects, ResultSet.rowObjects, hcolumns]
  refine List.forall₂_map_right_iff.2 (shown.imp fun members values hvalues => ?_)
  obtain ⟨projected, hprojected, rfl⟩ := hvalues
  exact ⟨projected, hprojected, rfl⟩

theorem shownGroups_of_rows (whole : r.IsWhole) (grouping : r.isGrouping = true)
    (notPivoting : r.isPivoting = false)
    (exact : ∀ row ∈ g.source.rows, Table.HasContents (Table.cells r.groupFields row))
    {block : RowBlock} (h : g.rows r = .ok block) :
    ∃ p kept, g.plan r = .ok p ∧ g.selected r = .ok kept ∧
      (∀ object ∈ block.rows, ∃ x ∈ kept,
        g.IsGroupRow r p (kept.filter (Row.agrees r.groupFields x)) object) ∧
      ∀ x ∈ kept, ∃ object ∈ block.rows,
        g.IsGroupRow r p (kept.filter (Row.agrees r.groupFields x)) object := by
  obtain ⟨p, kept, having_, groups, sorted, hp, hkept, hhaving, hgroups, -, perm, shown⟩ :=
    groups_of_rows whole grouping h
  rw [having_of_not notPivoting hp] at hhaving
  cases hhaving
  have perm : sorted.Perm groups := by simpa using perm
  have hmem {row : Row} (hrow : row ∈ kept) : row ∈ g.source.rows := by
    obtain ⟨p', -, hmatched⟩ := selected_ok_iff.1 hkept
    exact (Table.sublist_of_matched hmatched).subset hrow
  have members (rows : List Row) : rows ∈ groups ↔
      ∃ x ∈ kept, rows = kept.filter (Row.agrees r.groupFields x) :=
    Table.mem_groupRows_iff (Request.groupFields_ne_nil grouping)
      (fun row hrow => exact row (hmem hrow)) hgroups
  refine ⟨p, kept, hp, hkept, fun object hobject => ?_, fun x hx => ?_⟩
  · obtain ⟨rows, hrows, hshown⟩ := exists_of_mem_right shown hobject
    obtain ⟨x, hx, rfl⟩ := (members rows).1 (perm.subset hrows)
    exact ⟨x, hx, hshown⟩
  · have hgroup := (members _).2 ⟨x, hx, rfl⟩
    exact exists_of_mem_left shown (perm.symm.subset hgroup)

end Grid

end GridSql
