import GridSql.Proofs.Grid.Counting
import GridSql.Proofs.Grid.Pivoted

/-!
# Windows of a level

The window of a request is cut out of what its level shows as a whole: filters, groups and
sorting do not depend on it. So a window that is not full, or empty, ends where the level
does, and the number that is told with it is that of all rows of the level, unless the window
starts behind them: then it is the start of the window.
-/

namespace GridSql

/-! ## Windows of a table's output -/

namespace Table

variable {t : Table} {q : Query} {having_ : Option Expr} {kept : List Row}

theorem cut_map {α β : Type} (window : Option Window) (f : α → β) (rows : List α) :
    cut window (rows.map f) = (cut window rows).map f := by
  cases window with
  | none => rfl
  | some w =>
      simp only [cut]
      cases w.limit <;> simp

theorem projectGroups_window (window : Option Window) (groups : List (List Row)) :
    t.projectGroups { q with window } having_ groups = t.projectGroups q having_ groups := by
  induction groups with
  | nil => rw [projectGroups.eq_def, projectGroups.eq_def]
  | cons rows groups ih =>
      rw [projectGroups.eq_def, projectGroups.eq_def t q]
      simp only [ih]
      rfl

def projections (t : Table) (q : Query) (having_ : Option Expr) (rows : List Row) :
    Except SourceError (List Projected) :=
  if isGrouped q then do
    let groups ← t.groupRows q.groupBy rows
    t.projectGroups q having_ groups
  else
    rows.mapM fun r => t.project q (.row r)

def arranged (q : Query) (projected : List Projected) : List (List Value) :=
  (sortRows q.orderBy (if q.distinct then dropDuplicates [] projected else projected)).map
    (·.values)

theorem output_eq_projections :
    t.output q having_ kept = (t.projections q having_ kept).map fun projected =>
      ⟨t.outputColumns q.select, cut q.window (arranged q projected)⟩ := by
  have cutOut (projected : Except SourceError (List Projected)) :
      (do
        let ps ← projected
        let sorted := sortRows q.orderBy (if q.distinct then dropDuplicates [] ps else ps)
        Except.ok (ResultSet.mk (t.outputColumns q.select) ((cut q.window sorted).map (·.values))))
      = projected.map fun ps => ⟨t.outputColumns q.select, cut q.window (arranged q ps)⟩ := by
    cases projected with
    | error e => rfl
    | ok ps =>
        simp only [arranged, cut_map]
        rfl
  unfold output projections
  by_cases grouped : isGrouped q = true
  · simp only [if_pos grouped]
    rw [← cutOut, bind_assoc]
  · simp only [if_neg grouped]
    exact cutOut _

theorem projections_window (window : Option Window) :
    t.projections { q with window } having_ kept = t.projections q having_ kept := by
  unfold projections
  simp only [projectGroups_window]
  rfl

theorem output_eq_cut :
    t.output q having_ kept =
      (t.output { q with window := none } having_ kept).map fun result =>
        { result with rows := cut q.window result.rows } := by
  rw [output_eq_projections, output_eq_projections, projections_window]
  cases t.projections q having_ kept <;> rfl

theorem run_eq_cut :
    t.run q = (t.run { q with window := none }).map fun result =>
      { result with rows := cut q.window result.rows } := by
  obtain ⟨select, distinct, source, filter, groupBy, having_, orderBy, window⟩ := q
  unfold run
  rw [runWithin, runWithin]
  simp only [output_eq_cut (q := ⟨_, _, _, _, _, _, _, window⟩), except_map_bind]
  refine bind_congr fun _ => bind_congr fun p => bind_congr fun _ => ?_
  cases p with
  | none => rfl
  | some p => rw [except_map_bind]

/-! ## How many rows there are at most -/

theorem length_addToGroup_le (key : List Value) (row : Row) (groups : List Group) :
    (addToGroup key row groups).length ≤ groups.length + 1 := by
  induction groups with
  | nil => exact le_rfl
  | cons g rest ih =>
      unfold addToGroup
      split
      · simp
      · simpa using ih

/-- There are at most as many groups as rows, but without keys there is always one. -/
theorem length_groupRows_le {keys : List Expr} {rows : List Row} {groups : List (List Row)}
    (h : t.groupRows keys rows = .ok groups) :
    groups.length ≤ max 1 rows.length := by
  have added (before : List Row) (groups : List Group) (key : List Value) (row : Row)
      (_ : t.evalAll (.row row) keys = .ok key) (few : groups.length ≤ before.length) :
      (addToGroup key row groups).length ≤ (before ++ [row]).length := by
    have one := length_addToGroup_le key row groups
    rw [List.length_append, List.length_singleton]
    omega
  rcases groupRows_induction h le_rfl added with ⟨-, rfl⟩ | ⟨final, few, rfl⟩
  · exact le_max_left 1 _
  · rw [List.length_map]
    exact few.trans (le_max_right 1 _)

theorem length_projections_le {projected : List Projected}
    (h : t.projections q having_ kept = .ok projected) :
    projected.length ≤ max 1 kept.length := by
  unfold projections at h
  split at h
  · obtain ⟨groups, hgroups, h⟩ := bind_ok_iff.1 h
    obtain ⟨-, outputs⟩ := projectGroups_ok_iff.1 h
    rw [← outputs.length_eq]
    exact (List.length_filter_le _ _).trans (length_groupRows_le hgroups)
  · rw [← (mapM_ok_iff.1 h).length_eq]
    exact le_max_right 1 _

/-- A query that drops no duplicates gives at most as many rows as the table has, or one. -/
theorem length_run_le {result : ResultSet} (all : q.distinct = false ∧ q.window = none)
    (h : t.run q = .ok result) :
    result.rows.length ≤ max 1 t.rows.length := by
  obtain ⟨-, kept, having_, hkept, -, houtput⟩ := runWithin_ok_iff.1 h
  rw [output_eq_projections] at houtput
  obtain ⟨projected, hprojected, rfl⟩ := map_ok_iff.1 houtput
  have arrangedLength : (arranged q projected).length = projected.length := by
    simp [arranged, all.1, (sortRows_perm q.orderBy projected).length_eq]
  have kept_le : kept.length ≤ t.rows.length := by
    rw [← matched_eq_matchedWithin] at hkept
    exact (sublist_of_matched hkept).length_le
  have projected_le := length_projections_le hprojected
  simp only [all.2, cut, arrangedLength]
  omega

end Table

namespace Request

variable {α : Type} {r : Request} {rows : List α}

/-- The rows of a window, out of all rows of its level. -/
def slice (r : Request) (rows : List α) : List α :=
  if r.pageSize = 0 then rows.drop r.startRow else (rows.drop r.startRow).take r.pageSize

theorem cut_window? : Table.cut r.window? rows = r.slice rows := by
  by_cases size : r.pageSize = 0 <;> by_cases start : r.startRow = 0 <;>
    simp [window?, slice, Table.cut, size, start]

theorem slice_map {β : Type} (f : α → β) : r.slice (rows.map f) = (r.slice rows).map f := by
  unfold slice
  split <;> simp

theorem slice_sublist (rows : List α) : (r.slice rows).Sublist rows := by
  unfold slice
  split
  · exact List.drop_sublist _ _
  · exact (List.take_sublist _ _).trans (List.drop_sublist _ _)

theorem length_slice :
    (r.slice rows).length =
      if r.pageSize = 0 then rows.length - r.startRow
      else min r.pageSize (rows.length - r.startRow) := by
  unfold slice
  split <;> simp

end Request

namespace Grid

variable {g : Grid} {r : Request} {p : RequestPlan} {block : RowBlock} {n : Nat}

def blockOf (r : Request) (whole : RowBlock) : RowBlock where
  rows := r.slice whole.rows
  rowCount := rowCount? r (r.slice whole.rows).length
  pivotFields := whole.pivotFields

/-- The rows of a window are cut out of those of its level, which fail where the window does. -/
theorem rows_eq_blockOf (accepted : g.plan r = .ok p) :
    g.rows r = (g.rows r.whole).map (blockOf r) := by
  have own : g.query r = .ok (g.assemble r p, p.pivot) := bind_ok_iff.2 ⟨p, accepted, rfl⟩
  have level : g.query r.whole = .ok (g.assemble r.whole p, p.pivot) :=
    bind_ok_iff.2 ⟨p, plan_whole accepted, rfl⟩
  have windowless : { g.assemble r p with window := none } = g.assemble r.whole p := by
    rw [assemble_eq_window, assemble_eq_wholeQuery r.isWhole_whole]
    rfl
  have window : (g.assemble r p).window = r.window? := by rw [assemble_eq_window]
  unfold rows
  rw [own, level]
  dsimp only [bind, Except.bind]
  rw [Table.run_eq_cut, windowless, window]
  cases g.source.run (g.assemble r.whole p) with
  | error e => rfl
  | ok result =>
      simp only [Except.map, Except.mapError, Request.cut_window?, ResultSet.rowObjects,
        Request.slice_map, blockOf, Request.whole]
      rfl

theorem length_rows_le (whole : r.IsWhole) (answered : g.rows r = .ok block) :
    block.rows.length ≤ max 1 g.source.rows.length := by
  obtain ⟨p, result, -, hrun, shown⟩ := answers_iff.1 ⟨block, answered, rfl⟩
  rw [assemble_eq_wholeQuery whole] at hrun
  have length := Table.length_run_le ⟨rfl, rfl⟩ hrun
  simpa [shown, ResultSet.rowObjects] using length

/-- A window that is not full, or that has no size, ends with the rows or behind them. -/
theorem rowCount?_eq_some {rows : List RowObject}
    (told : rowCount? r (r.slice rows).length = some n) :
    n = min (max r.startRow rows.length) rowCountLimit := by
  unfold rowCount? at told
  split at told
  · next short =>
      have ends : r.startRow + (r.slice rows).length = max r.startRow rows.length := by
        rw [Request.length_slice] at short ⊢
        split_ifs at short ⊢ <;> omega
      rw [← Option.some.inj told, ends]
  · cases told

/--
The number that is told with a window is that of all rows exactly if the window does not
start behind them.
-/
theorem rowCount_eq_length_iff (few : g.source.rows.length < rowCountLimit)
    (answered : g.rows r = .ok block) (told : block.rowCount = some n) :
    ∃ whole, g.rows r.whole = .ok whole ∧
      n = min (max r.startRow whole.rows.length) rowCountLimit ∧
      (n = whole.rows.length ↔ r.startRow ≤ whole.rows.length) := by
  obtain ⟨p, accepted⟩ : ∃ p, g.plan r = .ok p := by
    obtain ⟨_, hquery, -⟩ := bind_ok_iff.1 answered
    obtain ⟨p, hp, -⟩ := bind_ok_iff.1 hquery
    exact ⟨p, hp⟩
  rw [rows_eq_blockOf accepted] at answered
  obtain ⟨whole, hwhole, rfl⟩ := map_ok_iff.1 answered
  have number := rowCount?_eq_some told
  have length := length_rows_le r.isWhole_whole hwhole
  have limit : 1 < rowCountLimit := by decide
  refine ⟨whole, hwhole, number, ?_⟩
  rw [number]
  omega

/-! ## Guests behind the last -/

def farGuests : Request where
  startRow := 5
  endRow := 10

theorem rows_farGuests :
    ∃ block, guests.rows farGuests = .ok block ∧
      (block.rows.length, block.rowCount) = (0, some 5) :=
  exists_of_toOption_map (by decide +kernel)

/-- For a window behind the two guests the number five is told. -/
theorem rowCount_eq_length_iff_farGuests :
    guests.source.rows.length < rowCountLimit ∧
      ∃ block whole, guests.rows farGuests = .ok block ∧ block.rowCount = some 5 ∧
        guests.rows farGuests.whole = .ok whole ∧
        5 = min (max farGuests.startRow whole.rows.length) rowCountLimit ∧
        (5 = whole.rows.length ↔ farGuests.startRow ≤ whole.rows.length) := by
  have few : guests.source.rows.length < rowCountLimit := by decide
  obtain ⟨block, answered, shown⟩ := rows_farGuests
  have told : block.rowCount = some 5 := congrArg Prod.snd shown
  obtain ⟨whole, hwhole, number, truthful⟩ := rowCount_eq_length_iff few answered told
  exact ⟨few, block, whole, answered, told, hwhole, number, truthful⟩

/-- There are not five guests. -/
theorem not_rowCount_eq_length :
    ¬ ∀ (g : Grid) (r : Request) (block whole : RowBlock) (n : Nat), g.rows r = .ok block →
      g.rows r.whole = .ok whole → block.rowCount = some n → n = whole.rows.length := by
  intro h
  obtain ⟨block, answered, shown⟩ := rows_farGuests
  obtain ⟨whole, hwhole, length⟩ :
      ∃ whole, guests.rows farGuests.whole = .ok whole ∧ whole.rows.length = 2 :=
    exists_of_toOption_map (by decide +kernel)
  have five := h guests farGuests block whole 5 answered hwhole (congrArg Prod.snd shown)
  rw [length] at five
  cases five

end Grid

end GridSql
