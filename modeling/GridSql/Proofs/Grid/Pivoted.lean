import GridSql.Proofs.Grid.GeneratedNames
import GridSql.Proofs.Grid.Shown
import GridSql.Proofs.Plan.PivotMatches
import GridSql.Proofs.Table.ColumnValues

/-!
# Pivoted groups

Where the cells of the pivot columns can be compared, every row of the source matches
exactly one combination of their values. So the generated columns of a group split its rows
among them: each is its aggregate over the rows that match, and counts add up.
-/

namespace GridSql

namespace Table

variable {t : Table} {s : Scope} {rows : List Row}

/-! ## Groups hold all rows -/

theorem flatten_addToGroup_perm (key : List Value) (row : Row) (groups : List Group) :
    ((addToGroup key row groups).map (·.rows)).flatten.Perm
      ((groups.map (·.rows)).flatten ++ [row]) := by
  induction groups with
  | nil => exact .refl _
  | cons g rest ih =>
      unfold addToGroup
      split
      · simp only [List.map_cons, List.flatten_cons, List.append_assoc]
        exact (List.perm_append_comm).append_left g.rows
      · simp only [List.map_cons, List.flatten_cons, List.append_assoc]
        exact ih.append_left g.rows

/-- Grouping loses no row and repeats none, whatever it groups by. -/
theorem flatten_groupRows_perm {keys : List Expr} {groups : List (List Row)}
    (h : t.groupRows keys rows = .ok groups) :
    groups.flatten.Perm rows := by
  have added (before : List Row) (groups : List Group) (key : List Value) (row : Row)
      (_ : t.evalAll (.row row) keys = .ok key)
      (perm : (groups.map (·.rows)).flatten.Perm before) :
      ((addToGroup key row groups).map (·.rows)).flatten.Perm (before ++ [row]) :=
    (flatten_addToGroup_perm key row groups).trans (perm.append_right [row])
  rcases groupRows_induction h (.refl []) added with ⟨-, rfl⟩ | ⟨final, perm, rfl⟩
  · simp
  · exact perm

/-! ## Cells of select lists -/

theorem evalItems_plain_ok_iff {items : List SelectItem}
    (plain : ∀ item ∈ items, item.expr.isStar = false) {cells : List Value} :
    t.evalItems s items = .ok cells ↔
      List.Forall₂ (fun item cell => t.eval s item.expr = .ok cell) items cells := by
  induction items generalizing cells with
  | nil =>
      rw [List.forall₂_nil_left_iff]
      simp [evalItems, eq_comm]
  | cons item items ih =>
      obtain ⟨hitem, hitems⟩ := List.forall_mem_cons.1 plain
      have single {vs : List Value} :
          t.evalItem s item = .ok vs ↔ ∃ v, t.eval s item.expr = .ok v ∧ [v] = vs := by
        rw [evalItem, hitem]
        exact map_ok_iff
      simp only [evalItems_cons_ok_iff, single, ih hitems, List.forall₂_cons_left_iff]
      constructor
      · rintro ⟨_, cells, ⟨v, hv, rfl⟩, hcells, rfl⟩
        exact ⟨v, cells, hv, hcells, rfl⟩
      · rintro ⟨v, cells, hv, hcells, rfl⟩
        exact ⟨[v], cells, ⟨v, hv, rfl⟩, hcells, rfl⟩

/-! ## Answers with windows -/

theorem mem_of_mem_cut {α : Type} {window : Option Window} {l : List α} {a : α}
    (h : a ∈ cut window l) :
    a ∈ l := by
  unfold cut at h
  split at h
  · exact h
  · dsimp only at h
    split at h
    · exact List.mem_of_mem_drop (List.mem_of_mem_take h)
    · exact List.mem_of_mem_drop h

/-- Every row of a grouped answer, windows and conditions or not, is that of a group. -/
theorem exists_group_of_output {q : Query} {having_ : Option Expr} {kept : List Row}
    {result : ResultSet} (grouped : isGrouped q = true) (all : q.distinct = false)
    (h : t.output q having_ kept = .ok result) :
    ∃ groups, t.groupRows q.groupBy kept = .ok groups ∧
      result.columns = t.outputColumns q.select ∧ ∀ values ∈ result.rows, ∃ members ∈ groups,
        t.evalItems (.group members) q.select = .ok values := by
  obtain ⟨groups, projected, hgroups, hprojected, rfl⟩ := output_grouped_ok grouped h
  obtain ⟨-, outputs⟩ := projectGroups_ok_iff.1 hprojected
  refine ⟨groups, hgroups, rfl, fun values hvalues => ?_⟩
  obtain ⟨p, hp, rfl⟩ := List.mem_map.1 hvalues
  rw [all] at hp
  have shown := (sortRows_perm q.orderBy projected).subset (mem_of_mem_cut hp)
  obtain ⟨members, hmembers, hproject⟩ := exists_of_mem_right outputs shown
  exact ⟨members, List.mem_of_mem_filter hmembers, evalItems_of_project hproject⟩

theorem outputColumns_append (items others : List SelectItem) :
    t.outputColumns (items ++ others) = t.outputColumns items ++ t.outputColumns others :=
  List.flatMap_append

theorem outputColumns_plain {items : List SelectItem}
    (plain : ∀ item ∈ items, item.expr.isStar = false) :
    t.outputColumns items = items.map (·.outputName) := by
  induction items with
  | nil => rfl
  | cons item items ih =>
      obtain ⟨hitem, hitems⟩ := List.forall_mem_cons.1 plain
      rw [outputColumns, List.flatMap_cons, ← outputColumns, ih hitems, hitem]
      rfl

end Table

namespace Grid

open PivotContext

variable {g : Grid} {r : Request} {p : RequestPlan} {q : Query} {pivot : PivotContext}

/-! ## Combinations of a request -/

/--
A request for a level of groups with pivot columns, whose cells can be compared, and with
built-in functions of its value columns.
-/
structure PivotsGroups (g : Grid) (r : Request) : Prop where
  grouping : r.isGrouping = true
  pivoting : r.isPivoting = true
  comparable : ∀ c ∈ r.pivotCols, Value.AllComparable (g.source.rows.map (·.cell c.field))
  builtin : ∀ c ∈ r.valueCols, ∀ name, c.aggFunc = some name →
    g.aggregates.get? name = AggregateRegistry.builtin.get? name

theorem pivotValues_ok {count : Nat} {cols : List ColumnRef}
    {values : List (String × List Value)} (h : g.pivotValues count cols = .ok values) :
    List.Forall₂ (fun c column => column.1 = c.field ∧
      g.source.distinctValues c.field = .ok column.2) cols values := by
  induction cols generalizing count values with
  | nil =>
      cases h
      exact .nil
  | cons c cols ih =>
      obtain ⟨own, hown, h⟩ := bind_ok_iff.1 h
      obtain ⟨-, -, h⟩ := bind_ok_iff.1 h
      obtain ⟨others, hothers, h⟩ := bind_ok_iff.1 h
      cases h
      exact .cons ⟨rfl, mapError_ok_iff.1 hown⟩ (ih hothers)

theorem combinations_of_plan (pivoting : r.isPivoting = true) (accepted : g.plan r = .ok p) :
    ∃ values : List (String × List Value), p.pivot.combinations =
        cartesianProduct (values.map fun column => column.2.map fun v => ⟨column.1, v⟩) ∧
      List.Forall₂ (fun c column => column.1 = c.field ∧
        g.source.distinctValues c.field = .ok column.2) r.pivotCols values := by
  obtain ⟨values, hvalues, built⟩ := build_of_plan pivoting accepted
  exact ⟨values, (build_ok built).2.1, pivotValues_ok hvalues⟩

/-- What a combination compares are pivot columns, whose values were looked up. -/
theorem exists_pivotCol (pivoting : r.isPivoting = true) (accepted : g.plan r = .ok p)
    {combination : List PivotPair} (h : combination ∈ p.pivot.combinations) :
    ∀ pair ∈ combination, ∃ c ∈ r.pivotCols, pair.field = c.field ∧
      ∃ values, g.source.distinctValues c.field = .ok values := by
  obtain ⟨values, hcombinations, columns⟩ := combinations_of_plan pivoting accepted
  rw [hcombinations, mem_cartesianProduct_iff] at h
  intro pair hpair
  obtain ⟨pairs, hpairs, hmem⟩ := exists_of_mem_left h hpair
  obtain ⟨column, hcolumn, rfl⟩ := List.mem_map.1 hpairs
  obtain ⟨v, -, rfl⟩ := List.mem_map.1 hmem
  obtain ⟨c, hc, hfield, hvalues⟩ := exists_of_mem_right columns hcolumn
  exact ⟨c, hc, hfield, _, hvalues⟩

theorem known_of_combination (pivoting : r.isPivoting = true) (accepted : g.plan r = .ok p)
    {combination : List PivotPair} (h : combination ∈ p.pivot.combinations) :
    ∀ pair ∈ combination, (g.source.typeOf? pair.field).isSome = true := by
  intro pair hpair
  obtain ⟨c, -, hfield, values, hvalues⟩ := exists_pivotCol pivoting accepted h pair hpair
  rw [hfield]
  exact (Table.distinctValues_eq_ok hvalues).1

theorem countP_isMatch (pivots : g.PivotsGroups r) (accepted : g.plan r = .ok p) {row : Row}
    (hrow : row ∈ g.source.rows) :
    p.pivot.combinations.countP (isMatch · row) = 1 := by
  obtain ⟨values, hcombinations, columns⟩ := combinations_of_plan pivots.pivoting accepted
  have product : p.pivot.combinations.countP (isMatch · row) = _ :=
    (congrArg _ hcombinations).trans (countP_all_cartesianProduct (PivotPair.isIn · row) _)
  rw [product, List.map_map]
  refine List.prod_eq_one fun n hn => ?_
  obtain ⟨column, hcolumn, rfl⟩ := List.mem_map.1 hn
  obtain ⟨c, hc, hfield, hvalues⟩ := exists_of_mem_right columns hcolumn
  rw [Function.comp_apply, List.countP_map]
  have once := Table.countP_distinctValues (pivots.comparable c hc) hvalues hrow
  rw [← hfield] at once
  exact once

/-! ## Aggregates of a combination -/

/-- The built-in functions are aggregates of the table. -/
theorem apply_of_builtin {name : String} {f : AggregateFn}
    (h : AggregateRegistry.builtin.get? name = some f) :
    ∃ sql a, Aggregate.ofName? sql = some a ∧ f.apply = fun e => .fn sql [e] := by
  have hmem := List.mem_of_find?_eq_some h
  obtain ⟨⟨own, sql⟩, hpair, rfl⟩ := List.mem_map.1 hmem
  have known : ∀ pair ∈ [("avg", "AVG"), ("sum", "SUM"), ("min", "MIN"), ("max", "MAX"),
      ("count", "COUNT")], (Aggregate.ofName? pair.2).isSome = true := by decide +kernel
  obtain ⟨a, ha⟩ := Option.isSome_iff_exists.1 (known _ hpair)
  exact ⟨sql, a, ha, rfl⟩

/--
The generated column of a combination and a value column is the aggregate of the value
column over the rows of a group that match the combination.
-/
theorem eval_generated (pivots : g.PivotsGroups r) {c : ColumnRef} (hc : c ∈ r.valueCols)
    {combination : List PivotPair}
    (known : ∀ pair ∈ combination, (g.source.typeOf? pair.field).isSome = true)
    {function : String} (hfunction : AggregateRegistry.functionName c = .ok function) {e : Expr}
    (he : g.aggregates.apply function (matching combination c.field) = .ok e) :
    e.isStar = false ∧ ∃ whole, g.aggregates.aggregate c = .ok whole ∧
      ∀ members, g.source.eval (.group members) e =
        g.source.eval (.group (members.filter (isMatch combination))) whole := by
  have named : c.aggFunc = some function := by
    unfold AggregateRegistry.functionName at hfunction
    split at hfunction
    · next name hname => rw [hname, Except.ok.inj hfunction]
    · cases hfunction
  obtain ⟨f, hf, rfl⟩ := AggregateRegistry.apply_ok_iff.1 he
  have builtin := hf
  rw [pivots.builtin c hc function named] at builtin
  obtain ⟨sql, a, ha, apply⟩ := apply_of_builtin builtin
  refine ⟨by rw [apply]; rfl, f.apply (.col c.field), ?_, fun members => ?_⟩
  · exact bind_ok_iff.2 ⟨function, hfunction, AggregateRegistry.apply_ok_iff.2 ⟨f, hf, rfl⟩⟩
  · rw [apply]
    exact Table.eval_aggregate_matching ha known

/-- Whether cells are the aggregates over the rows of a group that match a combination. -/
def ShowsMatches (g : Grid) (r : Request) (members : List Row) (combination : List PivotPair)
    (cells : List Value) : Prop :=
  List.Forall₂ (fun c cell => ∃ e, g.aggregates.aggregate c = .ok e ∧
    g.source.eval (.group (members.filter (isMatch combination))) e = .ok cell) r.valueCols cells

theorem generated_of_plan (pivots : g.PivotsGroups r) (accepted : g.plan r = .ok p)
    {combination : List PivotPair} (hcombination : combination ∈ p.pivot.combinations)
    {made : List PivotColumn}
    (hmade : columnsOf g.aggregates g.settings.pivot.separator r.valueCols combination =
      .ok made) :
    List.Forall₂ (fun c column => column.expr.isStar = false ∧
      ∃ whole, g.aggregates.aggregate c = .ok whole ∧ ∀ members,
        g.source.eval (.group members) column.expr =
          g.source.eval (.group (members.filter (isMatch combination))) whole)
      r.valueCols made := by
  refine forall₂_imp_of_mem (columnsOf_ok hmade) fun c hc column _ hcolumn => ?_
  obtain ⟨-, function, hfunction, he⟩ := hcolumn
  exact eval_generated pivots hc (known_of_combination pivots.pivoting accepted hcombination)
    hfunction he

theorem isStar_of_generated (pivots : g.PivotsGroups r) (accepted : g.plan r = .ok p) :
    ∀ item ∈ p.pivot.selectItems, item.expr.isStar = false := by
  obtain ⟨_, -, built⟩ := build_of_plan pivots.pivoting accepted
  obtain ⟨-, -, columns, hcolumns, made⟩ := build_ok built
  intro item hitem
  obtain ⟨column, hcolumn, rfl⟩ := List.mem_map.1 hitem
  rw [hcolumns] at hcolumn
  obtain ⟨list, hlist, hmem⟩ := List.mem_flatten.1 hcolumn
  obtain ⟨combination, hcombination, hmade⟩ := exists_of_mem_right made hlist
  obtain ⟨_, -, plain, -⟩ :=
    exists_of_mem_right (generated_of_plan pivots accepted hcombination hmade) hmem
  exact plain

theorem blocks_of_generated (pivots : g.PivotsGroups r) (accepted : g.plan r = .ok p)
    {members : List Row} {cells : List Value}
    (h : g.source.evalItems (.group members) p.pivot.selectItems = .ok cells) :
    ∃ blocks, cells = blocks.flatten ∧
      List.Forall₂ (g.ShowsMatches r members) p.pivot.combinations blocks := by
  obtain ⟨_, -, built⟩ := build_of_plan pivots.pivoting accepted
  obtain ⟨-, -, columns, hcolumns, made⟩ := build_ok built
  rw [Table.evalItems_plain_ok_iff (isStar_of_generated pivots accepted), selectItems,
    List.forall₂_map_left_iff, hcolumns] at h
  obtain ⟨blocks, hcells, shown⟩ := exists_blocks h
  refine ⟨blocks, hcells, forall₂_comp made shown fun combination hcombination list block hmade
    hblock => ?_⟩
  have generated := generated_of_plan pivots accepted hcombination hmade
  refine forall₂_comp generated hblock fun c _ column cell hcolumn hcell => ?_
  obtain ⟨-, whole, hwhole, same⟩ := hcolumn
  exact ⟨whole, hwhole, (same members).symm.trans hcell⟩

/-- A level of pivoted groups shows their columns, the count and the generated columns. -/
theorem select_of_pivoting (pivots : g.PivotsGroups r) (accepted : g.plan r = .ok p) :
    p.select = r.groupFields.map (fun field => ⟨.col field, none⟩) ++
      ((g.childCountName? r).map fun name => (⟨.countRows, some name⟩ : SelectItem)).toList ++
        p.pivot.selectItems := by
  obtain ⟨_, level, -, -, hlevel, -, hselect, -, -⟩ := plan_ok accepted
  unfold GroupingPlan.ofRequest at hlevel
  rw [if_pos pivots.grouping, if_pos pivots.pivoting] at hlevel
  cases hlevel
  rw [hselect, selectOf_of_grouping pivots.grouping]
  simp [Request.groupFields, Function.comp_def]

theorem assemble_eq (g : Grid) (r : Request) (p : RequestPlan) :
    ∃ window, g.assemble r p = { g.wholeQuery r p with window := window } :=
  ⟨_, assemble_eq_window g r p⟩

/-! ## Groups split by combinations -/

theorem aggregate_of_count (pivots : g.PivotsGroups r) {c : ColumnRef} (hc : c ∈ r.valueCols)
    (counts : c.aggFunc = some "count") :
    g.aggregates.aggregate c = .ok (.count (.col c.field)) := by
  have function : AggregateRegistry.functionName c = .ok "count" := by
    rw [AggregateRegistry.functionName, counts]
  obtain ⟨f, hf, apply⟩ : ∃ f, AggregateRegistry.builtin.get? "count" = some f ∧
      f.apply = fun e => .fn "COUNT" [e] := ⟨_, rfl, rfl⟩
  refine bind_ok_iff.2 ⟨_, function, ?_⟩
  rw [AggregateRegistry.apply, pivots.builtin c hc _ counts, hf]
  dsimp only
  rw [apply]
  rfl

/--
Whether blocks of cells split a group: each block is made of the aggregates over the rows
that match its combination, and the counts of a field add up to its count in the group.
-/
structure SplitsGroup (g : Grid) (r : Request) (pivot : PivotContext) (members : List Row)
    (blocks : List (List Value)) : Prop where
  aggregates : List.Forall₂ (g.ShowsMatches r members) pivot.combinations blocks
  counts : ∀ (i : Nat) (c : ColumnRef), r.valueCols[i]? = some c → c.aggFunc = some "count" →
    ∃ counts : List Nat,
      blocks.map (·[i]?) = counts.map (fun n => some (.int (Int64.ofNat n))) ∧
      counts.sum = Table.filled c.field members ∧
      g.source.eval (.group members) (.count (.col c.field)) =
        .ok (.int (Int64.ofNat counts.sum))

/-- Where every row matches one combination, counts over the matches add up. -/
theorem splitsGroup_of_blocks (pivots : g.PivotsGroups r) (accepted : g.plan r = .ok p)
    {members : List Row} (hmembers : ∀ row ∈ members, row ∈ g.source.rows)
    {blocks : List (List Value)}
    (shown : List.Forall₂ (g.ShowsMatches r members) p.pivot.combinations blocks) :
    g.SplitsGroup r p.pivot members blocks := by
  refine ⟨shown, fun i c hc function => ?_⟩
  have aggregate := aggregate_of_count pivots (List.mem_of_getElem? hc) function
  have counted : List.Forall₂ (fun combination (block : List Value) =>
      (members.filter (isMatch combination) ≠ [] → (g.source.typeOf? c.field).isSome = true) ∧
        block[i]? = some (.int (Int64.ofNat
          (Table.filled c.field (members.filter (isMatch combination))))))
      p.pivot.combinations blocks := by
    refine shown.imp fun combination block hblock => ?_
    obtain ⟨cell, hcell, e, he, evaluated⟩ := exists_getElem?_of_forall₂ hblock hc
    rw [aggregate, Except.ok.injEq] at he
    rw [← he] at evaluated
    obtain ⟨known, rfl⟩ := Table.eval_count_ok evaluated
    exact ⟨known, hcell⟩
  have once : ∀ row ∈ members, p.pivot.combinations.countP (isMatch · row) = 1 :=
    fun row hrow => countP_isMatch pivots accepted (hmembers row hrow)
  have known : members ≠ [] → (g.source.typeOf? c.field).isSome = true := by
    intro some_
    obtain ⟨row, hrow⟩ := List.exists_mem_of_ne_nil _ some_
    obtain ⟨combination, hcombination, hmatch⟩ : ∃ combination ∈ p.pivot.combinations,
        isMatch combination row = true :=
      List.countP_pos_iff.1 (by rw [once row hrow]; exact Nat.one_pos)
    obtain ⟨block, -, hknown, -⟩ := exists_of_mem_left counted hcombination
    exact hknown (List.ne_nil_of_mem (List.mem_filter.2 ⟨hrow, hmatch⟩))
  have sum := Table.sum_filled c.field once
  refine ⟨_, ?_, sum, ?_⟩
  · rw [List.map_map]
    exact map_eq_of_forall₂ (counted.imp fun _ _ h => h.2)
  · rw [sum]
    exact Table.eval_count known

/-- The cells of a group in front of its generated columns: its keys and the number of its rows. -/
def levelCells (g : Grid) (r : Request) (members : List Row) : List Value :=
  r.groupFields.map (Scope.group members).cell ++
    ((g.childCountName? r).map fun _ => Value.int (Int64.ofNat members.length)).toList

theorem evalItems_pivoted (pivots : g.PivotsGroups r) (accepted : g.plan r = .ok p)
    {members : List Row} (known : ∀ f ∈ r.groupFields, (g.source.typeOf? f).isSome = true)
    {values : List Value} (h : g.source.evalItems (.group members) p.select = .ok values) :
    ∃ blocks, values = g.levelCells r members ++ blocks.flatten ∧
      List.Forall₂ (g.ShowsMatches r members) p.pivot.combinations blocks := by
  rw [select_of_pivoting pivots accepted] at h
  obtain ⟨level, cells, hlevel, hcells, rfl⟩ := Table.evalItems_append_ok_iff.1 h
  obtain ⟨keys, count, hkeys, hcount, rfl⟩ := Table.evalItems_append_ok_iff.1 hlevel
  obtain ⟨blocks, rfl, shown⟩ := blocks_of_generated pivots accepted hcells
  rw [Table.evalItems_cols known, Except.ok.injEq] at hkeys
  refine ⟨blocks, ?_, shown⟩
  rw [levelCells, ← hkeys]
  cases hname : g.childCountName? r with
  | none =>
      rw [hname] at hcount
      cases hcount
      rfl
  | some name =>
      have plain : ∀ item ∈ [(⟨.countRows, some name⟩ : SelectItem)],
          item.expr.isStar = false := by
        simp [Expr.countRows, Expr.count, Expr.fn, Expr.isStar]
      rw [hname] at hcount
      cases (Table.evalItems_plain_ok_iff plain).1 hcount with
      | cons counted rest =>
          cases rest
          rw [Table.eval_countRows, Except.ok.injEq] at counted
          rw [← counted]
          rfl

theorem outputColumns_pivoted (pivots : g.PivotsGroups r) (accepted : g.plan r = .ok p) :
    g.source.outputColumns p.select = r.groupFields ++ (g.childCountName? r).toList ++
      p.pivot.resultFields := by
  have generated : g.source.outputColumns p.pivot.selectItems = p.pivot.resultFields := by
    rw [Table.outputColumns_plain (isStar_of_generated pivots accepted), selectItems, resultFields,
      List.map_map]
    rfl
  have keys : g.source.outputColumns
      (r.groupFields.map fun field => (⟨.col field, none⟩ : SelectItem)) = r.groupFields := by
    rw [Table.outputColumns_plain (by simp [Expr.col, Expr.isStar]), List.map_map]
    exact List.map_id' _
  rw [select_of_pivoting pivots accepted, Table.outputColumns_append, Table.outputColumns_append,
    generated, keys]
  cases g.childCountName? r <;> rfl

/--
Every row of the source matches exactly one combination. So in a row of the answer, the
generated columns are the aggregates over those rows of its group that match their
combination, and the counts of a field add up to its count in the group.
-/
theorem pivot_splits_groups (pivots : g.PivotsGroups r) (accepted : g.query r = .ok (q, pivot)) :
    (∀ row ∈ g.source.rows, pivot.combinations.countP (isMatch · row) = 1) ∧
    ∀ result, g.source.run q = .ok result →
      result.columns = r.groupFields ++ (g.childCountName? r).toList ++
        pivot.combinations.flatMap (fun combination => r.valueCols.map fun c =>
          columnName g.settings.pivot.separator combination c.field) ∧
      ∃ kept groups, g.selected r = .ok kept ∧ g.groups r = .ok groups ∧
        groups.flatten.Perm kept ∧ ∀ values ∈ result.rows, ∃ members ∈ groups, ∃ blocks,
          values = g.levelCells r members ++ blocks.flatten ∧
            g.SplitsGroup r pivot members blocks := by
  obtain ⟨p, hp, hquery⟩ := bind_ok_iff.1 accepted
  cases hquery
  refine ⟨fun row hrow => countP_isMatch pivots hp hrow, fun result hrun => ?_⟩
  obtain ⟨window, hassemble⟩ := assemble_eq g r p
  rw [hassemble] at hrun
  obtain ⟨-, kept, having_, hkept, -, houtput⟩ := Table.runWithin_ok_iff.1 hrun
  have hgroupBy := groupBy_of_grouping pivots.grouping hp
  have nonempty := Request.groupFields_ne_nil pivots.grouping
  have grouped : Table.isGrouped { g.wholeQuery r p with window := window } = true := by
    simp [Table.isGrouped, wholeQuery, levelQuery, hgroupBy, nonempty]
  obtain ⟨groups, hgroups, hcolumns, shown⟩ :=
    Table.exists_group_of_output grouped rfl houtput
  obtain ⟨_, -, built⟩ := build_of_plan pivots.pivoting hp
  have hselected : g.selected r = .ok kept := selected_ok_iff.2 ⟨p, hp, hkept⟩
  have perm := Table.flatten_groupRows_perm hgroups
  refine ⟨?_, kept, groups, hselected, ?_, perm, fun values hvalues => ?_⟩
  · rw [hcolumns, ← resultFields_eq built, ← outputColumns_pivoted pivots hp]
    rfl
  · exact bind_ok_iff.2 ⟨p, hp, bind_ok_iff.2 ⟨kept, hselected, mapError_ok_iff.2 hgroups⟩⟩
  · obtain ⟨members, hmembers, hitems⟩ := shown values hvalues
    have some_ : kept ≠ [] := by
      rintro rfl
      rw [Table.groupRows, show (g.wholeQuery r p).groupBy = _ from hgroupBy] at hgroups
      simp [nonempty, bind, Except.bind, pure, Except.pure] at hgroups
      rw [hgroups] at hmembers
      cases hmembers
    have known := Table.known_of_groupRows nonempty (by rw [← hgroupBy]; exact hgroups) some_
    obtain ⟨blocks, rfl, aggregates⟩ := evalItems_pivoted pivots hp known hitems
    refine ⟨members, hmembers, blocks, rfl, splitsGroup_of_blocks pivots hp ?_ aggregates⟩
    intro row hrow
    have among := perm.subset (List.mem_flatten_of_mem hmembers hrow)
    exact (Table.sublist_of_matched hkept).subset among

/-! ## Shifts by year -/

/-- A grid of shifts, one of them in no year and one without hours. -/
def shifts : Grid where
  source := ⟨"shifts", [⟨"place", .text⟩, ⟨"year", .integer⟩, ⟨"hours", .integer⟩],
    [[("place", .text "inn"), ("year", .int 2024), ("hours", .int 8)],
      [("place", .text "inn"), ("year", .null), ("hours", .int 5)],
      [("place", .text "inn"), ("year", .int 2024), ("hours", .null)]]⟩
  table := { table := "shifts" }
  isValid := Settings.fault?_default

def shiftsByYear : Request where
  rowGroupCols := [{ field := "place" }]
  pivotMode := true
  pivotCols := [{ field := "year" }]
  valueCols := [{ field := "hours", aggFunc := some "count" }]

theorem pivotsGroups_shifts : shifts.PivotsGroups shiftsByYear where
  grouping := rfl
  pivoting := rfl
  comparable := by
    intro c hc
    cases List.mem_singleton.1 hc
    refine ⟨?_, by decide +kernel⟩
    simp [shifts, Row.cell, Row.get?]
  builtin := fun _ _ _ _ => rfl

def shiftsPlan : RequestPlan :=
  let hours (p : PivotPair) : Expr := .fn "COUNT" [.caseWhen p.condition (.col "hours")]
  let blank : PivotPair := ⟨"year", .null⟩
  let year : PivotPair := ⟨"year", .int 2024⟩
  let columns : List PivotColumn :=
    [⟨columnName "_" [blank] "hours", hours blank⟩, ⟨columnName "_" [year] "hours", hours year⟩]
  { select := ⟨.col "place", none⟩ :: columns.map fun c => ⟨c.expr, some c.name⟩
    groupBy := [.col "place"]
    rows := []
    having := []
    pivot :=
      { values := [("year", [.null, .int 2024])]
        pairs := [[blank, year]]
        combinations := [[blank], [year]]
        columns := columns
        separator := "_" } }

set_option maxRecDepth 20000 in
theorem plan_shifts : shifts.plan shiftsByYear = .ok shiftsPlan := by
  have years : shifts.source.distinctValues "year" = .ok [.null, .int 2024] := by
    cbv
  have values : shifts.pivotValues 1 shiftsByYear.pivotCols =
      .ok [("year", [.null, .int 2024])] := by
    simp only [shiftsByYear, pivotValues, years]
    rfl
  have context : shifts.pivotContext shiftsByYear = .ok shiftsPlan.pivot := by
    simp only [pivotContext, values]
    rfl
  have filters : shifts.levelFilters shiftsByYear = .ok { rows := [] } := by
    cbv
  simp only [plan, filters, context]
  rfl

theorem run_shifts :
    (shifts.source.run (shifts.assemble shiftsByYear shiftsPlan)).toOption.map
      (fun result => result.rows.map (·.map Value.display)) = some [["inn", "1", "1"]] := by
  decide +kernel

/-- One of the two shifts with hours is in 2024, the other one is in no year. -/
theorem pivot_splits_groups_shifts :
    shifts.PivotsGroups shiftsByYear ∧ ∃ q pivot result,
      shifts.query shiftsByYear = .ok (q, pivot) ∧ shifts.source.run q = .ok result ∧
      result.rows.map (·.map Value.display) = [["inn", "1", "1"]] ∧
      (∀ row ∈ shifts.source.rows, pivot.combinations.countP (isMatch · row) = 1) ∧
      ∀ values ∈ result.rows, ∃ members blocks,
        values = shifts.levelCells shiftsByYear members ++ blocks.flatten ∧
          shifts.SplitsGroup shiftsByYear pivot members blocks := by
  obtain ⟨result, ran, rows⟩ := exists_of_toOption_map run_shifts
  have accepted : shifts.query shiftsByYear =
      .ok (shifts.assemble shiftsByYear shiftsPlan, shiftsPlan.pivot) :=
    bind_ok_iff.2 ⟨_, plan_shifts, rfl⟩
  obtain ⟨once, answered⟩ := pivot_splits_groups pivotsGroups_shifts accepted
  obtain ⟨-, _, _, -, -, -, split⟩ := answered result ran
  refine ⟨pivotsGroups_shifts, _, _, result, accepted, ran, rows, once, fun values hvalues => ?_⟩
  obtain ⟨members, -, blocks, hvalues, splits⟩ := split values hvalues
  exact ⟨members, blocks, hvalues, splits⟩

end Grid

end GridSql
