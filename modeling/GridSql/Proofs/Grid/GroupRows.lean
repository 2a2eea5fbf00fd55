import GridSql.Proofs.Grid.DrillDown
import GridSql.Proofs.Grid.GroupAggregates
import GridSql.Proofs.Grid.Shown
import GridSql.Proofs.Table.Numbered

/-!
# Every row is counted once

A level of groups that are counted parts the rows that pass its filters: each of them is
counted in one group row, so the counts add up to the number of the rows. No two group rows
show cells that compare as equal, and unless they are sorted they stand in the order of
their first rows.
-/

namespace GridSql

namespace Table

variable {t : Table} {outer : Option OuterRow}

theorem matchedWithin_eq_filter {filter : Option Expr} {kept : List Row}
    (h : t.matchedWithin outer filter = .ok kept) :
    ∃ passes : Row → Bool, kept = t.rows.filter passes ∧
      ∀ row ∈ t.rows, (passes row = true ↔ ∀ e ∈ filter, t.Holds outer row e) := by
  have single : whereClause filter.toList = filter := by cases filter <;> rfl
  rw [← single] at h
  simpa only [Option.mem_toList, Option.mem_def] using matchedWithin_eq h

theorem map_outputName_cols (fields : List String) :
    (fields.map fun f => (⟨.col f, none⟩ : SelectItem)).map (·.outputName) = fields := by
  rw [List.map_map]
  exact (List.map_congr_left fun f _ => rfl).trans (List.map_id fields)

theorem map_outputName_levelItems (fields : List String) (name : String)
    (values : List SelectItem) :
    (levelItems fields name values).map (·.outputName) =
      fields ++ name :: values.map (·.outputName) := by
  rw [levelItems, List.map_append, map_outputName_cols]
  rfl

end Table

namespace Grid

variable {g : Grid} {r : Request} {p : RequestPlan} {q : Query} {pivot : PivotContext}
  {result : ResultSet}

theorem select_of_grouping (grouping : r.isGrouping = true) (notPivoting : r.isPivoting = false)
    (accepted : g.plan r = .ok p) :
    ∃ values, GroupingPlan.valueItems g.aggregates r.valueCols = .ok values ∧
      p.select = r.groupFields.map (fun f => ⟨.col f, none⟩) ++
        ((g.childCountName? r).map fun name => (⟨Expr.countRows, some name⟩ : SelectItem)).toList ++
          values := by
  obtain ⟨_, level, -, hpivot, hlevel, -, hselect, -, -⟩ := plan_ok accepted
  rw [pivotContext_of_not notPivoting, Except.ok.injEq] at hpivot
  obtain ⟨values, hvalues, hitems, -⟩ := valueItems_of_plan grouping notPivoting hlevel
  refine ⟨values, hvalues, ?_⟩
  rw [hselect, ← hpivot]
  simp only [Request.groupFields, List.map_map]
  exact hitems

/--
A level of groups counts every row that passes the WHERE clause in one of its group rows, of
which no two show the same cells.
-/
theorem countsOnce_of_run (accepted : g.query r = .ok (q, pivot)) (grouping : r.isGrouping = true)
    (notPivoting : r.isPivoting = false) (counted : g.settings.grid.countChildren = true)
    (whole : r.IsWhole) (names : (q.select.map (·.outputName)).Nodup)
    (answered : g.source.run q = .ok result) :
    ∃ (passes : Row → Bool) (owners : List Nat),
      (∀ row ∈ g.source.rows, (passes row = true ↔ ∀ e ∈ q.filter, g.source.Holds none row e)) ∧
      Table.CountsOnce result r.groupFields g.settings.grid.childCountName
        (g.source.rows.filter passes) owners ∧
      (r.sortModel = [] →
        ∀ j k, j < k → k < result.rows.length → owners.idxOf j < owners.idxOf k) := by
  obtain ⟨p, hp, hquery⟩ := bind_ok_iff.1 accepted
  cases hquery
  rw [assemble_whole whole (having_of_not notPivoting hp)] at names answered ⊢
  obtain ⟨-, kept, having_, hkept, hhaving, houtput⟩ := Table.runWithin_ok_iff.1 answered
  cases hhaving
  obtain ⟨passes, rfl, holds⟩ := Table.matchedWithin_eq_filter hkept
  obtain ⟨values, -, hselect⟩ := select_of_grouping grouping notPivoting hp
  have level : (g.levelQuery r p).select =
      Table.levelItems r.groupFields g.settings.grid.childCountName values := by
    have named : g.childCountName? r = some g.settings.grid.childCountName := by
      simp [childCountName?, counted, grouping]
    rw [named] at hselect
    simpa [Table.levelItems, levelQuery] using hselect
  have apart : g.settings.grid.childCountName ∉ r.groupFields := by
    rw [level, Table.map_outputName_levelItems] at names
    exact fun h => (List.nodup_append.1 names).2.2 _ h _ List.mem_cons_self rfl
  have grouped := groupBy_of_grouping grouping hp
  obtain ⟨owners, once, ordered⟩ := Table.countsOnce_of_output
    (Request.groupFields_ne_nil grouping) level grouped apart ⟨rfl, rfl⟩ houtput
  refine ⟨passes, owners, holds, once, fun unsorted => ordered ?_⟩
  simp [levelQuery, planOrderBy, unsorted]

/-- Of the three sales two are counted in the group of the first year. -/
theorem countsOnce_of_run_salesByYear :
    ∃ q pivot result passes owners, salesByYear.query (groupedBy "year" []) = .ok (q, pivot) ∧
      (q.select.map (·.outputName)).Nodup ∧ salesByYear.source.run q = .ok result ∧
      result.rows.length = 2 ∧
      (∀ row ∈ salesByYear.source.rows,
        (passes row = true ↔ ∀ e ∈ q.filter, salesByYear.source.Holds none row e)) ∧
      Table.CountsOnce result ["year"] "childCount" (salesByYear.source.rows.filter passes) owners ∧
      ∀ j k, j < k → k < result.rows.length → owners.idxOf j < owners.idxOf k := by
  obtain ⟨⟨q, pivot⟩, accepted, h⟩ : ∃ answer, salesByYear.query (groupedBy "year" []) =
      .ok answer ∧ (answer.1.select.map (·.outputName),
        (salesByYear.source.run answer.1).toOption.map (·.rows.length)) =
          (["year", "childCount"], some 2) :=
    exists_of_toOption_map (by decide +kernel)
  obtain ⟨names, length⟩ := Prod.mk.inj h
  obtain ⟨result, answered, length⟩ := exists_of_toOption_map length
  have nodup : (q.select.map (·.outputName)).Nodup := by
    rw [names]
    decide
  obtain ⟨passes, owners, holds, once, ordered⟩ :=
    countsOnce_of_run accepted rfl rfl rfl ⟨rfl, rfl⟩ nodup answered
  exact ⟨q, pivot, result, passes, owners, accepted, nodup, answered, length, holds, once,
    ordered rfl⟩

end Grid

end GridSql
