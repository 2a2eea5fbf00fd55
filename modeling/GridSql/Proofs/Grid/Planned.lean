import GridSql.Grid.Compile
import GridSql.Proofs.Filter.Refusals
import Mathlib

-- The whole library is imported for the equations by which given requests are evaluated.

/-!
# What an accepted request is planned as

A request that is accepted has no violation. Its rows are restricted by the predicates
of its group keys, by the free predicates and by those that its filter model is compiled
to at the requested level, and by nothing else.
-/

namespace GridSql

/-- A grid can work with the settings that nobody has changed. -/
theorem Settings.fault?_default : ({} : Settings).fault? = none := by
  decide

theorem AggregateRegistry.apply_ok_iff {aggregates : AggregateRegistry} {name : String}
    {e a : Expr} :
    aggregates.apply name e = .ok a ↔ ∃ f, aggregates.get? name = some f ∧ f.apply e = a := by
  unfold apply
  cases aggregates.get? name <;> simp

/-- Where no violation is left over, the step has succeeded on every item. -/
theorem Violations.takeAll_ok {α β : Type} {step : α → Except QueryError β} {vs : Violations}
    {l : List α} {bs : List β} (explained : ∀ a, Explained (step a))
    (h : takeAll step vs l = .ok (bs, [])) :
    vs = [] ∧ List.Forall₂ (fun a b => step a = .ok b) l bs := by
  induction l generalizing vs bs with
  | nil =>
      cases h
      exact ⟨rfl, .nil⟩
  | cons a rest ih =>
      obtain ⟨⟨b?, vs'⟩, htake, h⟩ := bind_ok_iff.1 h
      obtain ⟨⟨others, vs''⟩, hrest, h⟩ := bind_ok_iff.1 h
      cases h
      obtain ⟨rfl, hothers⟩ := ih hrest
      obtain ⟨hvs, b, hb, rfl⟩ := take_ok (explained a) htake
      exact ⟨hvs, .cons hb hothers⟩

namespace Grid

variable {g : Grid} {r : Request}

/-! ## Validation -/

theorem explained_validate : Explained (g.validate r) := by
  unfold validate
  split
  · exact .unrecognized _ _
  · exact Violations.explained_finish _ _

theorem validate_ok_iff :
    g.validate r = .ok () ↔ g.unknownAggregate? r = none ∧ g.violations r = [] := by
  unfold validate
  split
  · next name hunknown => simp [hunknown]
  · next hknown => simp [hknown, Violations.finish_ok_iff]

theorem explained_filterModel : Explained (g.filterModel r) := by
  unfold filterModel
  split
  · split
    · exact .map (Recognizers.explained_recognize _ _)
    · exact .ok _
  · exact .ok _

/-! ## Filters of a level -/

/--
How a filter model restricts the rows of a level, behind the predicates of the group
keys.
-/
inductive Restricts (g : Grid) (r : Request) (keys : List Expr) :
    Option FilterModel → LevelFilters → Prop where
  | suppressed {model : Option FilterModel} (level : g.levelFiltering r model = .suppressed) :
      Restricts g r keys model { rows := keys }
  | aggregated {model : Option FilterModel} {entries : ColumnFilters} {predicate : Expr}
      (level : g.levelFiltering r model = .aggregated entries)
      (compiled : g.groupAggregatePredicate r entries = .ok predicate) :
      Restricts g r keys model { rows := keys ++ [predicate] }
  | unfiltered (level : g.levelFiltering r none = .direct) :
      Restricts g r keys none { rows := keys ++ g.freePredicates r }
  | advanced {filter : AdvancedFilter} {predicate : Expr}
      (level : g.levelFiltering r (some (.advanced filter)) = .direct)
      (compiled : g.filterContext.compileAdvanced filter = .ok predicate) :
      Restricts g r keys (some (.advanced filter))
        { rows := keys ++ g.freePredicates r ++ [predicate] }
  /-- Filters of generated columns are left for later. -/
  | columns {entries : ColumnFilters} {predicates : List Expr}
      (level : g.levelFiltering r (some (.columns entries)) = .direct)
      (compiled : List.Forall₂
        (fun entry e => g.filterContext.compileColumn entry.1 entry.2 = .ok e)
        (entries.filter fun entry => !g.namesPivotColumn r entry.1) predicates) :
      Restricts g r keys (some (.columns entries))
        { rows := keys ++ g.freePredicates r ++ predicates
          pivots := entries.filter fun entry => g.namesPivotColumn r entry.1 }

/-- No request that pivots leaves its filters out or applies them to groups. -/
theorem levelFiltering_of_pivoting (pivoting : r.isPivoting = true) (model : Option FilterModel) :
    g.levelFiltering r model = .direct := by
  unfold levelFiltering
  rw [if_pos (by simp [pivoting])]

theorem Restricts.of_pivoting {keys : List Expr} {entries : ColumnFilters}
    {filters : LevelFilters} (h : Restricts g r keys (some (.columns entries)) filters)
    (pivoting : r.isPivoting = true) :
    ∃ predicates, List.Forall₂
        (fun entry e => g.filterContext.compileColumn entry.1 entry.2 = .ok e)
        (entries.filter fun entry => !g.namesPivotColumn r entry.1) predicates ∧
      filters =
        { rows := keys ++ g.freePredicates r ++ predicates
          pivots := entries.filter fun entry => g.namesPivotColumn r entry.1 } := by
  have direct := levelFiltering_of_pivoting (g := g) pivoting (some (.columns entries))
  cases h with
  | suppressed level => rw [direct] at level; cases level
  | aggregated level => rw [direct] at level; cases level
  | columns _ compiled => exact ⟨_, compiled, rfl⟩

theorem Restricts.forall_rows {C : Expr → Prop} {keys : List Expr} {model : Option FilterModel}
    {filters : LevelFilters} (h : Restricts g r keys model filters) (onKeys : ∀ e ∈ keys, C e)
    (free : ∀ e ∈ g.freePredicates r, C e)
    (groups : ∀ entries e, g.levelFiltering r model = .aggregated entries →
      g.groupAggregatePredicate r entries = .ok e → C e)
    (advanced : ∀ filter e, g.filterContext.compileAdvanced filter = .ok e → C e)
    (columns : ∀ field filter e, g.filterContext.compileColumn field filter = .ok e → C e) :
    ∀ e ∈ filters.rows, C e := by
  have front := List.forall_mem_append.2 ⟨onKeys, free⟩
  cases h with
  | suppressed => exact onKeys
  | aggregated level compiled =>
      exact List.forall_mem_append.2
        ⟨onKeys, List.forall_mem_singleton.2 (groups _ _ level compiled)⟩
  | unfiltered => exact front
  | advanced _ compiled =>
      exact List.forall_mem_append.2 ⟨front, List.forall_mem_singleton.2 (advanced _ _ compiled)⟩
  | columns _ compiled =>
      refine List.forall_mem_append.2 ⟨front, fun e he => ?_⟩
      obtain ⟨entry, -, hentry⟩ := exists_of_mem_right compiled he
      exact columns _ _ e hentry

theorem directFilters_ok {keys : List Expr} {vs : Violations} {model : Option FilterModel}
    {filters : LevelFilters} (level : g.levelFiltering r model = .direct)
    (h : g.directFilters r (keys ++ g.freePredicates r) vs model = .ok filters) :
    vs = [] ∧ Restricts g r keys model filters := by
  unfold directFilters at h
  split at h
  · obtain ⟨hvs, rfl⟩ := Violations.finish_ok_iff.1 h
    exact ⟨hvs, .unfiltered level⟩
  · next filter =>
      obtain ⟨⟨predicate?, found⟩, htake, h⟩ := bind_ok_iff.1 h
      obtain ⟨rfl, rfl⟩ := Violations.finish_ok_iff.1 h
      obtain ⟨hvs, predicate, hpredicate, rfl⟩ :=
        Violations.take_ok (FilterContext.explained_compileAdvanced _ filter) htake
      exact ⟨hvs, .advanced level hpredicate⟩
  · next entries =>
      rw [List.partition_eq_filter_filter] at h
      obtain ⟨⟨predicates, found⟩, htake, h⟩ := bind_ok_iff.1 h
      obtain ⟨rfl, rfl⟩ := Violations.finish_ok_iff.1 h
      obtain ⟨hvs, hpredicates⟩ :=
        Violations.takeAll_ok (fun entry : String × ColumnFilter =>
          ColumnFilter.explained_compile _ _ entry.2) htake
      exact ⟨hvs, .columns level hpredicates⟩

theorem levelFiltering_aggregated {model : Option FilterModel} {entries : ColumnFilters}
    (h : g.levelFiltering r model = .aggregated entries) :
    g.settings.grid.filterAggregates = true ∧ r.isGrouping = true ∧ r.isPivoting = false ∧
      model = some (.columns entries) ∧
        ∃ c ∈ r.valueCols, ∃ entry ∈ entries, entry.1 = c.field := by
  have noUsual (h : (if g.settings.grid.suppressesGroupFilters then LevelFiltering.suppressed
      else .direct) = .aggregated entries) : False := by
    split at h <;> cases h
  unfold levelFiltering at h
  dsimp only at h
  split at h
  · cases h
  · next hdirect =>
      have level : r.isGrouping = true ∧ r.isPivoting = false := by simpa using hdirect
      split at h
      · split at h
        · next decided =>
            cases h
            obtain ⟨enabled, found⟩ := Bool.and_eq_true_iff.1 decided
            obtain ⟨entry, hentry, found⟩ := List.any_eq_true.1 found
            obtain ⟨c, hc, keyed⟩ := List.any_eq_true.1 found
            exact ⟨enabled, level.1, level.2, rfl, c, hc, entry, hentry,
              (of_decide_eq_true keyed).symm⟩
        · exact (noUsual h).elim
      · exact (noUsual h).elim

theorem levelFilters_ok {filters : LevelFilters} (h : g.levelFilters r = .ok filters) :
    g.unknownAggregate? r = none ∧ g.violations r = [] ∧
      ∃ model keys, g.filterModel r = .ok model ∧
        groupKeyPredicates r g.source.fieldType = .ok keys ∧
        Restricts g r keys model filters := by
  obtain ⟨⟨valid?, vs₁⟩, hvalid, h⟩ := bind_ok_iff.1 h
  obtain ⟨⟨model?, vs₂⟩, hmodel, h⟩ := bind_ok_iff.1 h
  obtain ⟨⟨keys?, vs₃⟩, hkeys, h⟩ := bind_ok_iff.1 h
  -- Without violations in the end every step has succeeded.
  have steps (hvs : vs₃ = []) :
      g.unknownAggregate? r = none ∧ g.violations r = [] ∧
        ∃ model keys, g.filterModel r = .ok model ∧ model? = some model ∧
          groupKeyPredicates r g.source.fieldType = .ok keys ∧ keys? = some keys := by
    subst hvs
    obtain ⟨rfl, keys, hkeysOk, rfl⟩ :=
      Violations.take_ok (Violations.explained_finish _ _) hkeys
    obtain ⟨rfl, model, hmodelOk, rfl⟩ := Violations.take_ok explained_filterModel hmodel
    obtain ⟨-, ⟨⟩, hvalidOk, -⟩ := Violations.take_ok explained_validate hvalid
    obtain ⟨hknown, hviolations⟩ := validate_ok_iff.1 hvalidOk
    exact ⟨hknown, hviolations, model, keys, hmodelOk, rfl, hkeysOk, rfl⟩
  dsimp only at h
  split at h
  · next level =>
      obtain ⟨hvs, rfl⟩ := Violations.finish_ok_iff.1 h
      obtain ⟨hknown, hviolations, model, keys, hmodelOk, rfl, hkeysOk, rfl⟩ := steps hvs
      exact ⟨hknown, hviolations, model, keys, hmodelOk, hkeysOk, .suppressed level⟩
  · next entries level =>
      split at h
      · next hempty =>
          obtain ⟨hknown, hviolations, model, keys, hmodelOk, rfl, hkeysOk, rfl⟩ :=
            steps (List.isEmpty_iff.1 hempty)
          obtain ⟨predicate, hpredicate, h⟩ := bind_ok_iff.1 h
          cases h
          exact ⟨hknown, hviolations, model, keys, hmodelOk, hkeysOk, .aggregated level hpredicate⟩
      · next hnonempty =>
          obtain ⟨hvs, -⟩ := Violations.finish_ok_iff.1 h
          exact absurd (List.isEmpty_iff.2 hvs) hnonempty
  · next level =>
      obtain ⟨hvs, restricts⟩ := directFilters_ok level h
      obtain ⟨hknown, hviolations, model, keys, hmodelOk, rfl, hkeysOk, rfl⟩ := steps hvs
      exact ⟨hknown, hviolations, model, keys, hmodelOk, hkeysOk, restricts⟩

/-! ## Plans -/

def selectOf (r : Request) (level : GroupingPlan) (pivot : PivotContext) : List SelectItem :=
  if pivot.isEmpty then level.select
  else (if r.isGrouping then level.select else []) ++ pivot.selectItems

/-- A level of groups shows its generated columns, if there are any, behind its own items. -/
theorem selectOf_of_grouping (grouping : r.isGrouping = true) (level : GroupingPlan)
    (pivot : PivotContext) :
    selectOf r level pivot = level.select ++ pivot.selectItems := by
  rw [selectOf, if_pos grouping]
  split
  · next empty =>
      rw [PivotContext.selectItems, List.isEmpty_iff.1 empty, List.map_nil, List.append_nil]
  · rfl

theorem plan_ok {p : RequestPlan} (h : g.plan r = .ok p) :
    ∃ filters level, g.levelFilters r = .ok filters ∧ g.pivotContext r = .ok p.pivot ∧
      GroupingPlan.ofRequest r g.aggregates g.columns.fields (g.childCountName? r) = .ok level ∧
      g.pivotPredicates p.pivot filters.pivots = .ok p.having ∧
      p.select = selectOf r level p.pivot ∧ p.groupBy = level.groupBy ∧
      p.rows = filters.rows := by
  obtain ⟨filters, hfilters, h⟩ := bind_ok_iff.1 h
  obtain ⟨pivot, hpivot, h⟩ := bind_ok_iff.1 h
  obtain ⟨level, hlevel, h⟩ := bind_ok_iff.1 h
  obtain ⟨having_, hhaving, h⟩ := bind_ok_iff.1 h
  cases h
  exact ⟨filters, level, hfilters, hpivot, hlevel, hhaving, rfl, rfl, rfl⟩

theorem exists_of_advanced {p : RequestPlan} (accepted : g.plan r = .ok p)
    {filter : AdvancedFilter} (recognized : g.filterModel r = .ok (some (.advanced filter)))
    (level : g.levelFiltering r (some (.advanced filter)) = .direct) :
    ∃ e, g.filterContext.compileAdvanced filter = .ok e ∧ e ∈ p.rows := by
  obtain ⟨filters, -, hfilters, -, -, -, -, -, hrows⟩ := plan_ok accepted
  obtain ⟨-, -, model, keys, hmodel, -, restricts⟩ := levelFilters_ok hfilters
  rw [recognized] at hmodel
  cases hmodel
  cases restricts with
  | suppressed level' => rw [level] at level'; cases level'
  | aggregated level' => rw [level] at level'; cases level'
  | advanced level' compiled =>
      refine ⟨_, compiled, ?_⟩
      rw [hrows]
      exact List.mem_append_right _ List.mem_cons_self

end Grid

end GridSql
