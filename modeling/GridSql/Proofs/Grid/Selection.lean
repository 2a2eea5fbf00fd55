import GridSql.Proofs.Filter.TruthValues
import GridSql.Proofs.Grid.Planned
import GridSql.Proofs.Plan.GroupKeys

/-!
# The rows that a request selects

Where filters apply directly, the rows of a level are those that have the keys of the
expanded groups and pass the filters. Expanding one more group leaves the filters as they
are and adds the predicate of its key, so it selects the rows of the level before whose
cells hold what the key is read as.
-/

namespace GridSql

theorem Request.isGrouping_of_column {r : Request} {c : ColumnRef}
    (hc : r.rowGroupCols[r.groupKeys.length]? = some c) :
    r.isGrouping = true := by
  obtain ⟨more, -⟩ := List.getElem?_eq_some_iff.1 hc
  simpa [Request.isGrouping] using more

namespace Grid

variable {g : Grid} {r : Request}

/-- The rows of the source that pass the group keys and the filters of a request. -/
def selected (g : Grid) (r : Request) : Except QueryError (List Row) := do
  let p ← g.plan r
  (g.source.matched (Table.whereClause p.rows)).mapError .source

theorem selected_ok_iff {rows : List Row} :
    g.selected r = .ok rows ↔
      ∃ p, g.plan r = .ok p ∧ g.source.matched (Table.whereClause p.rows) = .ok rows := by
  unfold selected
  rw [bind_ok_iff]
  simp only [mapError_ok_iff]

theorem selected_iff_matched {p : RequestPlan} (accepted : g.plan r = .ok p) {rows : List Row} :
    g.selected r = .ok rows ↔ g.source.matched (Table.whereClause p.rows) = .ok rows := by
  rw [selected_ok_iff, accepted]
  simp only [Except.ok.injEq, exists_eq_left']

/-! ## Hooks -/

/-- Whether the hooks of the server make predicates that have truth values. -/
structure HooksTruthful (g : Grid) : Prop where
  external : ∀ hook, g.externalFilter = some hook → ∀ payload e, hook payload = some e →
    g.source.Truthful e
  quick : ∀ matcher, g.quickFilter.matcher = some matcher → ∀ words columns,
    g.source.Truthful (matcher words columns)
  text : ∀ field, FilterRules.MatchersTruthful g.source (g.columns.rulesFor field)

/-- A server without hooks has nothing to keep to. -/
theorem hooksTruthful_of_none (external : g.externalFilter = none)
    (quick : g.quickFilter.matcher = none)
    (text : ∀ field, ∀ all ∈ g.columns.rulesFor field, ∀ own,
      FilterRules.Within (.text own) all → own.matcher = none) :
    g.HooksTruthful where
  external := by
    intro hook h
    rw [external] at h
    cases h
  quick := by
    intro matcher h
    rw [quick] at h
    cases h
  text := by
    intro field all hall own matcher within h
    rw [text field all hall own within] at h
    cases h

/-- What restricts the rows beside the filter model is made by a hook or is the quick filter. -/
theorem mem_freePredicates {e : Expr} (h : e ∈ g.freePredicates r) :
    (∃ hook payload, g.externalFilter = some hook ∧ hook payload = some e) ∨
      ∃ text, g.quickFilter.predicate text g.quickColumns = some e := by
  rcases List.mem_append.1 h with h | h
  · obtain ⟨hook, hhook, h⟩ := Option.bind_eq_some_iff.1 (Option.mem_toList.1 h)
    obtain ⟨payload, -, h⟩ := Option.bind_eq_some_iff.1 h
    split at h
    · cases h
    · exact .inl ⟨hook, payload, hhook, h⟩
  · obtain ⟨text, -, h⟩ := Option.bind_eq_some_iff.1 (Option.mem_toList.1 h)
    exact .inr ⟨text, h⟩

theorem truthful_freePredicates (hooks : g.HooksTruthful) :
    ∀ e ∈ g.freePredicates r, g.source.Truthful e := by
  intro e he
  rcases mem_freePredicates he with ⟨hook, payload, hhook, he⟩ | ⟨text, he⟩
  · exact hooks.external hook hhook payload e he
  · exact (Table.filterForms_truthful _).quick (fun _ => trivial) (TextForm.fits_true _)
      (fun matcher hmatcher _ _ _ _ => hooks.quick matcher hmatcher _ _) he

/-! ## Filters that apply directly -/

theorem levelFiltering_direct (direct : g.settings.grid.suppressesGroupFilters = false)
    (model : Option FilterModel) :
    g.levelFiltering r model = .direct := by
  have aggregates : g.settings.grid.filterAggregates = false := by
    unfold GridSettings.suppressesGroupFilters at direct
    exact (Bool.or_eq_false_iff.1 direct).1
  unfold levelFiltering
  simp only [direct, aggregates, Bool.false_and, Bool.false_eq_true, if_false]
  split
  · rfl
  · split <;> rfl

/-- The filters of an accepted model are put behind the predicates before them. -/
theorem directFilters_append {before : List Expr} {model : Option FilterModel}
    {filters : LevelFilters} (hooks : g.HooksTruthful)
    (h : g.directFilters r before [] model = .ok filters) :
    ∃ own, filters.rows = before ++ own ∧ (∀ e ∈ own, g.source.Truthful e) ∧
      ∀ before', g.directFilters r before' [] model =
        .ok { filters with rows := before' ++ own } := by
  unfold directFilters at h ⊢
  split at h
  · obtain ⟨-, rfl⟩ := Violations.finish_ok_iff.1 h
    refine ⟨[], by simp, by simp, fun before' => ?_⟩
    simp [Violations.finish]
  · next filter =>
      obtain ⟨⟨predicate?, vs⟩, htake, h⟩ := bind_ok_iff.1 h
      obtain ⟨rfl, rfl⟩ := Violations.finish_ok_iff.1 h
      obtain ⟨-, predicate, hpredicate, rfl⟩ :=
        Violations.take_ok (FilterContext.explained_compileAdvanced _ filter) htake
      refine ⟨[predicate], rfl, ?_, fun before' => bind_ok_iff.2 ⟨_, htake, rfl⟩⟩
      intro e he
      cases List.mem_singleton.1 he
      exact FilterContext.truthful_compileAdvanced hooks.text hpredicate
  · next entries =>
      rw [List.partition_eq_filter_filter] at h ⊢
      obtain ⟨⟨predicates, vs⟩, htake, h⟩ := bind_ok_iff.1 h
      obtain ⟨rfl, rfl⟩ := Violations.finish_ok_iff.1 h
      refine ⟨predicates, rfl, ?_, fun before' => bind_ok_iff.2 ⟨_, htake, rfl⟩⟩
      obtain ⟨-, hpredicates⟩ :=
        Violations.takeAll_ok (fun entry : String × ColumnFilter =>
          ColumnFilter.explained_compile _ _ entry.2) htake
      intro e he
      obtain ⟨entry, -, hentry⟩ := exists_of_mem_right hpredicates he
      exact ColumnFilter.truthful_compile (hooks.text entry.1) hentry

theorem levelFilters_of_level {model : Option FilterModel} {keys : List Expr}
    (level : g.levelFiltering r model = .direct)
    (valid : g.validate r = .ok ()) (hmodel : g.filterModel r = .ok model)
    (hkeys : groupKeyPredicates r g.source.fieldType = .ok keys) :
    g.levelFilters r = g.directFilters r (keys ++ g.freePredicates r) [] model := by
  unfold levelFilters
  simp only [valid, hmodel, hkeys, Violations.take, bind, Except.bind]
  have joined : (some model).join = model := rfl
  rw [joined, level]
  rfl

theorem levelFilters_of_ok {model : Option FilterModel} {keys : List Expr}
    (direct : g.settings.grid.suppressesGroupFilters = false)
    (valid : g.validate r = .ok ()) (hmodel : g.filterModel r = .ok model)
    (hkeys : groupKeyPredicates r g.source.fieldType = .ok keys) :
    g.levelFilters r = g.directFilters r (keys ++ g.freePredicates r) [] model :=
  levelFilters_of_level (levelFiltering_direct direct model) valid hmodel hkeys

/-! ## Expanding one more group -/

theorem validate_expand (grouping : r.isGrouping = true) (h : g.validate r = .ok ())
    (key : Json) :
    g.validate (r.expand key) = .ok () := by
  obtain ⟨known, valid⟩ := validate_ok_iff.1 h
  have more : r.groupKeys.length < r.rowGroupCols.length := by
    simpa [Request.isGrouping] using grouping
  have windows : windowFaults (r.expand key) = windowFaults r := by
    have before : ¬ r.rowGroupCols.length < r.groupKeys.length := by omega
    have after : ¬ r.rowGroupCols.length < (r.groupKeys ++ [key]).length := by
      simp
      omega
    unfold windowFaults Request.expand
    dsimp only
    rw [if_neg before, if_neg after]
  have same : g.violations (r.expand key) = g.violations r := by
    unfold violations
    rw [windows]
    rfl
  exact validate_ok_iff.2 ⟨known, same.trans valid⟩

def HasLevel (g : Grid) (r : Request) (p : RequestPlan) : Prop :=
  GroupingPlan.ofRequest r g.aggregates g.columns.fields (g.childCountName? r) =
    .ok ⟨p.select, p.groupBy⟩

theorem valueItems_of_plan {level : GroupingPlan} {projection : List String}
    {childCount : Option String} (grouping : r.isGrouping = true)
    (notPivoting : r.isPivoting = false)
    (h : GroupingPlan.ofRequest r g.aggregates projection childCount = .ok level) :
    ∃ values, GroupingPlan.valueItems g.aggregates r.valueCols = .ok values ∧
      level.select = r.activeGroupCols.map (fun c => ⟨.col c.field, none⟩) ++
        (childCount.map fun name => (⟨Expr.countRows, some name⟩ : SelectItem)).toList ++ values ∧
      level.groupBy = (r.activeGroupCols.map (·.field)).map .col := by
  unfold GroupingPlan.ofRequest at h
  rw [if_pos grouping, notPivoting] at h
  obtain ⟨values, hvalues, h⟩ := bind_ok_iff.1 h
  cases h
  refine ⟨values, hvalues, ?_, ?_⟩
  · simp [List.map_map, Function.comp_def]
  · simp [List.map_map, Function.comp_def]

theorem ofRequest_expand_isOk {level : GroupingPlan} {projection : List String}
    {childCount : Option String} (grouping : r.isGrouping = true)
    (notPivoting : r.isPivoting = false)
    (h : GroupingPlan.ofRequest r g.aggregates projection childCount = .ok level)
    (key : Json) (childCount' : Option String) :
    ∃ level', GroupingPlan.ofRequest (r.expand key) g.aggregates projection childCount' =
      .ok level' := by
  obtain ⟨values, hvalues, -⟩ := valueItems_of_plan grouping notPivoting h
  have hvalues' : GroupingPlan.valueItems g.aggregates (r.expand key).valueCols = .ok values :=
    hvalues
  have notPivoting' : (r.expand key).isPivoting = false := notPivoting
  unfold GroupingPlan.ofRequest
  split
  · rw [notPivoting']
    exact ⟨_, bind_ok_iff.2 ⟨values, hvalues', rfl⟩⟩
  · exact ⟨_, rfl⟩

theorem pivotContext_of_not (notPivoting : r.isPivoting = false) :
    g.pivotContext r = .ok {} := by
  unfold pivotContext
  rw [notPivoting]
  rfl

theorem pivotPredicates_none (entries : ColumnFilters) :
    g.pivotPredicates {} entries = .ok [] := by
  induction entries with
  | nil => rfl
  | cons entry entries ih => exact ih

theorem having_of_not (notPivoting : r.isPivoting = false) {p : RequestPlan}
    (h : g.plan r = .ok p) :
    p.having = [] := by
  obtain ⟨filters, _, -, hpivot, -, hhaving, -, -, -⟩ := plan_ok h
  rw [pivotContext_of_not notPivoting, Except.ok.injEq] at hpivot
  rw [← hpivot, pivotPredicates_none, Except.ok.injEq] at hhaving
  exact hhaving.symm

theorem plan_of_not (notPivoting : r.isPivoting = false) {filters : LevelFilters}
    (hfilters : g.levelFilters r = .ok filters) {level : GroupingPlan}
    (hlevel : GroupingPlan.ofRequest r g.aggregates g.columns.fields (g.childCountName? r) =
      .ok level) :
    g.plan r = .ok ⟨level.select, level.groupBy, filters.rows, [], {}⟩ :=
  bind_ok_iff.2 ⟨_, hfilters, bind_ok_iff.2 ⟨_, pivotContext_of_not notPivoting,
    bind_ok_iff.2 ⟨level, hlevel, bind_ok_iff.2 ⟨[], pivotPredicates_none _, rfl⟩⟩⟩⟩

/--
A request without pivots that all filters restrict, at the group levels too. Its group
columns have a known type.
-/
structure Direct (g : Grid) (r : Request) : Prop where
  typed : g.source.WellTyped
  known : ∀ c ∈ r.rowGroupCols, g.source.fieldType c.field ≠ .other
  filtered : g.settings.grid.suppressesGroupFilters = false
  hooks : g.HooksTruthful
  notPivoting : r.isPivoting = false

theorem Direct.expand (direct : g.Direct r) (key : Json) : g.Direct (r.expand key) :=
  ⟨direct.typed, direct.known, direct.filtered, direct.hooks, direct.notPivoting⟩

/-- The parts of an accepted plan whose filters apply directly. -/
theorem plan_direct (direct : g.Direct r) {p : RequestPlan} (h : g.plan r = .ok p) :
    p.having = [] ∧ p.pivot = {} ∧ g.HasLevel r p ∧
      ∃ keys own, groupKeyPredicates r g.source.fieldType = .ok keys ∧ p.rows = keys ++ own ∧
        (∀ e ∈ own, g.source.Truthful e) ∧ ∀ key keys', r.isGrouping = true →
          groupKeyPredicates (r.expand key) g.source.fieldType = .ok keys' →
            ∃ p', g.plan (r.expand key) = .ok p' ∧ p'.rows = keys' ++ own := by
  obtain ⟨filters, level, hfilters, hpivot, hlevel, hhaving, hselect, hgroupBy, hrows⟩ := plan_ok h
  obtain ⟨known, valid, model, keys, hmodel, hkeys, -⟩ := levelFilters_ok hfilters
  have validated : g.validate r = .ok () := validate_ok_iff.2 ⟨known, valid⟩
  rw [levelFilters_of_ok direct.filtered validated hmodel hkeys] at hfilters
  obtain ⟨own, hown, truthful, again⟩ := directFilters_append direct.hooks hfilters
  rw [pivotContext_of_not direct.notPivoting, Except.ok.injEq] at hpivot
  rw [← hpivot] at hhaving hselect
  rw [pivotPredicates_none, Except.ok.injEq] at hhaving
  refine ⟨hhaving.symm, hpivot.symm, ?_, keys, g.freePredicates r ++ own, hkeys, ?_, ?_, ?_⟩
  · rw [HasLevel, hlevel, hselect, hgroupBy]
    rfl
  · rw [hrows, hown, List.append_assoc]
  · intro e he
    rcases List.mem_append.1 he with he | he
    · exact truthful_freePredicates direct.hooks e he
    · exact truthful e he
  · intro key keys' grouping hkeys'
    have hfilters' := levelFilters_of_ok direct.filtered (validate_expand grouping validated key)
      (hmodel : g.filterModel (r.expand key) = .ok model) hkeys'
    have hrows' : g.directFilters (r.expand key) (keys' ++ g.freePredicates (r.expand key)) []
        model = _ := again (keys' ++ g.freePredicates r)
    rw [hrows'] at hfilters'
    obtain ⟨level', hlevel'⟩ := ofRequest_expand_isOk grouping direct.notPivoting hlevel key
      (g.childCountName? (r.expand key))
    refine ⟨_, plan_of_not (r := r.expand key) direct.notPivoting hfilters' hlevel', ?_⟩
    dsimp only
    rw [List.append_assoc]

/-! ## Rows of one more group -/

theorem keyPredicate_of_mem (direct : g.Direct r) {keys : List Expr}
    (hkeys : groupKeyPredicates r g.source.fieldType = .ok keys) :
    List.Forall₂ (fun group e => g.source.IsPlain e ∧
      ∃ k, keyContent? (g.source.fieldType group.1.1.field) group.1.2 = some k ∧
        ∀ row ∈ g.source.rows,
          g.source.Decides (.row row) e ((row.cell group.1.1.field).content? = some k))
      r.keyedGroups keys := by
  refine forall₂_imp_of_mem (groupKeyPredicates_ok_iff.1 hkeys) fun group hgroup e _ he => ?_
  obtain ⟨pair, _⟩ := group
  have hpair : pair ∈ r.rowGroupCols.zip r.groupKeys := List.fst_mem_of_mem_zipIdx hgroup
  have known := direct.known _ (List.of_mem_zip hpair).1
  exact groupKeyPredicate_ok (fun row hrow => direct.typed.hasType hrow known) known he

theorem truthful_rows (direct : g.Direct r) {p : RequestPlan} (h : g.plan r = .ok p) :
    ∀ e ∈ p.rows, g.source.Truthful e := by
  obtain ⟨-, -, -, keys, own, hkeys, hrows, truthful, -⟩ := plan_direct direct h
  intro e he
  rw [hrows] at he
  rcases List.mem_append.1 he with he | he
  · obtain ⟨_, -, plain, _, -, decides⟩ :=
      exists_of_mem_right (keyPredicate_of_mem direct hkeys) he
    exact .of_decides plain decides
  · exact truthful e he

theorem content_of_selected (direct : g.Direct r) {kept : List Row}
    (h : g.selected r = .ok kept) {row : Row} (hrow : row ∈ kept) :
    row ∈ g.source.rows ∧ ∀ group ∈ r.keyedGroups, (row.cell group.1.1.field).content? =
      keyContent? (g.source.fieldType group.1.1.field) group.1.2 := by
  obtain ⟨p, hp, hmatched⟩ := selected_ok_iff.1 h
  have truthful := truthful_rows direct hp
  have single : ∀ e, p.rows = [e] → g.source.Truthful e := by
    intro e he
    exact truthful e (by simp [he])
  obtain ⟨hmem, holds⟩ := Table.hasTruth_of_mem_matched single hmatched hrow
  obtain ⟨-, -, -, keys, own, hkeys, hrows, -, -⟩ := plan_direct direct hp
  refine ⟨hmem, fun group hgroup => ?_⟩
  obtain ⟨e, he, plain, k, hk, decides⟩ :=
    exists_of_mem_left (keyPredicate_of_mem direct hkeys) hgroup
  obtain ⟨b, hb, hP⟩ := (decides row hmem).hasTruth plain
  have htrue := hb.unique (holds e (by rw [hrows]; exact List.mem_append_left own he))
  rw [hk]
  exact hP.1 htrue

/--
Expanding a group selects the rows of the level whose cells hold what the key is read
as, and it is refused exactly if the key cannot be read.
-/
theorem selected_expand_iff (direct : g.Direct r) {c : ColumnRef}
    (hc : r.rowGroupCols[r.groupKeys.length]? = some c) {kept : List Row}
    (h : g.selected r = .ok kept) {key : Json} {rows : List Row} :
    g.selected (r.expand key) = .ok rows ↔
      ∃ k, keyContent? (g.source.fieldType c.field) key = some k ∧
        rows = kept.filter fun row => (row.cell c.field).content? = some k := by
  obtain ⟨p, hp, hmatched⟩ := selected_ok_iff.1 h
  have truthful := truthful_rows direct hp
  obtain ⟨-, -, -, keys, own, hkeys, hrows, -, again⟩ := plan_direct direct hp
  have hknown := direct.known c (List.mem_of_getElem? hc)
  have expanded {e : Expr}
      (he : groupKeyPredicate g.source.fieldType r.groupKeys.length c key = .ok e) :
      ∃ k, keyContent? (g.source.fieldType c.field) key = some k ∧
        g.selected (r.expand key) =
          .ok (kept.filter fun row => (row.cell c.field).content? = some k) := by
    obtain ⟨plain, k, hk, decides⟩ :=
      groupKeyPredicate_ok (fun row hrow => direct.typed.hasType hrow hknown) hknown he
    have hkeys' := (groupKeyPredicates_expand_iff hc hkeys).2 ⟨e, he, rfl⟩
    obtain ⟨p', hp', hrows'⟩ := again key _ (Request.isGrouping_of_column hc) hkeys'
    refine ⟨k, hk, selected_ok_iff.2 ⟨p', hp', ?_⟩⟩
    have inserted : p'.rows = keys ++ e :: own := by
      rw [hrows', List.append_assoc]
      rfl
    rw [inserted]
    rw [hrows] at hmatched truthful
    refine Table.matched_insert (fun f hf => truthful f ?_) plain decides hmatched
    rw [hf]
    exact List.mem_singleton_self f
  constructor
  · intro h'
    obtain ⟨p', hp', -⟩ := selected_ok_iff.1 h'
    obtain ⟨-, -, -, keys', -, hkeys', -⟩ := plan_direct (direct.expand key) hp'
    obtain ⟨e, he, -⟩ := (groupKeyPredicates_expand_iff hc hkeys).1 hkeys'
    obtain ⟨k, hk, hrows'⟩ := expanded he
    rw [hrows', Except.ok.injEq] at h'
    exact ⟨k, hk, h'.symm⟩
  · rintro ⟨k, hk, rfl⟩
    obtain ⟨e, he⟩ := groupKeyPredicate_isOk_iff.2 ⟨k, hk⟩
    obtain ⟨k', hk', hrows'⟩ := expanded he
    rw [hk, Option.some.injEq] at hk'
    rw [hrows', hk']

end Grid

end GridSql
