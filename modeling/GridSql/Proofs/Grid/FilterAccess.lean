import GridSql.Proofs.Grid.Planned

/-!
# Which columns a request may filter

The server registers columns and may switch their filters off. Filters of columns are
checked against the registry, those on the aggregates of value columns too. The
conditions of an advanced filter are not, and of a generated column only the value
column's registration is.
-/

namespace GridSql

/-- Whether a column is registered and can be filtered. -/
def ColumnRegistry.AllowsFilter (columns : ColumnRegistry) (field : String) : Prop :=
  ∃ d, columns.get? field = some d ∧ d.filter ≠ none

namespace Grid

variable {g : Grid} {r : Request} {p : RequestPlan}

/-- The columns on which the filter model of a request puts a predicate of its plan. -/
inductive FiltersColumn (g : Grid) (r : Request) (p : RequestPlan) : String → Prop where
  /-- The filter of a column restricts the rows. -/
  | own {entries : ColumnFilters} {id : String} {f : ColumnFilter} {e : Expr}
      (recognized : g.filterModel r = .ok (some (.columns entries)))
      (level : g.levelFiltering r (some (.columns entries)) = .direct)
      (entry : (id, f) ∈ entries) (isOwn : g.namesPivotColumn r id = false)
      (compiled : g.filterContext.compileColumn id f = .ok e) (placed : e ∈ p.rows) :
      FiltersColumn g r p id
  /-- The filter of a value column decides which groups are kept. -/
  | aggregated {model : Option FilterModel} {entries : ColumnFilters} {c : ColumnRef}
      {f : ColumnFilter} {e : Expr} (recognized : g.filterModel r = .ok model)
      (level : g.levelFiltering r model = .aggregated entries)
      (entry : (c, f) ∈ valueFilters r entries)
      (compiled : g.groupAggregatePredicate r entries = .ok e) (placed : e ∈ p.rows) :
      FiltersColumn g r p c.field
  /-- A condition of an advanced filter restricts the rows. -/
  | advanced {filter : AdvancedFilter} {id : String} {e : Expr}
      (recognized : g.filterModel r = .ok (some (.advanced filter)))
      (level : g.levelFiltering r (some (.advanced filter)) = .direct)
      (condition : id ∈ filter.columnIds)
      (compiled : g.filterContext.compileAdvanced filter = .ok e) (placed : e ∈ p.rows) :
      FiltersColumn g r p id
  /-- The filter of a generated column restricts the groups by an aggregate. -/
  | generated {entries : ColumnFilters} {id : String} {f : ColumnFilter} {e predicate : Expr}
      (recognized : g.filterModel r = .ok (some (.columns entries))) (entry : (id, f) ∈ entries)
      (isGenerated : g.namesPivotColumn r id = true) (aggregate : p.pivot.expression? id = some e)
      (compiled : f.compile
        { label := s!"filterModel.{id}", expr := e
          type := g.source.fieldType (valueField id p.pivot.separator) }
        (g.columns.rulesFor (valueField id p.pivot.separator)) = .ok predicate)
      (placed : predicate ∈ p.having) :
      FiltersColumn g r p (valueField id p.pivot.separator)

/-! ## What validation has checked -/

theorem filterUses_of_violations (h : g.violations r = []) :
    g.filterUses r = [] ∧ g.valueUses r.valueCols = [] := by
  simp only [violations, List.append_eq_nil_iff] at h
  exact ⟨h.2, h.1.1.1.1.2⟩

theorem mem_of_columnFilters {rs : Recognizers} {vs found : Violations} {payload : Payload}
    {entries : ColumnFilters} (h : rs.columnFilters vs payload = .ok (entries, found))
    {entry : String × ColumnFilter} (hentry : entry ∈ entries) :
    ∃ j, (entry.1, j) ∈ payload := by
  induction payload generalizing vs found entries with
  | nil =>
      cases h
      cases hentry
  | cons member rest ih =>
      unfold Recognizers.columnFilters at h
      split at h
      · next heq => cases heq
      · next id payload rest' heq =>
          cases heq
          obtain ⟨⟨filter?, vs'⟩, -, h⟩ := bind_ok_iff.1 h
          obtain ⟨⟨others, vs''⟩, hrest, h⟩ := bind_ok_iff.1 h
          cases h
          rcases List.mem_append.1 hentry with hfirst | hothers
          · obtain ⟨f, -, rfl⟩ : ∃ f, filter? = some f ∧ (id, f) = entry := by
              simpa using hfirst
            exact ⟨_, List.mem_cons_self⟩
          · obtain ⟨j, hj⟩ := ih hrest hothers
            exact ⟨j, List.mem_cons_of_mem _ hj⟩
      · next heq =>
          cases heq
          obtain ⟨j, hj⟩ := ih h hentry
          exact ⟨j, List.mem_cons_of_mem _ hj⟩

/-- A model of columns was read from the members of an object, none of which is in fault. -/
theorem exists_members_of_columns {entries : ColumnFilters}
    (recognized : g.filterModel r = .ok (some (.columns entries))) :
    ∃ members, r.filterModel = some (.object members) ∧
      Recognizers.isColumnKeyed members = true ∧
      g.recognizers.columnFilters [] members = .ok (entries, []) := by
  unfold filterModel at recognized
  split at recognized
  · next payload hpayload =>
      split at recognized
      · obtain ⟨found, hfound, hmodel⟩ := map_ok_iff.1 recognized
        cases hmodel
        unfold Recognizers.recognize at hfound
        split at hfound
        · next members =>
            split at hfound
            · next keyed =>
                obtain ⟨⟨_, vs⟩, hcolumns, hfinish⟩ := bind_ok_iff.1 hfound
                obtain ⟨rfl, hentries⟩ := Violations.finish_ok_iff.1 hfinish
                cases hentries
                exact ⟨members, hpayload, keyed, hcolumns⟩
            · obtain ⟨_, -, hadvanced⟩ := map_ok_iff.1 hfound
              cases hadvanced
        · cases hfound
      · cases recognized
  · cases recognized

theorem filterUse_of_entry (valid : g.violations r = []) {entries : ColumnFilters}
    (model : g.filterModel r = .ok (some (.columns entries)))
    {entry : String × ColumnFilter} (hentry : entry ∈ entries) :
    g.filterUse r entry.1 = [] := by
  have huses := (filterUses_of_violations valid).1
  obtain ⟨members, hmembers, keyed, hcolumns⟩ := exists_members_of_columns model
  obtain ⟨j, hj⟩ := mem_of_columnFilters hcolumns hentry
  simp only [filterUses, hmembers, keyed, if_true, List.flatMap_eq_nil_iff] at huses
  exact huses (entry.1, j) hj

theorem knows_iff (registered : g.columns.isEmpty = false) (field : String) :
    g.columns.knows field = true ↔ ∃ d, g.columns.get? field = some d := by
  simp [ColumnRegistry.knows_eq, registered, Option.isSome_iff_exists]

theorem allowsFilter_of_filterUse (registered : g.columns.isEmpty = false) {field : String}
    (isOwn : g.namesPivotColumn r field = false) (h : g.filterUse r field = []) :
    g.columns.AllowsFilter field := by
  unfold filterUse at h
  simp only [isOwn, Bool.false_eq_true, if_false] at h
  split at h
  · cases h
  · next hknown =>
      split at h
      · cases h
      · next henabled =>
          obtain ⟨d, hd⟩ := (knows_iff registered field).1 (by simpa using hknown)
          refine ⟨d, hd, fun hnone => henabled ?_⟩
          simp [ColumnRegistry.disablesFilter, ColumnRegistry.rulesFor, registered, hd, hnone]

theorem exists_def_of_valueCol (registered : g.columns.isEmpty = false)
    (valid : g.violations r = []) {c : ColumnRef} (hc : c ∈ r.valueCols) :
    ∃ d, g.columns.get? c.field = some d := by
  have huses := (filterUses_of_violations valid).2
  obtain ⟨i, hi⟩ := List.mem_iff_getElem?.1 hc
  have hmem : (c, i) ∈ r.valueCols.zipIdx := List.mk_mem_zipIdx_iff_getElem?.2 hi
  have huse := List.flatMap_eq_nil_iff.1 huses _ hmem
  simp only [List.append_eq_nil_iff] at huse
  have hcolumn := huse.1
  unfold columnUse at hcolumn
  split at hcolumn
  · next d hd => exact ⟨d, hd⟩
  · split at hcolumn
    · next hknown => exact (knows_iff registered c.field).1 hknown
    · cases hcolumn

/-! ## The plan's own route to its predicates -/

theorem namesPivotColumn_of_not_pivoting (h : r.isPivoting = false) (name : String) :
    g.namesPivotColumn r name = false := by
  simp [namesPivotColumn, h]

/-- The generated columns of a request are named with the separator of the settings. -/
theorem pivotContext_separator {pivot : PivotContext} (pivoting : r.isPivoting = true)
    (h : g.pivotContext r = .ok pivot) :
    pivot.separator = g.settings.pivot.separator := by
  rw [pivotContext, if_pos pivoting] at h
  obtain ⟨values, -, h⟩ := bind_ok_iff.1 h
  obtain ⟨_, -, h⟩ := bind_ok_iff.1 h
  obtain ⟨columns, -, h⟩ := bind_ok_iff.1 h
  cases h
  rfl

def pivotPredicate (g : Grid) (pivot : PivotContext) (entry : String × ColumnFilter)
    (aggregate : Expr) : Except QueryError Expr :=
  let field := valueField entry.1 pivot.separator
  entry.2.compile
    { label := s!"filterModel.{entry.1}", expr := aggregate, type := g.source.fieldType field }
    (g.columns.rulesFor field)

def generatedEntries (pivot : PivotContext) (entries : ColumnFilters) :
    List ((String × ColumnFilter) × Expr) :=
  entries.filterMap fun entry => (pivot.expression? entry.1).map (entry, ·)

theorem pivotPredicates_ok {pivot : PivotContext} {pivots : ColumnFilters} {es : List Expr}
    (h : g.pivotPredicates pivot pivots = .ok es) :
    List.Forall₂ (fun x e => g.pivotPredicate pivot x.1 x.2 = .ok e)
      (generatedEntries pivot pivots) es := by
  induction pivots generalizing es with
  | nil =>
      cases h
      exact .nil
  | cons entry rest ih =>
      unfold pivotPredicates at h
      rw [generatedEntries, List.filterMap_cons]
      split at h
      · next hnone =>
          rw [hnone]
          exact ih h
      · next aggregate hsome =>
          obtain ⟨predicate, hpredicate, h⟩ := bind_ok_iff.1 h
          obtain ⟨others, hothers, h⟩ := bind_ok_iff.1 h
          cases h
          rw [hsome]
          exact .cons hpredicate (ih hothers)

theorem exists_pivotPredicate {pivot : PivotContext} {pivots : ColumnFilters} {es : List Expr}
    (h : g.pivotPredicates pivot pivots = .ok es) {id : String} {f : ColumnFilter}
    (hentry : (id, f) ∈ pivots) {e : Expr} (he : pivot.expression? id = some e) :
    ∃ predicate ∈ es, f.compile
      { label := s!"filterModel.{id}", expr := e
        type := g.source.fieldType (valueField id pivot.separator) }
      (g.columns.rulesFor (valueField id pivot.separator)) = .ok predicate := by
  have generated : ((id, f), e) ∈ generatedEntries pivot pivots :=
    List.mem_filterMap.2 ⟨_, hentry, by simp [he]⟩
  exact exists_of_mem_left (pivotPredicates_ok h) generated

/-! ## The columns that are filtered -/

/-- No condition of an advanced filter that restricts the rows is left out. -/
theorem filtersColumn_of_advanced (accepted : g.plan r = .ok p) {filter : AdvancedFilter}
    (recognized : g.filterModel r = .ok (some (.advanced filter)))
    (level : g.levelFiltering r (some (.advanced filter)) = .direct)
    {id : String} (hid : id ∈ filter.columnIds) :
    FiltersColumn g r p id := by
  obtain ⟨e, compiled, placed⟩ := exists_of_advanced accepted recognized level
  exact .advanced recognized level hid compiled placed

theorem filtersColumn_of_generated (accepted : g.plan r = .ok p) {entries : ColumnFilters}
    (recognized : g.filterModel r = .ok (some (.columns entries)))
    {entry : String × ColumnFilter} (hentry : entry ∈ entries)
    (isGenerated : g.namesPivotColumn r entry.1 = true)
    (found : (p.pivot.expression? entry.1).isSome = true) :
    FiltersColumn g r p (valueField entry.1 p.pivot.separator) := by
  obtain ⟨filters, -, hfilters, -, -, hhaving, -, -, -⟩ := plan_ok accepted
  obtain ⟨-, -, model, keys, hmodel, -, restricts⟩ := levelFilters_ok hfilters
  rw [recognized] at hmodel
  cases hmodel
  obtain ⟨e, he⟩ := Option.isSome_iff_exists.1 found
  have pivoting : r.isPivoting = true := by
    by_contra hnot
    rw [namesPivotColumn_of_not_pivoting (by simpa using hnot)] at isGenerated
    cases isGenerated
  obtain ⟨_, -, rfl⟩ := restricts.of_pivoting pivoting
  obtain ⟨predicate, hpredicate, hcompiled⟩ := exists_pivotPredicate hhaving
    (List.mem_filter.2 ⟨hentry, isGenerated⟩) he
  exact .generated recognized hentry isGenerated he hcompiled hpredicate

/--
Every filtered column of an accepted request allows it exactly if the conditions of its
advanced filter are on such columns and none of its generated columns is filtered whose
value column has the filter switched off. All other filters are checked.
-/
theorem filtersColumn_allowed_iff (registered : g.columns.isEmpty = false)
    (accepted : g.plan r = .ok p) :
    (∀ field, FiltersColumn g r p field → g.columns.AllowsFilter field) ↔
      (∀ filter, g.filterModel r = .ok (some (.advanced filter)) →
        g.levelFiltering r (some (.advanced filter)) = .direct →
          ∀ id ∈ filter.columnIds, g.columns.AllowsFilter id) ∧
      (∀ entries, g.filterModel r = .ok (some (.columns entries)) →
        ∀ entry ∈ entries, g.namesPivotColumn r entry.1 = true →
          (p.pivot.expression? entry.1).isSome = true →
            ∀ d, g.columns.get? (valueField entry.1 p.pivot.separator) = some d →
              d.filter ≠ none) := by
  obtain ⟨filters, -, hfilters, hpivot, -⟩ := plan_ok accepted
  obtain ⟨-, valid, -⟩ := levelFilters_ok hfilters
  constructor
  · intro allowed
    refine ⟨fun filter recognized level id hid => ?_, fun entries recognized entry hentry
      isGenerated found d hd => ?_⟩
    · exact allowed id (filtersColumn_of_advanced accepted recognized level hid)
    · obtain ⟨d', hd', hfilter⟩ :=
        allowed _ (filtersColumn_of_generated accepted recognized hentry isGenerated found)
      rw [hd] at hd'
      cases hd'
      exact hfilter
  · rintro ⟨advanced, generated⟩ field hfield
    cases hfield with
    | own recognized level entry isOwn compiled placed =>
        have huse := filterUse_of_entry valid recognized entry
        exact allowsFilter_of_filterUse registered isOwn huse
    | @aggregated model entries c f e recognized level entry compiled placed =>
        obtain ⟨-, -, notPivoting, rfl, -⟩ := levelFiltering_aggregated level
        obtain ⟨_, -, hfound⟩ := List.mem_filterMap.1 entry
        obtain ⟨found, hfind, heq⟩ := Option.map_eq_some_iff.1 hfound
        cases heq
        have hname : found.1 = c.field := by simpa using List.find?_some hfind
        have huse := filterUse_of_entry valid recognized (List.mem_of_find?_eq_some hfind)
        rw [hname] at huse
        exact allowsFilter_of_filterUse registered
          (namesPivotColumn_of_not_pivoting notPivoting _) huse
    | advanced recognized level condition compiled placed =>
        exact advanced _ recognized level _ condition
    | @generated entries id f e predicate recognized entry isGenerated aggregate compiled placed =>
        have hnames := isGenerated
        simp only [namesPivotColumn, Bool.and_eq_true, List.any_eq_true, decide_eq_true_eq]
          at hnames
        obtain ⟨⟨pivoting, -⟩, c, hc, hfield⟩ := hnames
        obtain ⟨d, hd⟩ := exists_def_of_valueCol registered valid hc
        rw [hfield, ← pivotContext_separator pivoting hpivot] at hd
        exact ⟨d, hd, generated entries recognized (id, f) entry isGenerated
          (by rw [aggregate]; rfl) d hd⟩

/-! ## Wages that are not to be filtered -/

/-- A grid that shows wages but lets nobody filter them. -/
def hiddenWages : Grid where
  source := ⟨"jobs", [⟨"kind", .text⟩, ⟨"wage", .integer⟩],
    [[("kind", .text "day"), ("wage", .int 5)]]⟩
  settings := { grid := { enableAdvancedFilter := true } }
  columns := .ofList [{ field := "kind", filter := some (.text {}) }, { field := "wage" }]
  table := { table := "jobs" }
  isValid := by decide

def pivotedWages : Request where
  pivotMode := true
  pivotCols := [{ field := "kind" }]
  valueCols := [{ field := "wage", aggFunc := some "sum" }]
  filterModel := some (.object [("day_wage",
    .object [("filterType", .string "number"), ("type", .string "blank")])])

set_option maxRecDepth 20000 in
/-- The value column of a filtered generated column may have its filter switched off. -/
theorem filtersColumn_pivotedWages :
    hiddenWages.columns.isEmpty = false ∧ ∃ p, hiddenWages.plan pivotedWages = .ok p ∧
      ¬ ∀ field, FiltersColumn hiddenWages pivotedWages p field →
        hiddenWages.columns.AllowsFilter field := by
  let entry : String × ColumnFilter := ("day_wage", .number ⟨.blank, none, none⟩)
  let sum : Expr := .fn "SUM" [.caseWhen ((Expr.col "kind").eq (.ofText "day")) (.col "wage")]
  let pivot : PivotContext :=
    { values := [("kind", [.text "day"])], pairs := [[⟨"kind", .text "day"⟩]]
      combinations := [[⟨"kind", .text "day"⟩]], columns := [⟨"day_wage", sum⟩], separator := "_" }
  have recognized : hiddenWages.filterModel pivotedWages = .ok (some (.columns [entry])) := by
    cbv
  have filters : hiddenWages.levelFilters pivotedWages = .ok { rows := [], pivots := [entry] } := by
    cbv
  have kinds : hiddenWages.source.distinctValues "kind" = .ok [.text "day"] := by
    cbv
  have context : hiddenWages.pivotContext pivotedWages = .ok pivot := by
    have named : PivotContext.columnName "_" [⟨"kind", .text "day"⟩] "wage" = "day_wage" := by
      cbv
    have values : hiddenWages.pivotValues 1 pivotedWages.pivotCols =
        .ok [("kind", [.text "day"])] := by
      simp only [pivotedWages, pivotValues, kinds]
      rfl
    simp only [pivotContext, values, pivot]
    rw [← named]
    rfl
  have accepted : hiddenWages.plan pivotedWages =
      .ok ⟨[⟨sum, some "day_wage"⟩], [], [], [.isNull (.cast sum .decimal) false], pivot⟩ := by
    simp only [plan, filters, context]
    cbv
  have column : hiddenWages.columns.get? (valueField "day_wage" "_") =
      some { field := "wage" } := by
    cbv
  refine ⟨rfl, _, accepted, fun allowed => ?_⟩
  have switchedOff := ((filtersColumn_allowed_iff rfl accepted).1 allowed).2 _ recognized entry
    List.mem_cons_self (by cbv) (by cbv) _ column
  exact switchedOff rfl

def searchedWages : Request where
  filterModel := some (.object [("colId", .string "wage"), ("filterType", .string "text"),
    ("type", .string "blank")])

set_option maxRecDepth 20000 in
/-- A condition of an advanced filter may be on a column that has its filter switched off. -/
theorem not_filtersColumn_allowed :
    ¬ ∀ (g : Grid) (r : Request) (p : RequestPlan), g.columns.isEmpty = false →
      g.recognizers.column = [] → g.recognizers.advanced = [] → g.externalFilter = none →
        g.plan r = .ok p →
          ∀ field, FiltersColumn g r p field → g.columns.AllowsFilter field := by
  intro allAllowed
  let blank : Expr := (Expr.isNull (.cast (.col "wage") .text) false).or
    ((Expr.cast (.col "wage") .text).eq (.ofText ""))
  have recognized : hiddenWages.filterModel searchedWages =
      .ok (some (.advanced (.column "wage" (.text .blank none)))) := by
    cbv
  have accepted : hiddenWages.plan searchedWages =
      .ok ⟨[⟨.col "kind", none⟩, ⟨.col "wage", none⟩], [], [blank], [], {}⟩ := by
    cbv
  obtain ⟨d, hd, enabled⟩ := allAllowed hiddenWages searchedWages _ rfl rfl rfl rfl accepted "wage"
    (filtersColumn_of_advanced accepted recognized rfl List.mem_cons_self)
  cases hd
  exact enabled rfl

end Grid

end GridSql
