import GridSql.Proofs.Filter.Collected
import GridSql.Proofs.Grid.FilterAccess

/-!
# What a refusal reports

The violations of a refused request come from one of three stages, and a stage is reached only
if nothing is wrong before it. The first stage takes together the checks of the request, what
recognition of its filter model reports, the keys of expanded groups and the compiled filters
that restrict rows. Filters that decide on groups are compiled after it, and filters of
generated columns when these are known. Within a filter that is compiled the first fault hides
the others.
-/

namespace GridSql

namespace Violations

variable {α : Type} {vs us : Violations} {x : Except QueryError α} {a? : Option α}

theorem toOption_of_take (h : take vs x = .ok (a?, us)) : a? = x.toOption := by
  unfold take at h
  split at h
  · cases h
    rfl
  · cases h
    rfl
  · cases h

end Violations

namespace QueryError

/-- Whether an error comes from the rows of a source or from their number. -/
def IsOfData : QueryError → Prop
  | .source _ | .pivotTooWide _ _ => True
  | _ => False

end QueryError

/-- What fails for the data alone reports nothing of the request. -/
theorem NotRefused.of_isOfData {α : Type} {x : Except QueryError α}
    (h : ∀ e, x = .error e → e.IsOfData) :
    NotRefused x :=
  fun _ refused => h _ refused

namespace Grid

variable {g : Grid} {r : Request} {vs : Violations}

/-! ## Stages -/

def recognized (g : Grid) (r : Request) : Option FilterModel :=
  (g.filterModel r).toOption.join

/-- What compilation reports of a model whose filters restrict the rows. -/
def modelFaults (g : Grid) (r : Request) : FilterModel → Violations
  | .columns entries =>
      (entries.filter fun entry => !g.namesPivotColumn r entry.1).flatMap fun entry =>
        firstReported (g.filterContext.columnFaults entry.1 entry.2)
  | .advanced filter => firstReported (g.filterContext.advancedFaults filter)

def rowFaults (g : Grid) (r : Request) : Violations :=
  match g.levelFiltering r (g.recognized r) with
  | .direct => ((g.recognized r).map (g.modelFaults r)).getD []
  | _ => []

def collected (g : Grid) (r : Request) : Violations :=
  g.violations r ++ reported (g.filterModel r) ++
    reported (groupKeyPredicates r g.source.fieldType) ++ g.rowFaults r

def groupFaults (g : Grid) (r : Request) (entries : ColumnFilters) : Violations :=
  (valueFilters r entries).flatMap fun (c, f) =>
    firstReported (g.filterContext.columnFaults c.field f)

def generatedFaults (g : Grid) (pivot : PivotContext) (entry : String × ColumnFilter) :
    List QueryError :=
  match pivot.expression? entry.1 with
  | none => []
  | some e =>
      let field := valueField entry.1 pivot.separator
      entry.2.faults
        { label := s!"filterModel.{entry.1}", expr := e, type := g.source.fieldType field }
        (g.columns.rulesFor field)

/-- What a refused request reports. -/
inductive Reports (g : Grid) (r : Request) : Violations → Prop where
  | collected : Reports g r (g.collected r)
  | groups {entries : ColumnFilters} (clean : g.collected r = [])
      (level : g.levelFiltering r (g.recognized r) = .aggregated entries) :
      Reports g r (g.groupFaults r entries)
  | generated {entries : ColumnFilters} {pivot : PivotContext} (clean : g.collected r = [])
      (model : g.recognized r = some (.columns entries))
      (context : g.pivotContext r = .ok pivot) :
      Reports g r (firstReported
        ((entries.filter fun entry => g.namesPivotColumn r entry.1).flatMap
          (g.generatedFaults pivot)))

/-! ## The first stage -/

theorem reported_compileColumn (id : String) (f : ColumnFilter) :
    reported (g.filterContext.compileColumn id f) =
      firstReported (g.filterContext.columnFaults id f) :=
  (FilterContext.failsFirst_compileColumn _ id f).reported_eq

theorem reported_compileAdvanced (f : AdvancedFilter) :
    reported (g.filterContext.compileAdvanced f) =
      firstReported (g.filterContext.advancedFaults f) :=
  (FilterContext.failsFirst_compileAdvanced _ f).reported_eq

/-- The first step hands on what validation finds. -/
theorem gathers_validate : Gathers (Violations.take [] (g.validate r)) (g.violations r) := by
  unfold validate
  split
  · exact .unrecognized _ _ _
  · simpa only [List.nil_append, Violations.reported_finish] using
      Gathers.take [] (Violations.finish (g.violations r) ())

theorem directFilters_invalid {before : List Expr} {us : Violations} {model : Option FilterModel}
    (h : g.directFilters r before us model = .error (.invalid vs)) :
    vs = us ++ (model.map (g.modelFaults r)).getD [] ∧ vs ≠ [] := by
  unfold directFilters at h
  split at h
  · obtain ⟨rfl, nonempty⟩ := Violations.finish_invalid_iff.1 h
    exact ⟨(List.append_nil vs).symm, nonempty⟩
  · next filter =>
      obtain ⟨predicate, -, finished⟩ := (Gathers.take us _).refused h
      obtain ⟨rfl, nonempty⟩ := Violations.finish_invalid_iff.1 finished
      exact ⟨congrArg (us ++ ·) (reported_compileAdvanced filter), nonempty⟩
  · next entries =>
      rw [List.partition_eq_filter_filter] at h
      obtain ⟨predicates, -, finished⟩ := (Gathers.takeAll _ us _).refused h
      obtain ⟨rfl, nonempty⟩ := Violations.finish_invalid_iff.1 finished
      refine ⟨?_, nonempty⟩
      simp only [reported_compileColumn]
      rfl

/-- What is compiled at once is compiled without a fault if the level has its filters. -/
theorem modelFaults_of_restricts {keys : List Expr} {model : Option FilterModel}
    {filters : LevelFilters} (level : g.levelFiltering r model = .direct)
    (h : Restricts g r keys model filters) :
    (model.map (g.modelFaults r)).getD [] = [] := by
  cases h with
  | suppressed other => rw [level] at other; cases other
  | aggregated other => rw [level] at other; cases other
  | unfiltered => rfl
  | @advanced filter predicate _ compiled =>
      change firstReported (g.filterContext.advancedFaults filter) = []
      rw [← reported_compileAdvanced, compiled]
      rfl
  | columns _ compiled =>
      refine List.flatMap_eq_nil_iff.2 fun entry hentry => ?_
      obtain ⟨e, -, he⟩ := exists_of_mem_left compiled hentry
      rw [← reported_compileColumn, he]
      rfl

theorem recognized_of_ok {model : Option FilterModel} (h : g.filterModel r = .ok model) :
    g.recognized r = model := by
  rw [recognized, h]
  cases model <;> rfl

/-- Nothing is found in the first stage if the level has its filters. -/
theorem collected_of_levelFilters {filters : LevelFilters}
    (h : g.levelFilters r = .ok filters) : g.collected r = [] := by
  obtain ⟨-, valid, model, keys, hmodel, hkeys, restricts⟩ := levelFilters_ok h
  have rows : g.rowFaults r = [] := by
    unfold rowFaults
    rw [recognized_of_ok hmodel]
    split
    · next level => exact modelFaults_of_restricts level restricts
    · rfl
  rw [collected, valid, hmodel, hkeys, rows]
  rfl

/-! ## Later stages -/

theorem exists_aggFunc (valid : g.violations r = []) {c : ColumnRef} (hc : c ∈ r.valueCols) :
    ∃ name, c.aggFunc = some name := by
  obtain ⟨i, hi⟩ := List.mem_iff_getElem?.1 hc
  have uses := List.flatMap_eq_nil_iff.1 (filterUses_of_violations valid).2 (c, i)
    (List.mk_mem_zipIdx_iff_getElem?.2 hi)
  have aggregate := (List.append_eq_nil_iff.1 uses).2
  unfold aggregateUse at aggregate
  split at aggregate
  · cases aggregate
  · next name hname => exact ⟨name, hname⟩

theorem notRefused_functionName (valid : g.violations r = []) {c : ColumnRef}
    (hc : c ∈ r.valueCols) : NotRefused (AggregateRegistry.functionName c) := by
  obtain ⟨name, hname⟩ := exists_aggFunc valid hc
  rw [AggregateRegistry.functionName, hname]
  exact .ok name

theorem notRefused_apply (aggregates : AggregateRegistry) (name : String) (e : Expr) :
    NotRefused (aggregates.apply name e) := by
  unfold AggregateRegistry.apply
  split
  · exact .ok _
  · exact .unrecognized _ _

theorem notRefused_aggregate (valid : g.violations r = []) {c : ColumnRef}
    (hc : c ∈ r.valueCols) : NotRefused (g.aggregates.aggregate c) :=
  .bind (notRefused_functionName valid hc) fun name _ => notRefused_apply _ name _

theorem mem_of_valueFilters {entries : ColumnFilters} {c : ColumnRef} {f : ColumnFilter}
    (h : (c, f) ∈ valueFilters r entries) : c ∈ r.valueCols := by
  obtain ⟨col, hcol, h⟩ := List.mem_filterMap.1 h
  obtain ⟨entry, -, heq⟩ := Option.map_eq_some_iff.1 h
  cases heq
  exact hcol

/--
Filters that have predicates on rows have them on aggregates too: what a filter applies to is
never at fault.
-/
theorem notRefused_groupPasses (valid : g.violations r = []) {entries : ColumnFilters} {leaf : Expr}
    (passes : g.leafPasses r (valueFilters r entries) = .ok leaf) (depth : Nat) :
    NotRefused (g.groupPasses r (valueFilters r entries) depth) := by
  obtain ⟨⟨predicates, found⟩, taken, finished⟩ := bind_ok_iff.1 passes
  obtain ⟨rfl, -⟩ := Violations.finish_ok_iff.1 finished
  have compiled := (Violations.takeAll_ok (fun _ => ColumnFilter.explained_compile _ _ _) taken).2
  refine .bind (.mapM fun (c, f) hcf => ?_) fun predicates _ => .ok _
  refine .bind (notRefused_aggregate valid (mem_of_valueFilters hcf)) fun e _ => .of_failsFirst ?_
  obtain ⟨predicate, -, hpredicate⟩ := exists_of_mem_left compiled hcf
  have compiles : g.filterContext.compileColumn c.field f = .ok predicate := hpredicate
  have onRow := g.filterContext.failsFirst_compileColumn c.field f
  have onAggregate := ColumnFilter.failsFirst_compile
    { g.filterContext.columnTarget c.field with expr := e } (g.columns.rulesFor c.field) f
  rw [ColumnFilter.faults_expr] at onAggregate
  rw [FailsFirst, compiles] at onRow
  exact onAggregate.trans onRow.symm

theorem groupAggregatePredicate_invalid (valid : g.violations r = []) {entries : ColumnFilters}
    (h : g.groupAggregatePredicate r entries = .error (.invalid vs)) :
    vs = g.groupFaults r entries ∧ vs ≠ [] := by
  rcases bind_invalid h with leaf | ⟨leaf, passes, groups⟩
  · obtain ⟨predicates, -, finished⟩ := (Gathers.takeAll _ [] _).refused leaf
    obtain ⟨rfl, nonempty⟩ := Violations.finish_invalid_iff.1 finished
    refine ⟨?_, nonempty⟩
    simp only [reported_compileColumn]
    rfl
  · have others : NotRefused ((List.range r.rowGroupCols.length).mapM fun i =>
        g.groupPasses r (valueFilters r entries) (i + 1)) :=
      .mapM fun i _ => notRefused_groupPasses valid passes (i + 1)
    exact absurd groups (others.bind (fun _ _ => .ok _) vs)

theorem isOfData_of_checkCount {limit : Option Nat} {actual : Nat} {e : QueryError}
    (h : PivotContext.checkCount limit actual = .error e) :
    e.IsOfData := by
  unfold PivotContext.checkCount at h
  split at h
  · split at h
    · cases h
      trivial
    · cases h
  · cases h

theorem isOfData_of_pivotValues {count : Nat} {cols : List ColumnRef} {e : QueryError}
    (h : g.pivotValues count cols = .error e) :
    e.IsOfData := by
  induction cols generalizing count with
  | nil => cases h
  | cons c cols ih =>
      rcases bind_error_iff.1 h with h | ⟨values, -, h⟩
      · unfold Except.mapError at h
        split at h
        · cases h
          trivial
        · cases h
      · rcases bind_error_iff.1 h with h | ⟨-, -, h⟩
        · exact isOfData_of_checkCount h
        · rcases bind_error_iff.1 h with h | ⟨others, -, h⟩
          · exact ih h
          · cases h

theorem notRefused_pivotContext (valid : g.violations r = []) :
    NotRefused (g.pivotContext r) := by
  unfold pivotContext
  split
  · refine .bind (.of_isOfData fun _ => isOfData_of_pivotValues) fun values _ => ?_
    refine .bind (.of_isOfData fun _ => isOfData_of_checkCount) fun _ _ => ?_
    refine .bind (.mapM fun combination _ => ?_) fun columns _ => .ok _
    refine .mapM fun c hc => .bind (notRefused_functionName valid hc) fun name _ => ?_
    exact .bind (notRefused_apply _ _ _) fun e _ => .ok _
  · exact .ok _

theorem notRefused_ofRequest (valid : g.violations r = []) (projection : List String)
    (childCount : Option String) :
    NotRefused (GroupingPlan.ofRequest r g.aggregates projection childCount) := by
  unfold GroupingPlan.ofRequest
  dsimp only
  split
  · split
    · exact .ok _
    · refine .bind (.mapM fun c hc => ?_) fun values _ => .ok _
      exact .bind (notRefused_aggregate valid hc) fun e _ => .ok _
  · exact .ok _

theorem failsFirst_pivotPredicates (g : Grid) (pivot : PivotContext) (entries : ColumnFilters) :
    FailsFirst (g.pivotPredicates pivot entries) (entries.flatMap (g.generatedFaults pivot)) := by
  induction entries with
  | nil => exact .ok _
  | cons entry rest ih =>
      obtain ⟨id, f⟩ := entry
      rw [List.flatMap_cons, pivotPredicates]
      cases he : pivot.expression? id with
      | none =>
          rw [generatedFaults, he]
          exact ih
      | some e =>
          rw [generatedFaults, he]
          exact .bind (ColumnFilter.failsFirst_compile _ _ f) fun predicate _ => .bind_ok ih

theorem explained_pivotPredicates (pivot : PivotContext) (entries : ColumnFilters) :
    Explained (g.pivotPredicates pivot entries) := by
  induction entries with
  | nil => exact .ok _
  | cons entry rest ih =>
      rw [pivotPredicates]
      split
      · exact ih
      · exact .bind (ColumnFilter.explained_compile _ _ _) fun predicate =>
          .bind ih fun others => .ok _

/-! ## Refusals -/

/-- A refusal before the generated columns are looked up. -/
theorem levelFilters_invalid (h : g.levelFilters r = .error (.invalid vs)) :
    g.Reports r vs ∧ vs ≠ [] := by
  obtain ⟨valid?, -, h⟩ := gathers_validate.refused h
  obtain ⟨model?, takenModel, h⟩ := (Gathers.take _ _).refused h
  obtain ⟨keys?, -, h⟩ := (Gathers.take _ _).refused h
  have model : model?.join = g.recognized r := by
    rw [Violations.toOption_of_take takenModel]
    rfl
  -- What is found before filters are compiled is all of the stage unless they restrict rows.
  have stage (h : g.levelFiltering r (g.recognized r) ≠ .direct) :
      g.violations r ++ reported (g.filterModel r) ++
        reported (groupKeyPredicates r g.source.fieldType) = g.collected r := by
    unfold collected rowFaults
    split
    · contradiction
    · exact (List.append_nil _).symm
  dsimp only at h
  rw [model] at h
  split at h
  · next level =>
      rw [stage (by simp [level])] at h
      obtain ⟨rfl, nonempty⟩ := Violations.finish_invalid_iff.1 h
      exact ⟨.collected, nonempty⟩
  · next entries level =>
      rw [stage (by simp [level])] at h
      split at h
      · next hempty =>
          have clean := List.isEmpty_iff.1 hempty
          have valid : g.violations r = [] := by
            unfold collected at clean
            simp only [List.append_eq_nil_iff] at clean
            exact clean.1.1.1
          rcases bind_invalid h with h | ⟨predicate, -, h⟩
          · obtain ⟨rfl, nonempty⟩ := groupAggregatePredicate_invalid valid h
            exact ⟨.groups clean level, nonempty⟩
          · cases h
      · obtain ⟨rfl, nonempty⟩ := Violations.finish_invalid_iff.1 h
        exact ⟨.collected, nonempty⟩
  · next level =>
      obtain ⟨found, nonempty⟩ := directFilters_invalid h
      have rows : g.rowFaults r = ((g.recognized r).map (g.modelFaults r)).getD [] := by
        rw [rowFaults, level]
      rw [← rows] at found
      cases found
      exact ⟨.collected, nonempty⟩

theorem pivots_of_levelFilters {filters : LevelFilters} (h : g.levelFilters r = .ok filters) :
    filters.pivots = [] ∨ ∃ entries, g.recognized r = some (.columns entries) ∧
      filters.pivots = entries.filter fun entry => g.namesPivotColumn r entry.1 := by
  obtain ⟨-, -, model, keys, hmodel, -, restricts⟩ := levelFilters_ok h
  have recognized := recognized_of_ok hmodel
  cases restricts with
  | columns => exact .inr ⟨_, recognized, rfl⟩
  | _ => exact .inl rfl

theorem pivotPredicates_invalid {filters : LevelFilters} (hfilters : g.levelFilters r = .ok filters)
    {pivot : PivotContext} (hpivot : g.pivotContext r = .ok pivot)
    (h : g.pivotPredicates pivot filters.pivots = .error (.invalid vs)) :
    g.Reports r vs := by
  have found := (g.failsFirst_pivotPredicates pivot filters.pivots).reported_eq
  rw [h, reported_invalid] at found
  rcases pivots_of_levelFilters hfilters with hpivots | ⟨entries, hmodel, hpivots⟩
  · rw [hpivots] at h
    cases h
  · rw [found, hpivots]
    exact .generated (collected_of_levelFilters hfilters) hmodel hpivot

/--
A refused request reports all that is found in one stage. Of every list that recognition reads
it reports the parts together; of a filter that is compiled it reports the first fault.
-/
theorem query_reports (h : g.query r = .error (.invalid vs)) :
    g.Reports r vs ∧ vs ≠ [] ∧ g.recognizers.CollectsFaults := by
  refine and_assoc.1 ⟨?_, g.recognizers.collectsFaults⟩
  rcases bind_invalid h with h | ⟨p, -, h⟩
  swap
  · cases h
  rcases bind_invalid h with h | ⟨filters, hfilters, h⟩
  · exact levelFilters_invalid h
  have valid : g.violations r = [] := (levelFilters_ok hfilters).2.1
  rcases bind_invalid h with h | ⟨pivot, hpivot, h⟩
  · exact absurd h (notRefused_pivotContext valid vs)
  rcases bind_invalid h with h | ⟨level, -, h⟩
  · exact absurd h (notRefused_ofRequest valid _ _ vs)
  rcases bind_invalid h with h | ⟨predicates, -, h⟩
  · refine ⟨pivotPredicates_invalid hfilters hpivot h, ?_⟩
    rintro rfl
    exact explained_pivotPredicates _ _ h
  · cases h

def plainStays : Grid where
  source := ⟨"stays", [⟨"from", .date⟩, ⟨"until", .date⟩], []⟩
  table := { table := "stays" }
  isValid := Settings.fault?_default

def datesBetween (low high : String) : Payload :=
  [("filterType", .string "date"), ("type", .string "inRange"),
    ("dateFrom", .string low), ("dateTo", .string high)]

/-- A request with a window that ends before it starts and two filters for very old dates. -/
def ancientStays : Request where
  startRow := 5
  endRow := 3
  filterModel := some (.object [
    ("from", .object (datesBetween "0500-01-01 00:00:00" "0600-01-01 00:00:00")),
    ("until", .object (datesBetween "0500-01-01 00:00:00" "2024-01-01 00:00:00"))])

set_option maxRecDepth 20000 in
/-- The window and both filters are reported, but only one of the first filter's bounds. -/
theorem query_reports_ancientStays :
    ∃ vs, plainStays.query ancientStays = .error (.invalid vs) ∧
      vs.map (·.field) = ["endRow", "filterModel.from.dateFrom", "filterModel.until.dateFrom"] ∧
      plainStays.Reports ancientStays vs := by
  have refused : plainStays.query ancientStays = .error (.invalid [
      ⟨"endRow", "must not be less than startRow", some (.ofNat 3)⟩,
      ⟨"filterModel.from.dateFrom", "Date 0500-01-01 is before the minimum valid year 1000",
        some (.string "0500-01-01")⟩,
      ⟨"filterModel.until.dateFrom", "Date 0500-01-01 is before the minimum valid year 1000",
        some (.string "0500-01-01")⟩]) := by
    cbv
  exact ⟨_, refused, rfl, (query_reports refused).1⟩

def between (r : Request) (column low high : String) : Request :=
  { r with filterModel := some (.object [(column, .object (datesBetween low high))]) }

set_option maxRecDepth 20000 in
/-- A bound that is refused beside a good one may not be reported beside a bad one. -/
theorem not_query_reports :
    ¬ ∀ (g : Grid) (r : Request) (column low high fine : String) (us vs : Violations),
      (g.query (between r column fine fine)).isOk = true →
        g.query (between r column fine high) = .error (.invalid us) →
          g.query (between r column low high) = .error (.invalid vs) →
            ∃ u ∈ us, ∃ v ∈ vs, v.field = u.field := by
  intro allReported
  have accepted : (plainStays.query (between {} "from" "2024-01-01 00:00:00"
      "2024-01-01 00:00:00")).isOk = true := by
    cbv
  have alone : plainStays.query (between {} "from" "2024-01-01 00:00:00" "0600-01-01 00:00:00") =
      .error (.invalid [⟨"filterModel.from.dateTo",
        "Date 0600-01-01 is before the minimum valid year 1000",
        some (.string "0600-01-01")⟩]) := by
    cbv
  have together : plainStays.query (between {} "from" "0500-01-01 00:00:00"
      "0600-01-01 00:00:00") =
      .error (.invalid [⟨"filterModel.from.dateFrom",
        "Date 0500-01-01 is before the minimum valid year 1000",
        some (.string "0500-01-01")⟩]) := by
    cbv
  obtain ⟨u, hu, v, hv, same⟩ := allReported _ _ _ _ _ _ _ _ accepted alone together
  rw [List.mem_singleton.1 hu, List.mem_singleton.1 hv] at same
  exact absurd same (by decide)

end Grid

end GridSql
