import GridSql.Proofs.Grid.FilterAccess
import GridSql.Proofs.Grid.Selection
import GridSql.Proofs.Plan.PivotNames

/-!
# Generated names in filters and sort keys

A generated name is taken back to its value column by what stands behind its last
separator. That is the field exactly if the separator in front of the field is the last
one, so the field may neither hold the separator nor overlap with it. Then the name can be
sorted by, and its filter is compiled by the type and the rules of the value column.
-/

namespace GridSql

/-! ## Behind the last separator -/

theorem afterLast?_eq_none {separator cs : List Char} (h : afterLast? separator cs = none)
    (before after : List Char) :
    cs ≠ before ++ (separator ++ after) := by
  induction cs generalizing before with
  | nil =>
      intro heq
      have empty : separator = [] := (List.append_eq_nil_iff.1 (List.append_eq_nil_iff.1 heq.symm).2).1
      simp [afterLast?, empty] at h
  | cons c rest ih =>
      unfold afterLast? at h
      split at h
      · cases h
      · next hrest =>
          split at h
          · cases h
          · next hfront =>
              intro heq
              cases before with
              | nil => exact hfront (List.isPrefixOf_iff_prefix.2 ⟨after, heq.symm⟩)
              | cons b before => exact ih hrest before (List.cons.inj heq).2

theorem afterLast?_eq_some {separator cs found : List Char}
    (h : afterLast? separator cs = some found) :
    (∃ before, cs = before ++ (separator ++ found)) ∧ OpenedBy separator found := by
  induction cs with
  | nil =>
      unfold afterLast? at h
      split at h
      · next hempty =>
          cases h
          refine ⟨⟨[], by simp [List.isEmpty_iff.1 hempty]⟩, fun before after heq => ?_⟩
          rw [List.isEmpty_iff.1 hempty, List.nil_append] at heq
          exact (List.append_eq_nil_iff.1 heq.symm).1
      · cases h
  | cons c rest ih =>
      unfold afterLast? at h
      split at h
      · next later hlater =>
          cases h
          obtain ⟨⟨before, heq⟩, opened⟩ := ih hlater
          exact ⟨⟨c :: before, by rw [heq, List.cons_append]⟩, opened⟩
      · next hrest =>
          split at h
          · next hfront =>
              cases h
              obtain ⟨after, heq⟩ := List.isPrefixOf_iff_prefix.1 hfront
              rw [← heq, List.drop_left]
              refine ⟨⟨[], rfl⟩, fun before behind hsplit => ?_⟩
              rw [heq] at hsplit
              cases before with
              | nil => rfl
              | cons b before =>
                  exact absurd (List.cons.inj hsplit).2 (afterLast?_eq_none hrest before behind)
          · cases h

theorem afterLast?_append_iff {separator text : List Char} (before : List Char) :
    afterLast? separator (before ++ (separator ++ text)) = some text ↔ OpenedBy separator text := by
  constructor
  · exact fun h => (afterLast?_eq_some h).2
  · intro opened
    cases hfound : afterLast? separator (before ++ (separator ++ text)) with
    | none => exact absurd rfl (afterLast?_eq_none hfound before text)
    | some found =>
        obtain ⟨⟨front, heq⟩, last⟩ := afterLast?_eq_some hfound
        -- Both texts are opened, so neither separator stands behind the other.
        rcases List.append_eq_append_iff.1 heq with ⟨more, rfl, hmore⟩ | ⟨more, rfl, hmore⟩
        · rw [opened more found hmore, List.nil_append] at hmore
          rw [List.append_cancel_left hmore]
        · rw [last more text hmore, List.nil_append] at hmore
          rw [List.append_cancel_left hmore]

theorem valueField_append_iff {separator before field : String} :
    valueField (before ++ separator ++ field) separator = field ↔
      OpenedBy separator.toList field.toList := by
  have characters : (before ++ separator ++ field).toList =
      before.toList ++ (separator.toList ++ field.toList) := by simp
  unfold valueField
  rw [characters]
  cases hfound : afterLast? separator.toList (before.toList ++ (separator.toList ++ field.toList)) with
  | none => exact absurd rfl (afterLast?_eq_none hfound before.toList field.toList)
  | some found =>
      rw [← afterLast?_append_iff before.toList, hfound, Option.some.injEq]
      exact ⟨fun h => by simp [← h], fun h => by simp [h]⟩

theorem exists_before_of_valueField {name separator field : String}
    (found : valueField name separator = field) (split : field ≠ name) :
    ∃ before, name = before ++ separator ++ field ∧ OpenedBy separator.toList field.toList := by
  unfold valueField at found
  split at found
  · next cs hcs =>
      subst found
      obtain ⟨⟨before, characters⟩, opened⟩ := afterLast?_eq_some hcs
      refine ⟨String.ofList before, ?_, by simpa using opened⟩
      rw [← String.toList_inj]
      simp [characters]
  · exact absurd found.symm split

/-- Behind a single character a text opens if the character is not in it. -/
theorem openedBy_singleton_iff {c : Char} {text : List Char} :
    OpenedBy [c] text ↔ c ∉ text := by
  rw [openedBy_iff_reverse]
  constructor
  · intro closed hmem
    obtain ⟨front, back, rfl⟩ := List.append_of_mem hmem
    have hnil := closed back.reverse (front.reverse ++ [c]) (by simp)
    simp at hnil
  · intro hmem
    exact closedBy_of_notMem (by simpa using hmem)

theorem PivotContext.expression?_isSome_iff {pivot : PivotContext} {name : String} :
    (pivot.expression? name).isSome = true ↔ name ∈ pivot.resultFields := by
  simp [expression?, resultFields]

/-- Whether the field of a value column stands behind the last separator of a name. -/
def Request.EndsInValueField (r : Request) (separator name : String) : Prop :=
  ∃ before, ∃ c ∈ r.valueCols, name = before ++ separator ++ c.field ∧
    OpenedBy separator.toList c.field.toList

def Request.byColumn (r : Request) (name : String) (payload : Payload)
    (direction : SortDirection) : Request :=
  { r with
    filterModel := some (.object [(name, .object payload)])
    sortModel := [⟨name, direction⟩] }

namespace Grid

variable {g : Grid} {r : Request} {p : RequestPlan} {name : String} {c : ColumnRef}

/-! ## Filters and sort keys of a generated name -/

/--
A generated name is taken for that of a value column: it can be filtered and sorted by,
and filters on it are compiled to conditions of the groups as filters of the value column.
-/
structure StandsFor (g : Grid) (r : Request) (p : RequestPlan) (name : String)
    (c : ColumnRef) : Prop where
  named : g.namesPivotColumn r name = true
  field : valueField name g.settings.pivot.separator = c.field
  /-- A filter and a sort key on the name are no violation. -/
  valid : ∀ payload direction, g.validate (r.byColumn name payload direction) = .ok ()
  /-- A filter on the name becomes a condition of the groups, if it can be compiled. -/
  compiled : ∃ e, p.pivot.expression? name = some e ∧
    ∀ payload direction f, g.recognizers.columnFilter name payload = .ok f →
      (g.plan (r.byColumn name payload direction)).map (·.having) =
        (f.compile
          { label := s!"filterModel.{name}", expr := e, type := g.source.fieldType c.field }
          (g.columns.rulesFor c.field)).map fun predicate => [predicate]
  /-- So do the filters on the name that the request itself has. -/
  placed : ∀ entries f, g.filterModel r = .ok (some (.columns entries)) → (name, f) ∈ entries →
    ∃ e predicate, p.pivot.expression? name = some e ∧
      f.compile
        { label := s!"filterModel.{name}", expr := e, type := g.source.fieldType c.field }
        (g.columns.rulesFor c.field) = .ok predicate ∧
      predicate ∈ p.having

theorem separator_ne_empty (g : Grid) : g.settings.pivot.separator ≠ "" := by
  intro hempty
  have valid := g.isValid
  simp [Settings.fault?, hempty] at valid

/-- A generated name is recognized if its field is found behind the last separator. -/
theorem namesPivotColumn_of_field (pivoting : r.isPivoting = true) (hc : c ∈ r.valueCols)
    {before : String}
    (hfield : valueField (before ++ g.settings.pivot.separator ++ c.field)
      g.settings.pivot.separator = c.field) :
    g.namesPivotColumn r (before ++ g.settings.pivot.separator ++ c.field) = true := by
  have longer : c.field ≠ before ++ g.settings.pivot.separator ++ c.field := by
    intro heq
    have hlength := congrArg String.length heq
    simp only [String.length_append] at hlength
    have empty : g.settings.pivot.separator.length = 0 := by omega
    exact g.separator_ne_empty (String.length_eq_zero_iff.1 empty)
  have member : r.valueCols.any (·.field = c.field) = true :=
    List.any_eq_true.2 ⟨c, hc, by simp⟩
  simp only [namesPivotColumn, hfield, pivoting, member]
  simp [longer]

theorem namesPivotColumn_iff (pivoting : r.isPivoting = true) :
    g.namesPivotColumn r name = true ↔ r.EndsInValueField g.settings.pivot.separator name := by
  constructor
  · intro named
    simp only [namesPivotColumn, Bool.and_eq_true, decide_eq_true_eq, List.any_eq_true] at named
    obtain ⟨⟨-, split⟩, c, hc, field⟩ := named
    obtain ⟨before, parts, opened⟩ := exists_before_of_valueField rfl split
    rw [← field] at parts opened
    exact ⟨before, c, hc, parts, opened⟩
  · rintro ⟨before, c, hc, rfl, opened⟩
    exact namesPivotColumn_of_field pivoting hc (valueField_append_iff.2 opened)

theorem validate_byColumn (valid : g.validate r = .ok ())
    (named : g.namesPivotColumn r name = true) (payload : Payload) (direction : SortDirection) :
    g.validate (r.byColumn name payload direction) = .ok () := by
  obtain ⟨known, none⟩ := validate_ok_iff.1 valid
  simp only [violations, List.append_eq_nil_iff] at none
  obtain ⟨⟨⟨⟨⟨groups, values⟩, pivots⟩, -⟩, window⟩, -⟩ := none
  have named' : g.namesPivotColumn (r.byColumn name payload direction) name = true := named
  have sorted : g.sortUses (r.byColumn name payload direction) = [] := by
    simp [sortUses, sortUse, Request.byColumn] at named' ⊢
    simp [named']
  have filtered : g.filterUses (r.byColumn name payload direction) = [] := by
    have keyed : Recognizers.isColumnKeyed [(name, .object payload)] = true := rfl
    have use : g.filterUse (r.byColumn name payload direction) name = [] := by
      rw [filterUse, named']
      rfl
    simp only [filterUses, Request.byColumn, keyed, if_true, List.flatMap_cons, List.flatMap_nil]
    simpa [Request.byColumn] using use
  have groups' : g.columnUses "rowGroupCols" (·.enableRowGroup)
      (r.byColumn name payload direction).rowGroupCols = [] := groups
  have values' : g.valueUses (r.byColumn name payload direction).valueCols = [] := values
  have pivots' : g.columnUses "pivotCols" (·.enablePivot)
      (r.byColumn name payload direction).pivotCols = [] := pivots
  have window' : windowFaults (r.byColumn name payload direction) = [] := window
  refine validate_ok_iff.2 ⟨known, ?_⟩
  rw [violations, groups', values', pivots', sorted, window', filtered]
  rfl

theorem levelFilters_byColumn (pivoting : r.isPivoting = true) (valid : g.validate r = .ok ())
    (named : g.namesPivotColumn r name = true) {keys : List Expr}
    (hkeys : groupKeyPredicates r g.source.fieldType = .ok keys) {payload : Payload}
    {f : ColumnFilter} (hf : g.recognizers.columnFilter name payload = .ok f)
    (direction : SortDirection) :
    g.levelFilters (r.byColumn name payload direction) =
      .ok { rows := keys ++ g.freePredicates r, pivots := [(name, f)] } := by
  have model : g.filterModel (r.byColumn name payload direction) =
      .ok (some (.columns [(name, f)])) := by
    have recognized : g.recognizers.recognize (.object [(name, .object payload)]) =
        .ok (.columns [(name, f)]) := by
      simp [Recognizers.recognize, Recognizers.isColumnKeyed, Recognizers.columnFilters, hf,
        Violations.take, Violations.finish, Json.asObject?, bind, Except.bind]
    simp [filterModel, Request.byColumn, Request.hasFilterModel, recognized, Except.map]
  have level : g.levelFiltering (r.byColumn name payload direction)
      (some (.columns [(name, f)])) = .direct :=
    levelFiltering_of_pivoting (r := r.byColumn name payload direction) pivoting _
  have hkeys' : groupKeyPredicates (r.byColumn name payload direction) g.source.fieldType =
      .ok keys := hkeys
  have named' : g.namesPivotColumn (r.byColumn name payload direction) name = true := named
  rw [levelFilters_of_level level (validate_byColumn valid named payload direction) model hkeys',
    directFilters]
  simp [List.partition_eq_filter_filter, named', Violations.takeAll, Violations.finish, bind,
    Except.bind]
  rfl

theorem plan_byColumn (pivoting : r.isPivoting = true) (accepted : g.plan r = .ok p)
    (named : g.namesPivotColumn r name = true) {e : Expr}
    (aggregate : p.pivot.expression? name = some e) {payload : Payload} {f : ColumnFilter}
    (hf : g.recognizers.columnFilter name payload = .ok f) (direction : SortDirection) :
    (g.plan (r.byColumn name payload direction)).map (·.having) =
      (f.compile
        { label := s!"filterModel.{name}", expr := e
          type := g.source.fieldType (valueField name p.pivot.separator) }
        (g.columns.rulesFor (valueField name p.pivot.separator))).map fun predicate =>
          [predicate] := by
  obtain ⟨filters, level, hfilters, hpivot, hlevel, -, -, -, -⟩ := plan_ok accepted
  obtain ⟨known, none, model, keys, -, hkeys, -⟩ := levelFilters_ok hfilters
  have valid : g.validate r = .ok () := validate_ok_iff.2 ⟨known, none⟩
  have hpivot' : g.pivotContext (r.byColumn name payload direction) = .ok p.pivot := hpivot
  have hlevel' : GroupingPlan.ofRequest (r.byColumn name payload direction) g.aggregates
      g.columns.fields (g.childCountName? (r.byColumn name payload direction)) = .ok level := hlevel
  unfold plan
  rw [levelFilters_byColumn pivoting valid named hkeys hf direction, hpivot', hlevel']
  simp only [bind, Except.bind, pivotPredicates, aggregate]
  cases f.compile
    { label := s!"filterModel.{name}", expr := e
      type := g.source.fieldType (valueField name p.pivot.separator) }
    (g.columns.rulesFor (valueField name p.pivot.separator)) <;> rfl

theorem build_of_plan (pivoting : r.isPivoting = true) (accepted : g.plan r = .ok p) :
    ∃ values, g.pivotValues 1 r.pivotCols = .ok values ∧
      PivotContext.build r values g.aggregates g.settings.pivot.separator
        g.settings.pivot.maxColumns = .ok p.pivot := by
  obtain ⟨_, _, -, hpivot, -⟩ := plan_ok accepted
  rw [pivotContext, if_pos pivoting] at hpivot
  exact bind_ok_iff.1 hpivot

theorem exists_expression {names : PivotContext} (h : name ∈ names.resultFields) :
    ∃ e, names.expression? name = some e :=
  Option.isSome_iff_exists.1 (PivotContext.expression?_isSome_iff.2 h)

/-- Where the field is found behind the last separator, the name stands for its column. -/
theorem standsFor_of_field (pivoting : r.isPivoting = true) (accepted : g.plan r = .ok p)
    (hname : name ∈ p.pivot.resultFields) (named : g.namesPivotColumn r name = true)
    (hfield : valueField name g.settings.pivot.separator = c.field) :
    StandsFor g r p name c := by
  obtain ⟨filters, level, hfilters, hpivot, -, hhaving, -, -, -⟩ := plan_ok accepted
  obtain ⟨known, none, model, keys, hmodel, -, restricts⟩ := levelFilters_ok hfilters
  have separator := pivotContext_separator pivoting hpivot
  obtain ⟨e, he⟩ := exists_expression hname
  refine ⟨named, hfield, fun payload direction => ?_, ⟨e, he, fun payload direction f hf => ?_⟩,
    fun entries f hentries hentry => ?_⟩
  · exact validate_byColumn (validate_ok_iff.2 ⟨known, none⟩) named payload direction
  · rw [plan_byColumn pivoting accepted named he hf direction, separator, hfield]
  · rw [hmodel, Except.ok.injEq] at hentries
    subst hentries
    obtain ⟨_, -, rfl⟩ := restricts.of_pivoting pivoting
    obtain ⟨predicate, hpredicate, hcompiled⟩ := exists_pivotPredicate hhaving
      (List.mem_filter.2 ⟨hentry, named⟩) he
    rw [separator, hfield] at hcompiled
    exact ⟨e, predicate, he, hcompiled, hpredicate⟩

/--
The generated names are those of every combination and value column. One of them is taken
for its value column, by filters and by sort keys, exactly if the separator in front of the
field is the last one in it.
-/
theorem generatedName_standsFor_iff (pivoting : r.isPivoting = true)
    (accepted : g.plan r = .ok p) :
    (p.pivot.resultFields = p.pivot.combinations.flatMap fun combination =>
      r.valueCols.map fun c =>
        PivotContext.columnName g.settings.pivot.separator combination c.field) ∧
    ∀ combination ∈ p.pivot.combinations, ∀ c ∈ r.valueCols,
      (StandsFor g r p
          (PivotContext.columnName g.settings.pivot.separator combination c.field) c ↔
        OpenedBy g.settings.pivot.separator.toList c.field.toList) := by
  obtain ⟨values, -, built⟩ := build_of_plan pivoting accepted
  have names := PivotContext.resultFields_eq built
  refine ⟨names, fun combination hcombination c hc => ?_⟩
  have hname : PivotContext.columnName g.settings.pivot.separator combination c.field ∈
      p.pivot.resultFields := by
    rw [names]
    exact List.mem_flatMap.2 ⟨combination, hcombination, List.mem_map_of_mem hc⟩
  constructor
  · exact fun h => valueField_append_iff.1 h.field
  · intro opened
    have hfield : valueField
        (PivotContext.columnName g.settings.pivot.separator combination c.field)
        g.settings.pivot.separator = c.field := valueField_append_iff.2 opened
    exact standsFor_of_field pivoting accepted hname
      (namesPivotColumn_of_field pivoting hc hfield) hfield

/-! ## Wages under two fields -/

/-- A grid of wages, one of whose fields has the separator in it. -/
def netWages : Grid where
  source := ⟨"jobs", [⟨"kind", .text⟩, ⟨"wage", .integer⟩, ⟨"net_wage", .text⟩],
    [[("kind", .text "day"), ("wage", .int 5), ("net_wage", .text "four")]]⟩
  table := { table := "jobs" }
  isValid := by decide

def netWagesByKind : Request where
  pivotMode := true
  pivotCols := [{ field := "kind" }]
  valueCols := [{ field := "wage", aggFunc := some "sum" },
    { field := "net_wage", aggFunc := some "max" }]

def dayOnly : List PivotPair := [⟨"kind", .text "day"⟩]

set_option maxRecDepth 20000 in
theorem exists_plan_netWages :
    ∃ p, netWages.plan netWagesByKind = .ok p ∧ p.pivot.combinations = [dayOnly] := by
  let day (field : String) : Expr :=
    .caseWhen ((Expr.col "kind").eq (.ofText "day")) (.col field)
  let pivot : PivotContext :=
    { values := [("kind", [.text "day"])], pairs := [dayOnly], combinations := [dayOnly]
      columns := [⟨"day_wage", .fn "SUM" [day "wage"]⟩,
        ⟨"day_net_wage", .fn "MAX" [day "net_wage"]⟩]
      separator := "_" }
  have filters : netWages.levelFilters netWagesByKind = .ok { rows := [] } := by
    cbv
  have kinds : netWages.source.distinctValues "kind" = .ok [.text "day"] := by
    cbv
  have context : netWages.pivotContext netWagesByKind = .ok pivot := by
    have wage : PivotContext.columnName "_" dayOnly "wage" = "day_wage" := by
      cbv
    have netWage : PivotContext.columnName "_" dayOnly "net_wage" = "day_net_wage" := by
      cbv
    have values : netWages.pivotValues 1 netWagesByKind.pivotCols =
        .ok [("kind", [.text "day"])] := by
      simp only [netWagesByKind, pivotValues, kinds]
      rfl
    simp only [pivotContext, values, pivot]
    rw [← wage, ← netWage]
    rfl
  refine ⟨⟨[⟨.fn "SUM" [day "wage"], some "day_wage"⟩,
    ⟨.fn "MAX" [day "net_wage"], some "day_net_wage"⟩], [], [], [], pivot⟩, ?_, rfl⟩
  simp only [plan, filters, context]
  cbv

/-- The name of the net wage is taken for that of the wage, which has another type. -/
theorem generatedName_standsFor_netWages :
    netWagesByKind.isPivoting = true ∧ ∃ p, netWages.plan netWagesByKind = .ok p ∧
      StandsFor netWages netWagesByKind p (PivotContext.columnName "_" dayOnly "wage")
        { field := "wage", aggFunc := some "sum" } ∧
      ¬ StandsFor netWages netWagesByKind p (PivotContext.columnName "_" dayOnly "net_wage")
        { field := "net_wage", aggFunc := some "max" } := by
  obtain ⟨p, accepted, combinations⟩ := exists_plan_netWages
  have names := (generatedName_standsFor_iff rfl accepted).2 dayOnly (by simp [combinations])
  refine ⟨rfl, p, accepted, (names _ List.mem_cons_self).2 ?_, fun stands => ?_⟩
  · exact openedBy_singleton_iff.2 (by decide +kernel)
  · have opened := (names _ (List.mem_cons_of_mem _ List.mem_cons_self)).1 stands
    exact openedBy_singleton_iff.1 opened (by decide +kernel)

/-- A generated name need not lead back to the field of its value column. -/
theorem not_generatedName_standsFor :
    ¬ ∀ (g : Grid) (r : Request) (p : RequestPlan), r.isPivoting = true → g.plan r = .ok p →
      ∀ combination ∈ p.pivot.combinations, ∀ c ∈ r.valueCols,
        valueField (PivotContext.columnName g.settings.pivot.separator combination c.field)
          g.settings.pivot.separator = c.field := by
  intro leadsBack
  obtain ⟨p, accepted, combinations⟩ := exists_plan_netWages
  have same := leadsBack netWages netWagesByKind p rfl accepted dayOnly (by simp [combinations]) _
    (List.mem_cons_of_mem _ List.mem_cons_self)
  exact absurd same (by cbv)

end Grid

end GridSql
