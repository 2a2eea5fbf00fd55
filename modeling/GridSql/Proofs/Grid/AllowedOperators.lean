import GridSql.Proofs.Filter.Operators
import GridSql.Proofs.Grid.GroupAggregates

/-!
# Which operators a request may use

Whatever way a column filter takes into the plan of a request, to the rows, to the groups that
are kept or to a generated column, the operators of its conditions are allowed by the rules that
it is compiled under. Only an advanced filter gets around the restriction: the same plan would
be made of it if its columns allowed other operators.
-/

namespace GridSql.Grid

variable {g : Grid} {r : Request} {p : RequestPlan} {option : FilterOption}
  {allowed : List FilterOption}

/--
The operators of the conditions that restrict what an accepted request selects, each with those
that are allowed by the rules that it is compiled under.
-/
inductive UsesOperator (g : Grid) (r : Request) (p : RequestPlan) :
    FilterOption → List FilterOption → Prop where
  /-- The filter of a column restricts the rows. -/
  | own {entries : ColumnFilters} {id : String} {f : ColumnFilter} {e : Expr}
      {option : FilterOption} {allowed : List FilterOption}
      (recognized : g.filterModel r = .ok (some (.columns entries)))
      (level : g.levelFiltering r (some (.columns entries)) = .direct) (entry : (id, f) ∈ entries)
      (compiled : g.filterContext.compileColumn id f = .ok e) (placed : e ∈ p.rows)
      (uses : f.Uses (g.columns.rulesFor id) option allowed) :
      UsesOperator g r p option allowed
  /-- The filter of a value column decides, by rows and by aggregates, which groups are kept. -/
  | aggregated {model : Option FilterModel} {entries : ColumnFilters} {c : ColumnRef}
      {f : ColumnFilter} {e : Expr} {option : FilterOption} {allowed : List FilterOption}
      (recognized : g.filterModel r = .ok model)
      (level : g.levelFiltering r model = .aggregated entries)
      (entry : (c, f) ∈ valueFilters r entries)
      (compiled : g.groupAggregatePredicate r entries = .ok e) (placed : e ∈ p.rows)
      (uses : f.Uses (g.columns.rulesFor c.field) option allowed) :
      UsesOperator g r p option allowed
  /-- The filter of a generated column restricts the groups under its value column's rules. -/
  | generated {entries : ColumnFilters} {id : String} {f : ColumnFilter} {e predicate : Expr}
      {option : FilterOption} {allowed : List FilterOption}
      (recognized : g.filterModel r = .ok (some (.columns entries))) (entry : (id, f) ∈ entries)
      (aggregate : p.pivot.expression? id = some e)
      (compiled : f.compile
        { label := s!"filterModel.{id}", expr := e
          type := g.source.fieldType (valueField id p.pivot.separator) }
        (g.columns.rulesFor (valueField id p.pivot.separator)) = .ok predicate)
      (placed : predicate ∈ p.having)
      (uses : f.Uses (g.columns.rulesFor (valueField id p.pivot.separator)) option allowed) :
      UsesOperator g r p option allowed
  /-- A condition of an advanced filter restricts the rows. -/
  | advanced {filter : AdvancedFilter} {e : Expr} {option : FilterOption}
      {allowed : List FilterOption}
      (recognized : g.filterModel r = .ok (some (.advanced filter)))
      (level : g.levelFiltering r (some (.advanced filter)) = .direct)
      (compiled : g.filterContext.compileAdvanced filter = .ok e) (placed : e ∈ p.rows)
      (uses : g.filterContext.Uses filter option allowed) :
      UsesOperator g r p option allowed

theorem exists_of_valueFilter {entries : ColumnFilters} {e : Expr}
    (compiled : g.groupAggregatePredicate r entries = .ok e) {c : ColumnRef} {f : ColumnFilter}
    (entry : (c, f) ∈ valueFilters r entries) :
    ∃ e, g.filterContext.compileColumn c.field f = .ok e := by
  obtain ⟨leaf, hleaf, -⟩ := bind_ok_iff.1 compiled
  obtain ⟨predicates, hpredicates, -⟩ := leafPasses_ok hleaf
  obtain ⟨e, -, he⟩ := exists_of_mem_left hpredicates entry
  exact ⟨e, he⟩

/--
A column filter is compiled, for whatever it applies to, only if every condition in it has an
operator that its rules allow, while an advanced filter is compiled alike whatever is allowed.
So the operators of an accepted request are allowed exactly if those in its advanced filter,
if it has one, happen to be.
-/
theorem usesOperator_allowed_iff (accepted : g.plan r = .ok p) :
    (∀ (t : FilterTarget) (rules : Option FilterRules) (f : ColumnFilter) (e : Expr),
      f.compile t rules = .ok e →
        ∀ option allowed, f.Uses rules option allowed → option ∈ allowed) ∧
    (∀ (c : FilterContext) (filter : AdvancedFilter) (options : List FilterOption),
      (c.withOptions options).compileAdvanced filter = c.compileAdvanced filter) ∧
    ((∀ option allowed, UsesOperator g r p option allowed → option ∈ allowed) ↔
      ∀ filter, g.filterModel r = .ok (some (.advanced filter)) →
        g.levelFiltering r (some (.advanced filter)) = .direct →
          ∀ option allowed, g.filterContext.Uses filter option allowed → option ∈ allowed) := by
  refine ⟨fun t rules f e compiled option allowed uses => uses.mem_allowed compiled,
    fun c filter options => c.compileAdvanced_withOptions options filter,
    fun all filter recognized level option allowed uses => ?_,
    fun tree option allowed uses => ?_⟩
  · obtain ⟨e, compiled, placed⟩ := exists_of_advanced accepted recognized level
    exact all option allowed (.advanced recognized level compiled placed uses)
  · cases uses with
    | own recognized level entry compiled placed uses => exact uses.mem_allowed compiled
    | aggregated recognized level entry compiled placed uses =>
        obtain ⟨e, he⟩ := exists_of_valueFilter compiled entry
        exact uses.mem_allowed he
    | generated recognized entry aggregate compiled placed uses => exact uses.mem_allowed compiled
    | advanced recognized level compiled placed uses =>
        exact tree _ recognized level option allowed uses

/-! ## Wages with restricted filters -/

theorem fault?_advancedFilter :
    ({ grid := { enableAdvancedFilter := true } } : Settings).fault? = none := by
  decide

/-- A grid whose wages have two filters, one for equal wages and one for missing ones. -/
def restrictedWages : Grid where
  source := ⟨"jobs", [⟨"wage", .integer⟩], [[("wage", .int 5)], [("wage", .null)]]⟩
  settings := { grid := { enableAdvancedFilter := true } }
  columns := .ofList [{ field := "wage", filter := some (.multi
    [.number { options := [.equals] }, .number { options := [.blank, .notBlank] }]) }]
  table := { table := "jobs" }
  isValid := fault?_advancedFilter

def missingWages : Request where
  filterModel := some (.object [("wage", .object [("filterModels", .array [.null,
      .object [("conditions", .array [.object [("type", .string "blank")],
          .object [("type", .string "notBlank")]]),
        ("filterType", .string "number"), ("operator", .string "OR")]]),
    ("filterType", .string "multi")])])

/-- The second child of a multi filter is under the rules of its position. -/
theorem usesOperator_missingWages :
    ∃ p, restrictedWages.plan missingWages = .ok p ∧
      UsesOperator restrictedWages missingWages p .blank [.blank, .notBlank] ∧
      ∀ option allowed, UsesOperator restrictedWages missingWages p option allowed →
        option ∈ allowed := by
  let wage : Expr := (Expr.col "wage").widen
  let either : ColumnFilter := .combined .or [.number ⟨.blank, none, none⟩,
    .number ⟨.notBlank, none, none⟩]
  let predicate : Expr := .conjunction [.disjunction [.isNull wage false, .isNull wage true]]
  have recognized : restrictedWages.filterModel missingWages =
      .ok (some (.columns [("wage", .multi [none, some either])])) := by
    cbv
  have accepted : restrictedWages.plan missingWages =
      .ok ⟨[⟨.col "wage", none⟩], [], [predicate], [], {}⟩ := by
    cbv
  have uses : ColumnFilter.Uses (restrictedWages.columns.rulesFor "wage")
      (.multi [none, some either]) .blank [.blank, .notBlank] :=
    .child (i := 1) rfl (.condition List.mem_cons_self (.number _ ⟨.blank, none, none⟩))
  refine ⟨_, accepted, .own recognized rfl List.mem_cons_self rfl List.mem_cons_self uses, ?_⟩
  refine (usesOperator_allowed_iff accepted).2.2.2 fun filter other => ?_
  rw [recognized] at other
  cases other

def searchedMissingWages : Request where
  filterModel := some (.object [("colId", .string "wage"), ("filterType", .string "number"),
    ("type", .string "blank")])

/-- An operator that the rules do not allow is accepted in an advanced filter. -/
theorem not_usesOperator_allowed :
    ¬ ∀ (g : Grid) (r : Request) (p : RequestPlan), g.plan r = .ok p →
      ∀ option allowed, UsesOperator g r p option allowed → option ∈ allowed := by
  intro allAllowed
  have recognized : restrictedWages.filterModel searchedMissingWages =
      .ok (some (.advanced (.column "wage" (.number .blank none)))) := by
    cbv
  have accepted : restrictedWages.plan searchedMissingWages =
      .ok ⟨[⟨.col "wage", none⟩], [], [.isNull (Expr.col "wage").widen false], [], {}⟩ := by
    cbv
  have uses : restrictedWages.filterContext.Uses (.column "wage" (.number .blank none)) .blank
      [.equals] :=
    ⟨_, List.mem_cons_self, .number .blank none⟩
  have allowed := allAllowed _ _ _ accepted .blank [.equals]
    (.advanced recognized rfl rfl List.mem_cons_self uses)
  revert allowed
  decide

end GridSql.Grid
