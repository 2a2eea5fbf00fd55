import GridSql.Command.Run
import GridSql.Proofs.Grid.Reported
import GridSql.Proofs.Grid.TableNames
import GridSql.Proofs.Table.KnownSource

/-!
# Tables that a grid does not find

A command answers from the table of its data file, and asks for it by the name that the file
gives it. The name is split at its last dot into a schema and a table, and the table alone is
compared with the whole name. So a file whose table has a dot in its name answers no request,
and no other file fails to be found: neither a plan nor a subquery that a request is compiled to
looks for another table.
-/

namespace GridSql

/-! ## Names with dots -/

/-- The last part of a name is the name itself only if the name has no other part. -/
theorem TableRef.eqIgnoringCase_parse_iff (name : String) :
    Text.eqIgnoringCase (parse name).table name = true ↔ '.' ∉ name.toList := by
  constructor
  · intro same dot
    have lower : Text.asciiLower (parse name).table = Text.asciiLower name := beq_iff_eq.1 same
    have length : (parse name).table.toList.length = name.toList.length := by
      simpa [Text.asciiLower] using congrArg (·.toList.length) lower
    have whole : name.toList.reverse.takeWhile (· ≠ '.') = name.toList.reverse :=
      (List.takeWhile_prefix _).eq_of_length (by simpa [parse, dot] using length)
    have plain := List.takeWhile_eq_self_iff.1 whole '.' (by simpa using dot)
    simp at plain
  · intro plain
    rw [parse_of_not_mem plain]
    exact beq_self_eq_true _

/-! ## Refusals before a query is run -/

/-- Whether an error says something else than that a table is unknown. -/
def QueryError.KnowsTable (e : QueryError) : Prop :=
  ∀ name, e ≠ .source (.unknownTable name)

theorem QueryError.IsExplained.knowsTable {e : QueryError} (h : e.IsExplained) : e.KnowsTable := by
  rintro name rfl
  exact h

theorem Explained.knowsTable {α : Type} {x : Except QueryError α} (h : Explained x) :
    FailsOnly QueryError.KnowsTable x :=
  fun _ refused => (h refused).knowsTable

theorem FailsOnly.ofSource {α : Type} {x : Except SourceError α}
    (h : FailsOnly SourceError.KnowsTable x) :
    FailsOnly QueryError.KnowsTable (x.mapError .source) :=
  h.mapError fun _ knows name same => knows name (QueryError.source.inj same)

namespace AggregateRegistry

theorem explained_functionName (c : ColumnRef) : Explained (functionName c) := by
  unfold functionName
  split
  · exact .ok _
  · exact .single _ _

theorem explained_apply (aggregates : AggregateRegistry) (name : String) (e : Expr) :
    Explained (aggregates.apply name e) := by
  unfold apply
  split
  · exact .ok _
  · exact .unrecognized _ _

theorem explained_aggregate (aggregates : AggregateRegistry) (c : ColumnRef) :
    Explained (aggregates.aggregate c) :=
  .bind (explained_functionName c) fun name => explained_apply aggregates name _

end AggregateRegistry

theorem Violations.explained_takeAll {α β : Type} {step : α → Except QueryError β}
    (explained : ∀ a, Explained (step a)) (vs : Violations) (l : List α) :
    Explained (takeAll step vs l) := by
  induction l generalizing vs with
  | nil => exact .ok _
  | cons a l ih =>
      refine .bind (explained_take vs (explained a)) fun _ => ?_
      exact .bind (ih _) fun _ => .ok _

namespace Grid

variable {g : Grid} {r : Request} {p : RequestPlan}

theorem explained_groupAggregatePredicate (entries : ColumnFilters) :
    Explained (g.groupAggregatePredicate r entries) := by
  have leaf (filters : List (ColumnRef × ColumnFilter)) : Explained (g.leafPasses r filters) :=
    .bind (Violations.explained_takeAll (fun _ => ColumnFilter.explained_compile _ _ _) _ _)
      fun _ => Violations.explained_finish _ _
  have group (filters : List (ColumnRef × ColumnFilter)) (depth : Nat) :
      Explained (g.groupPasses r filters depth) := by
    refine .bind (.mapM (fun (c, f) => ?_) _) fun _ => .ok _
    exact .bind (AggregateRegistry.explained_aggregate _ _) fun _ =>
      ColumnFilter.explained_compile _ _ _
  exact .bind (leaf _) fun _ => .bind (.mapM (fun depth => group _ _) _) fun _ => .ok _

theorem explained_levelFilters (g : Grid) (r : Request) : Explained (g.levelFilters r) := by
  unfold levelFilters
  refine .bind (Violations.explained_take _ explained_validate) fun _ => ?_
  refine .bind (Violations.explained_take _ explained_filterModel) fun model => ?_
  refine .bind (Violations.explained_take _ (Violations.explained_finish _ _)) fun keys => ?_
  dsimp only
  split
  · exact Violations.explained_finish _ _
  · split
    · exact .bind (explained_groupAggregatePredicate _) fun _ => .ok _
    · exact Violations.explained_finish _ _
  · unfold directFilters
    split
    · exact Violations.explained_finish _ _
    · exact .bind (Violations.explained_take _ (FilterContext.explained_compileAdvanced _ _))
        fun _ => Violations.explained_finish _ _
    · exact .bind (Violations.explained_takeAll
        (fun _ => ColumnFilter.explained_compile _ _ _) _ _) fun _ =>
          Violations.explained_finish _ _

/-- Generated columns are looked up in the rows of the table, whatever it is called. -/
theorem knows_pivotContext (g : Grid) (r : Request) :
    FailsOnly QueryError.KnowsTable (g.pivotContext r) := by
  have counted (limit : Option Nat) (actual : Nat) :
      FailsOnly QueryError.KnowsTable (PivotContext.checkCount limit actual) := by
    unfold PivotContext.checkCount
    split
    · exact .ite (.error fun _ h => by cases h) (.ok _)
    · exact .ok _
  have values (cols : List ColumnRef) (count : Nat) :
      FailsOnly QueryError.KnowsTable (g.pivotValues count cols) := by
    induction cols generalizing count with
    | nil => exact .ok _
    | cons c cols ih =>
        have distinct : FailsOnly SourceError.KnowsTable (g.source.distinctValues c.field) :=
          .ite (.ok _) (.error fun _ h => by cases h)
        exact distinct.ofSource.bind fun _ _ => (counted _ _).bind fun _ _ =>
          (ih _).bind fun _ _ => .ok _
  unfold pivotContext
  refine .ite ((values _ _).bind fun values _ => ?_) (.ok _)
  refine (counted _ _).bind fun _ _ => ?_
  refine FailsOnly.bind (.mapM fun combination _ => ?_) fun _ _ => .ok _
  refine .mapM fun c _ => (AggregateRegistry.explained_functionName c).knowsTable.bind fun _ _ => ?_
  exact (AggregateRegistry.explained_apply _ _ _).knowsTable.bind fun _ _ => .ok _

theorem explained_ofRequest (r : Request) (aggregates : AggregateRegistry)
    (projection : List String) (childCount : Option String) :
    Explained (GroupingPlan.ofRequest r aggregates projection childCount) := by
  unfold GroupingPlan.ofRequest
  dsimp only
  split
  · split
    · exact .ok _
    · refine .bind (.mapM (fun c => ?_) _) fun _ => .ok _
      exact .bind (AggregateRegistry.explained_aggregate _ _) fun _ => .ok _
  · exact .ok _

theorem knows_plan (g : Grid) (r : Request) : FailsOnly QueryError.KnowsTable (g.plan r) := by
  refine (explained_levelFilters g r).knowsTable.bind fun filters _ => ?_
  refine (knows_pivotContext g r).bind fun pivot _ => ?_
  refine (explained_ofRequest _ _ _ _).knowsTable.bind fun level _ => ?_
  exact (explained_pivotPredicates _ _).knowsTable.bind fun _ _ => .ok _

/-! ## Queries on the grid's own table -/

theorem answers_of_apply (builtin : g.aggregates = .builtin) {name : String} {e a : Expr}
    (h : g.aggregates.apply name e = .ok a) :
    g.source.Answers a := by
  rw [builtin] at h
  obtain ⟨f, hf, rfl⟩ := AggregateRegistry.apply_ok_iff.1 h
  obtain ⟨sql, -, -, apply⟩ := apply_of_builtin hf
  rw [apply]
  exact Table.answers_call sql [e] false

theorem answers_column (t : Table) (owner : Option String) (name : String) :
    t.Answers (.column owner name) :=
  Table.answers_of_plain fun _ => ⟨_, rfl⟩

section

variable (own : g.ReadsOwn) (hookless : g.Hookless) (builtin : g.aggregates = .builtin)

include own

theorem knows_inside {asName : String} {depth : Nat} {keys predicates having_ : List Expr}
    (rows : ∀ e ∈ predicates, g.source.Answers e) (groups : ∀ e ∈ having_, g.source.Answers e)
    (outer : Option OuterRow) :
    FailsOnly SourceError.KnowsTable (g.source.runWithin outer
      (g.inside asName (g.sameGroups r depth ++ predicates) keys having_)) := by
  have closed := Table.filterClosed_answers (t := g.source)
  have same : ∀ e ∈ g.sameGroups r depth, g.source.Answers e := by
    refine List.forall_mem_map.2 fun field _ => ?_
    have cell := answers_column g.source none field
    have around := answers_column g.source (some g.table.table) field
    exact closed.binary (closed.binary cell around .eq)
      (closed.binary (closed.isNull cell false) (closed.isNull around false) .and) .or
  exact Table.knows_runWithin own.checkSource
    (closed.whereClause (List.forall_mem_append.2 ⟨same, rows⟩)) (closed.whereClause groups) outer

include hookless builtin

theorem answers_of_plan (accepted : g.plan r = .ok p) :
    (∀ e ∈ p.rows, g.source.Answers e) ∧ ∀ e ∈ p.having, g.source.Answers e := by
  have closed := Table.filterClosed_answers (t := g.source)
  have column := answers_column g.source none
  have hooks := hookless.keep g.source.Answers
  constructor
  · refine forall_rows_of_closed closed (hookless.hooksKeep _) column (fun _ _ _ _ q decides => ?_)
      accepted
    refine Table.answers_existsIn (fun outer => ?_) false
    rcases decides with ⟨predicates, compiled, rfl⟩ | ⟨depth, predicates, compiled, rfl⟩
    · have onRows := forall_rowPredicates_of_closed closed hooks column compiled
      exact knows_inside own onRows (by simp) outer
    · have onGroups := forall_aggregatePredicates_of_closed closed hooks (fun filter _ a ha => ?_)
        compiled
      · rw [← List.append_nil (g.sameGroups r depth)]
        exact knows_inside own (by simp) onGroups outer
      · obtain ⟨function, -, applied⟩ := bind_ok_iff.1 ha
        exact answers_of_apply builtin applied
  · obtain ⟨_, _, -, hpivot, -, hhaving, -⟩ := plan_ok accepted
    refine forall_pivotPredicates_of_closed closed hooks (fun generated hgenerated => ?_) hhaving
    obtain ⟨-, _, -, _, -, _, -, applied⟩ := exists_applied_of_pivotColumn hpivot hgenerated
    exact answers_of_apply builtin applied

theorem knows_countQuery (accepted : g.plan r = .ok p) :
    FailsOnly SourceError.KnowsTable (g.source.count (g.countQuery r p)) := by
  have closed := Table.filterClosed_answers (t := g.source)
  obtain ⟨rows, conditions⟩ := answers_of_plan own hookless builtin accepted
  have counting {es : List Expr} (h : ∀ e ∈ es, g.source.Answers e) (number : Expr) :
      FailsOnly SourceError.KnowsTable
        (g.source.count (Table.countingQuery (some g.table) (Table.whereClause es) number)) :=
    Table.knows_count fun outer =>
      Table.knows_runWithin own.checkSource (closed.whereClause h) (fun _ h => by cases h) outer
  cases column : g.countedColumn? r with
  | none =>
      rw [countQuery_rows column]
      exact counting rows _
  | some c =>
      by_cases all : p.having = []
      · rw [countQuery_groups column all]
        exact counting rows _
      · rw [countQuery_conditions column all]
        refine counting (List.forall_mem_append.2 ⟨rows, List.forall_mem_singleton.2 ?_⟩) _
        refine Table.answers_inQuery (answers_column _ none c.field) (fun outer => ?_) false
        exact Table.knows_runWithin own.checkSource (closed.whereClause rows)
          (closed.whereClause conditions) outer

end

/-! ## Answers -/

/-- Whether no request is refused because its table is unknown. -/
def KnowsTable (g : Grid) : Prop :=
  ∀ r name, g.rows r ≠ .error (.source (.unknownTable name)) ∧
    g.count r ≠ .error (.source (.unknownTable name))

theorem knowsTable_of_readsOwn (own : g.ReadsOwn) (hookless : g.Hookless)
    (builtin : g.aggregates = .builtin) : g.KnowsTable := by
  have rows (r : Request) : FailsOnly QueryError.KnowsTable (g.rows r) := by
    refine FailsOnly.bind ((knows_plan g r).bind fun _ _ => .ok _) fun (q, pivot) query => ?_
    obtain ⟨p, accepted, -, rfl⟩ := query_ok query
    obtain ⟨rows, conditions⟩ := answers_of_plan own hookless builtin accepted
    have closed := Table.filterClosed_answers (t := g.source)
    exact (Table.knows_runWithin own.checkSource (closed.whereClause rows)
      (closed.whereClause conditions) none).ofSource.bind fun _ _ => .ok _
  have count (r : Request) : FailsOnly QueryError.KnowsTable (g.count r) :=
    (knows_plan g r).bind fun p accepted =>
      (knows_countQuery own hookless builtin accepted).ofSource
  exact fun r name => ⟨fun h => rows r h name rfl, fun h => count r h name rfl⟩

/-- A grid that does not find its table fails for it once a request is planned. -/
theorem unknownTable_of_not_readsOwn (other : ¬ g.ReadsOwn) (accepted : g.plan r = .ok p) :
    g.rows r = .error (.source (.unknownTable g.table.table)) ∧
      g.count r = .error (.source (.unknownTable g.table.table)) := by
  have run {q : Query} (source : q.source = some g.table) :
      g.source.run q = .error (.unknownTable g.table.table) := by
    have refused : g.source.checkSource q.source = .error (.unknownTable g.table.table) := by
      rw [source]
      exact if_neg other
    rw [Table.run, Table.runWithin_eq, refused]
    rfl
  have counting : (g.countQuery r p).source = some g.table := by
    unfold countQuery
    rw [filtered_eq]
    dsimp only
    split
    · rfl
    · split <;> rfl
  constructor
  · rw [rows, query, accepted]
    have assembled : (g.assemble r p).source = some g.table := by
      rw [assemble_eq_window]
      rfl
    change (g.source.run (g.assemble r p)).mapError QueryError.source >>= _ = _
    rw [run assembled]
    rfl
  · rw [count, accepted]
    change (g.source.run (g.countQuery r p) >>= _).mapError QueryError.source = _
    rw [run counting]
    rfl

/-- A request that asks for nothing is planned over every table. -/
theorem exists_plan (g : Grid) : ∃ p, g.plan {} = .ok p :=
  ⟨_, rfl⟩

theorem knowsTable_iff (hookless : g.Hookless) (builtin : g.aggregates = .builtin) :
    g.KnowsTable ↔ g.ReadsOwn := by
  refine ⟨fun knows => ?_, fun own => knowsTable_of_readsOwn own hookless builtin⟩
  by_contra other
  obtain ⟨p, accepted⟩ := exists_plan g
  exact (knows {} _).1 (unknownTable_of_not_readsOwn other accepted).1

end Grid

namespace Command

variable {given : Given} {env : Environment} {i : Inputs} {g : Grid} {r : Request}

/-- A command sets up its grid without hooks, and names the table as the data file does. -/
theorem gridOf_ok (opened : gridOf given env i = .ok g) :
    tableOf i.data = .ok g.source ∧ g.table = TableRef.parse g.source.name ∧ g.Hookless ∧
      g.aggregates = .builtin := by
  obtain ⟨settings, -, h⟩ := bind_ok_iff.1 opened
  obtain ⟨table, loaded, h⟩ := bind_ok_iff.1 h
  rw [mapError_ok_iff] at loaded
  unfold GridConfig.build at h
  split at h
  · cases h
  · obtain ⟨name, hname, h⟩ := bind_ok_iff.1 h
    cases hname
    cases h
    exact ⟨loaded, rfl, ⟨rfl, rfl, rfl, fun _ _ h => by cases h⟩, rfl⟩

/--
A command finds the table of its data file exactly if there is no dot in its name. Behind a name
with a dot no request is answered: once it is planned, the last part of the name is unknown.
-/
theorem knowsTable_gridOf_iff {t : Table} (loaded : tableOf i.data = .ok t)
    (opened : gridOf given env i = .ok g) :
    (g.KnowsTable ↔ '.' ∉ t.name.toList) ∧
      ('.' ∈ t.name.toList → ∀ r p, g.plan r = .ok p →
        g.rows r = .error (.source (.unknownTable (TableRef.parse t.name).table)) ∧
          g.count r = .error (.source (.unknownTable (TableRef.parse t.name).table))) := by
  obtain ⟨loaded', named, hookless, builtin⟩ := gridOf_ok opened
  cases loaded.symm.trans loaded'
  have own : g.ReadsOwn ↔ '.' ∉ g.source.name.toList := by
    rw [Grid.ReadsOwn, named]
    exact TableRef.eqIgnoringCase_parse_iff g.source.name
  rw [Grid.knowsTable_iff hookless builtin, own, ← named]
  exact ⟨Iff.rfl, fun dot r p accepted =>
    Grid.unknownTable_of_not_readsOwn (fun reads => own.1 reads dot) accepted⟩

/-! ## Orders of a shop -/

def ordersFile (name : String) : Inputs where
  settings := .ok {}
  data := .text ("\x7b\"table\":\"" ++ name ++ "\",\"columns\":[\x7b\"name\":\"item\"\x7d],
    \"rows\":[\x7b\"item\":\"pen\"\x7d]\x7d")
  request := .text "\x7b\x7d"

theorem gridOf_ordersFile :
    ∃ g, gridOf [] (fun _ => none) (ordersFile "orders") = .ok g ∧ g.source.name = "orders" :=
  exists_of_toOption_map (by decide +kernel)

theorem gridOf_shopOrders :
    ∃ g, gridOf [] (fun _ => none) (ordersFile "shop.orders") = .ok g ∧
      g.source.name = "shop.orders" :=
  exists_of_toOption_map (by decide +kernel)

/-- Orders are found, and orders of a shop are not, whatever is asked of them. -/
theorem knowsTable_ordersFile :
    (∃ t g, tableOf (ordersFile "orders").data = .ok t ∧
      gridOf [] (fun _ => none) (ordersFile "orders") = .ok g ∧ g.KnowsTable) ∧
    ∃ t g, tableOf (ordersFile "shop.orders").data = .ok t ∧
      gridOf [] (fun _ => none) (ordersFile "shop.orders") = .ok g ∧
        ∀ r p, g.plan r = .ok p → g.count r = .error (.source (.unknownTable "orders")) := by
  obtain ⟨g, opened, name⟩ := gridOf_ordersFile
  obtain ⟨g', opened', name'⟩ := gridOf_shopOrders
  have found := knowsTable_gridOf_iff (gridOf_ok opened).1 opened
  have lost := knowsTable_gridOf_iff (gridOf_ok opened').1 opened'
  rw [name] at found
  rw [name'] at lost
  have last : (TableRef.parse "shop.orders").table = "orders" := by cbv
  refine ⟨⟨_, g, (gridOf_ok opened).1, opened, found.1.2 (by decide)⟩,
    _, g', (gridOf_ok opened').1, opened', fun r p accepted => ?_⟩
  rw [(lost.2 (by decide) r p accepted).2, last]

/-- A file that is read need not answer anything. -/
theorem not_knowsTable_gridOf :
    ¬ ∀ (given : Given) (env : Environment) (i : Inputs) (g : Grid),
      gridOf given env i = .ok g → g.KnowsTable := by
  intro known
  obtain ⟨g, opened, name⟩ := gridOf_shopOrders
  obtain ⟨-, named, hookless, builtin⟩ := gridOf_ok opened
  have own := (Grid.knowsTable_iff hookless builtin).1 (known _ _ _ g opened)
  rw [Grid.ReadsOwn, named, name, TableRef.eqIgnoringCase_parse_iff] at own
  exact own (by decide)

end Command

end GridSql
