import GridSql.Proofs.Grid.AggregateQueries
import GridSql.Proofs.Grid.Windows
import GridSql.Proofs.Table.Distinct

/-!
# Distinct rows and groups

Three loops keep the first of values that are the same: over the rows of a DISTINCT query, over
the keys of groups and over the arguments of a DISTINCT aggregate. All of them compare a
further value with those kept so far, so they keep the same ones in the same order, also where
being the same is not transitive. Without aggregates a group is read as its first row, so a
DISTINCT query has the answer of the query that is grouped by its select list.
-/

namespace GridSql

/-! ## Expressions without aggregates -/

namespace Table

variable {t : Table}

mutual

/-- Without aggregates an expression reads the first row of a group only. -/
theorem eval_group_cons (row : Row) (rest : List Row) :
    ∀ e : Expr, e.hasAggregate = false → t.eval (.group (row :: rest)) e = t.eval (.row row) e
  | .column .., _ | .literal _, _ | .truth _, _ | .star _, _ | .existsIn .., _ | .inQuery .., _ =>
      rfl
  | .paren e, h => eval_group_cons row rest e h
  | .binary op l r, h => by
      simp only [Expr.hasAggregate, Bool.or_eq_false_iff] at h
      unfold eval
      rw [eval_group_cons row rest l h.1, eval_group_cons row rest r h.2]
  | .unary _ e, h | .cast e _, h | .isNull e _, h => by
      unfold eval
      rw [eval_group_cons row rest e h]
  | .between e low high _, h => by
      simp only [Expr.hasAggregate, Bool.or_eq_false_iff] at h
      unfold eval
      rw [eval_group_cons row rest e h.1.1, eval_group_cons row rest low h.1.2,
        eval_group_cons row rest high h.2]
  | .like e pattern _ _, h => by
      simp only [Expr.hasAggregate, Bool.or_eq_false_iff] at h
      unfold eval
      rw [eval_group_cons row rest e h.1, eval_group_cons row rest pattern h.2]
  | .inList e candidates _, h => by
      simp only [Expr.hasAggregate, Bool.or_eq_false_iff] at h
      unfold eval
      simp only [eval_group_cons row rest e h.1, evalIn_group_cons row rest candidates h.2]
  | .choice subject branches otherwise, h => by
      simp only [Expr.hasAggregate, Bool.or_eq_false_iff] at h
      unfold eval
      simp only [evalOption_group_cons row rest subject h.1.1,
        evalBranches_group_cons row rest branches h.1.2,
        evalOption_group_cons row rest otherwise h.2]
  | .call name args distinct, h => by
      simp only [Expr.hasAggregate, Bool.or_eq_false_iff, Option.isSome_eq_false_iff,
        Option.isNone_iff_eq_none] at h
      unfold eval
      rw [h.1, evalAll_group_cons row rest args h.2]

theorem evalAll_group_cons (row : Row) (rest : List Row) :
    ∀ es : List Expr, Expr.anyAggregate es = false →
      t.evalAll (.group (row :: rest)) es = t.evalAll (.row row) es
  | [], _ => rfl
  | e :: es, h => by
      simp only [Expr.anyAggregate, Bool.or_eq_false_iff] at h
      unfold evalAll
      rw [eval_group_cons row rest e h.1, evalAll_group_cons row rest es h.2]

theorem evalOption_group_cons (row : Row) (rest : List Row) :
    ∀ e : Option Expr, Expr.optionAggregate e = false →
      t.evalOption (.group (row :: rest)) e = t.evalOption (.row row) e
  | none, _ => rfl
  | some e, h => by
      unfold evalOption
      rw [eval_group_cons row rest e h]

theorem evalBranches_group_cons (row : Row) (rest : List Row) {subject : Option Value} :
    ∀ branches : List (Expr × Expr), Expr.branchAggregate branches = false →
      t.evalBranches (.group (row :: rest)) subject branches =
        t.evalBranches (.row row) subject branches
  | [], _ => rfl
  | (condition, result) :: others, h => by
      simp only [Expr.branchAggregate, Bool.or_eq_false_iff] at h
      unfold evalBranches
      rw [eval_group_cons row rest condition h.1.1, eval_group_cons row rest result h.1.2,
        evalBranches_group_cons row rest others h.2]

theorem evalIn_group_cons (row : Row) (rest : List Row) {v : Value} {negated : Bool} :
    ∀ (es : List Expr) {sawNull : Bool}, Expr.anyAggregate es = false →
      t.evalIn (.group (row :: rest)) v negated sawNull es =
        t.evalIn (.row row) v negated sawNull es
  | [], _, _ => rfl
  | e :: es, _, h => by
      simp only [Expr.anyAggregate, Bool.or_eq_false_iff] at h
      unfold evalIn
      simp only [eval_group_cons row rest e h.1, evalIn_group_cons row rest es h.2]

end

/-! ## The first of those that are the same -/

/-- Keeps a row of values unless it is the same as one kept before. -/
def keepFirst (kept : List (List Value)) (vs : List Value) : List (List Value) :=
  if kept.any (sameValues · vs) then kept else kept ++ [vs]

/-- The rows of values that are not the same as one kept before. -/
def firsts (rows : List (List Value)) : List (List Value) :=
  rows.foldl keepFirst []

theorem dropDuplicates_eq_foldl (seen ps : List Projected) :
    (dropDuplicates seen ps).map (·.values) =
      (ps.map (·.values)).foldl keepFirst (seen.reverse.map (·.values)) := by
  induction ps generalizing seen with
  | nil => rfl
  | cons p ps ih =>
      have same : (seen.reverse.map (·.values)).any (sameValues · p.values) =
          seen.any (sameValues ·.values p.values) := by
        rw [List.map_reverse, List.any_reverse, List.any_map]
        rfl
      rw [dropDuplicates, List.map_cons, List.foldl_cons, keepFirst, same]
      split
      · exact ih seen
      · rw [ih, List.reverse_cons, List.map_append, List.map_singleton]

theorem unique_eq_foldl (seen vs : List Value) :
    (Aggregate.unique seen vs).map ([·]) =
      (vs.map ([·])).foldl keepFirst (seen.reverse.map ([·])) := by
  induction vs generalizing seen with
  | nil => rfl
  | cons v vs ih =>
      have same : (seen.reverse.map ([·])).any (sameValues · [v]) = seen.any (·.same v) := by
        rw [List.map_reverse, List.any_reverse, List.any_map]
        simp [Function.comp_def, sameValues]
      rw [Aggregate.unique, List.map_cons, List.foldl_cons, keepFirst, same]
      split
      · exact ih seen
      · rw [ih, List.reverse_cons, List.map_append, List.map_singleton]

theorem map_key_addToGroup (key : List Value) (row : Row) (groups : List Group) :
    (addToGroup key row groups).map (·.key) = keepFirst (groups.map (·.key)) key := by
  induction groups with
  | nil => rfl
  | cons g rest ih =>
      rw [addToGroup, keepFirst, List.map_cons, List.any_cons]
      cases sameValues g.key key with
      | true => rfl
      | false =>
          rw [keepFirst] at ih
          rw [Bool.false_or, if_neg Bool.false_ne_true, List.map_cons, ih]
          split <;> rfl

/-- A test that rows which are the same pass alike may come before or after. -/
theorem filter_foldl_keepFirst {p : List Value → Bool}
    (respects : ∀ vs ws, sameValues vs ws = true → p vs = p ws) (kept rows : List (List Value)) :
    (rows.foldl keepFirst kept).filter p = (rows.filter p).foldl keepFirst (kept.filter p) := by
  induction rows generalizing kept with
  | nil => rfl
  | cons vs rows ih =>
      rw [List.foldl_cons, ih, List.filter_cons]
      cases passes : p vs with
      | true =>
          have same : (kept.filter p).any (sameValues · vs) = kept.any (sameValues · vs) := by
            rw [List.any_filter]
            congr 1
            funext ws
            cases alike : sameValues ws vs with
            | false => simp
            | true => simp [respects ws vs alike, passes]
          rw [if_pos rfl, List.foldl_cons, keepFirst, keepFirst, same]
          split
          · rfl
          · rw [List.filter_append, List.filter_singleton, passes]
            rfl
      | false =>
          rw [if_neg Bool.false_ne_true, keepFirst]
          split
          · rfl
          · rw [List.filter_append, List.filter_singleton, passes, cond_false, List.append_nil]

/-! ## The rows of a select list -/

variable {t : Table}

/-- Without stars the values of a select list are those of its expressions. -/
theorem evalItems_eq_evalAll {s : Scope} {items : List SelectItem}
    (noStar : ∀ item ∈ items, item.expr.isStar = false) :
    t.evalItems s items = t.evalAll s (items.map (·.expr)) := by
  induction items with
  | nil => rfl
  | cons item items ih =>
      obtain ⟨first, others⟩ := List.forall_mem_cons.1 noStar
      rw [evalItems, first, if_neg Bool.false_ne_true, List.map_cons, evalAll, ih others]
      cases t.eval s item.expr <;> rfl

theorem groupRows_eq_bind {keys : List Expr} (nonempty : keys ≠ []) (rows : List Row) :
    t.groupRows keys rows = (rows.mapM fun row => t.evalAll (.row row) keys) >>= fun vss =>
      .ok (((vss.zip rows).foldl (fun groups keyed => addToGroup keyed.1 keyed.2 groups) []).map
        (·.rows)) := by
  have run (groups : List Group) :
      rows.foldlM (fun groups row => do
        let key ← t.evalAll (.row row) keys
        pure (addToGroup key row groups)) groups =
      (rows.mapM fun row => t.evalAll (.row row) keys) >>= fun vss =>
        .ok ((vss.zip rows).foldl (fun groups keyed => addToGroup keyed.1 keyed.2 groups)
          groups) := by
    induction rows generalizing groups with
    | nil => rfl
    | cons row rows ih =>
        rw [List.foldlM_cons, List.mapM_cons]
        cases t.evalAll (.row row) keys with
        | error e => rfl
        | ok key =>
            refine (ih _).trans ?_
            cases rows.mapM fun row => t.evalAll (.row row) keys <;> rfl
  rw [groupRows, if_neg (by simpa using nonempty), run]
  cases rows.mapM fun row => t.evalAll (.row row) keys <;> rfl

def ShowsKey (t : Table) (keys : List Expr) (g : Group) : Prop :=
  ∃ row rest, g.rows = row :: rest ∧ t.evalAll (.row row) keys = .ok g.key

theorem showsKey_addToGroup {keys : List Expr} {key : List Value} {row : Row}
    (hkey : t.evalAll (.row row) keys = .ok key) {groups : List Group}
    (h : ∀ g ∈ groups, t.ShowsKey keys g) :
    ∀ g ∈ addToGroup key row groups, t.ShowsKey keys g := by
  induction groups with
  | nil => simpa [addToGroup, ShowsKey] using hkey
  | cons g groups ih =>
      obtain ⟨hg, hgroups⟩ := List.forall_mem_cons.1 h
      unfold addToGroup
      split
      · obtain ⟨first, rest, hrows, hfirst⟩ := hg
        refine List.forall_mem_cons.2 ⟨⟨first, rest ++ [row], ?_, hfirst⟩, hgroups⟩
        rw [hrows, List.cons_append]
      · exact List.forall_mem_cons.2 ⟨hg, ih hgroups⟩

theorem groups_of_keys {keys : List Expr} {keyed : List (List Value × Row)}
    (hkeyed : ∀ pair ∈ keyed, t.evalAll (.row pair.2) keys = .ok pair.1) (groups : List Group)
    (h : ∀ g ∈ groups, t.ShowsKey keys g) :
    (∀ g ∈ keyed.foldl (fun groups pair => addToGroup pair.1 pair.2 groups) groups,
      t.ShowsKey keys g) ∧
    (keyed.foldl (fun groups pair => addToGroup pair.1 pair.2 groups) groups).map (·.key) =
      (keyed.map Prod.fst).foldl keepFirst (groups.map (·.key)) := by
  induction keyed generalizing groups with
  | nil => exact ⟨h, rfl⟩
  | cons pair keyed ih =>
      obtain ⟨hpair, hkeyed⟩ := List.forall_mem_cons.1 hkeyed
      rw [List.foldl_cons, List.map_cons, List.foldl_cons, ← map_key_addToGroup pair.1 pair.2]
      exact ih hkeyed _ (showsKey_addToGroup hpair h)

/-! ## Queries for different rows -/

section

variable {items : List SelectItem} {source : Option TableRef} {filter : Option Expr}
  {window : Option Window} {kept : List Row}

def distinctQuery (items : List SelectItem) (source : Option TableRef) (filter : Option Expr)
    (window : Option Window) : Query where
  select := items
  distinct := true
  source := source
  filter := filter
  groupBy := []
  having := none
  orderBy := []
  window := window

def groupingQuery (items : List SelectItem) (source : Option TableRef) (filter : Option Expr)
    (window : Option Window) : Query :=
  { distinctQuery items source filter window with
    distinct := false
    groupBy := items.map (·.expr) }

def shownBy (t : Table) (items : List SelectItem) (rows : List Row) :
    Except SourceError (List (List Value)) :=
  rows.mapM fun row => t.evalAll (.row row) (items.map (·.expr))

theorem project_unsorted {q : Query} (unsorted : q.orderBy = [])
    (noStar : ∀ item ∈ q.select, item.expr.isStar = false) (s : Scope) :
    t.project q s = (t.evalAll s (q.select.map (·.expr))).map (⟨·, []⟩) := by
  rw [project, evalItems_eq_evalAll noStar, unsorted]
  cases t.evalAll s (q.select.map (·.expr)) <;> rfl

theorem output_distinctQuery (noStar : ∀ item ∈ items, item.expr.isStar = false)
    (noAggregate : ∀ item ∈ items, item.expr.hasAggregate = false) :
    t.output (distinctQuery items source filter window) none kept =
      (t.shownBy items kept).map fun vss =>
        ⟨t.outputColumns items, cut window (firsts vss)⟩ := by
  have plain : isGrouped (distinctQuery items source filter window) = false := by
    simpa [isGrouped, distinctQuery] using noAggregate
  have projected (rows : List Row) :
      rows.mapM (fun row => t.project (distinctQuery items source filter window) (.row row)) =
        (t.shownBy items rows).map fun vss => vss.map (⟨·, []⟩) := by
    induction rows with
    | nil => rfl
    | cons row rows ih =>
        rw [List.mapM_cons, ih, project_unsorted rfl noStar, shownBy, shownBy, List.mapM_cons]
        change (t.evalAll (.row row) (items.map (·.expr))).map _ >>= _ = _
        cases t.evalAll (.row row) (items.map (·.expr)) with
        | error e => rfl
        | ok vs => cases rows.mapM fun row => t.evalAll (.row row) (items.map (·.expr)) <;> rfl
  rw [output_eq_projections, projections, if_neg (by simp [plain]), projected]
  cases t.shownBy items kept with
  | error e => rfl
  | ok vss =>
      have first : (dropDuplicates [] (vss.map (⟨·, []⟩))).map (·.values) = firsts vss := by
        rw [dropDuplicates_eq_foldl, List.map_map]
        exact congrArg (List.foldl keepFirst []) (List.map_id vss)
      simp [Except.map, arranged, distinctQuery, sortRows, first]

theorem projectGroups_showsKey {q : Query} (unsorted : q.orderBy = [])
    (noStar : ∀ item ∈ q.select, item.expr.isStar = false)
    (noAggregate : ∀ item ∈ q.select, item.expr.hasAggregate = false) {groups : List Group}
    (h : ∀ g ∈ groups, t.ShowsKey (q.select.map (·.expr)) g) :
    t.projectGroups q none (groups.map (·.rows)) = .ok (groups.map (⟨·.key, []⟩)) := by
  have plain : Expr.anyAggregate (q.select.map (·.expr)) = false :=
    Expr.anyAggregate_eq_false_iff.2 (List.forall_mem_map.2 noAggregate)
  refine projectGroups_ok_iff.2 ⟨by simp, ?_⟩
  rw [filter_passesHaving_none, List.forall₂_map_left_iff, List.forall₂_map_right_iff]
  refine List.forall₂_same.2 fun g hg => ?_
  obtain ⟨row, rest, hrows, hrow⟩ := h g hg
  rw [project_unsorted unsorted noStar, hrows, evalAll_group_cons row rest _ plain, hrow]
  rfl

theorem output_groupingQuery (nonempty : items ≠ [])
    (noStar : ∀ item ∈ items, item.expr.isStar = false)
    (noAggregate : ∀ item ∈ items, item.expr.hasAggregate = false) :
    t.output (groupingQuery items source filter window) none kept =
      (t.shownBy items kept).map fun vss =>
        ⟨t.outputColumns items, cut window (firsts vss)⟩ := by
  have grouped : isGrouped (groupingQuery items source filter window) = true := by
    simp [isGrouped, groupingQuery, nonempty]
  have keys : items.map (·.expr) ≠ [] := by simpa using nonempty
  rw [output_eq_projections, projections, if_pos grouped]
  change (t.groupRows (items.map (·.expr)) kept >>= _).map _ = _
  rw [groupRows_eq_bind keys]
  change ((t.shownBy items kept >>= _) >>= _).map _ = _
  cases hshown : t.shownBy items kept with
  | error e => rfl
  | ok vss =>
      have rows := mapM_ok_iff.1 hshown
      have keyed : ∀ pair ∈ vss.zip kept,
          t.evalAll (.row pair.2) (items.map (·.expr)) = .ok pair.1 :=
        fun pair hpair => (List.forall₂_iff_zip.1 rows.flip).2 hpair
      obtain ⟨shows_, firstKeys⟩ := groups_of_keys keyed [] (by simp)
      have projected := projectGroups_showsKey (q := groupingQuery items source filter window)
        rfl noStar noAggregate shows_
      rw [List.map_fst_zip rows.length_eq.ge] at firstKeys
      simp only [bind, Except.bind]
      rw [projected]
      simp [Except.map, arranged, groupingQuery, distinctQuery, sortRows, Function.comp_def, firsts,
        firstKeys]

end

/-! ## Counting different values -/

theorem isNull_eq_of_same {v w : Value} (h : v.same w = true) : v.isNull = w.isNull := by
  cases v <;> cases w <;> first | rfl | cases h

/-- Rows that are the same show alike whether there is anything but null. -/
theorem any_notNull_eq_of_sameValues {vs ws : List Value} (h : sameValues vs ws = true) :
    vs.any (!·.isNull) = ws.any (!·.isNull) := by
  induction vs generalizing ws with
  | nil =>
      cases ws with
      | nil => rfl
      | cons w ws => cases h
  | cons v vs ih =>
      cases ws with
      | nil => cases h
      | cons w ws =>
          rw [sameValues, Bool.and_eq_true] at h
          rw [List.any_cons, List.any_cons, isNull_eq_of_same h.1, ih h.2]

/-- It makes no difference whether nulls are left out before or after equal values are. -/
theorem length_unique_notNull (vs : List Value) :
    (Aggregate.unique [] (vs.filter (!·.isNull))).length =
      (firsts (vs.map ([·]))).countP (·.any (!·.isNull)) := by
  have rows := filter_foldl_keepFirst (p := (·.any (!·.isNull)))
    (fun _ _ => any_notNull_eq_of_sameValues) [] (vs.map ([·]))
  have notNull : (vs.map ([·])).filter (·.any (!·.isNull)) = (vs.filter (!·.isNull)).map ([·]) := by
    rw [List.filter_map]
    congr 1
    refine List.filter_congr fun v _ => ?_
    simp
  rw [notNull, List.filter_nil] at rows
  rw [List.countP_eq_length_filter, firsts, rows, ← List.length_map (f := ([·])), unique_eq_foldl]
  rfl

theorem eval_countDistinct_eq {e : Expr} (noStar : e.isStar = false) (rows : List Row) :
    t.eval (.group rows) (.countDistinct e) =
      (rows.mapM fun row => t.eval (.row row) e).map fun vs =>
        .int (Int64.ofNat (Aggregate.unique [] (vs.filter (!·.isNull))).length) := by
  have count : Aggregate.ofName? "COUNT" = some .count := Aggregate.ofName?_name .count
  simp only [Expr.countDistinct, eval, count, noStar, Bool.and_false, Bool.false_eq_true, if_false,
    if_true]
  cases rows.mapM fun row => t.eval (.row row) e <;> rfl

theorem shownBy_singleton (e : Expr) (label : Option String) (rows : List Row) :
    t.shownBy [⟨e, label⟩] rows =
      (rows.mapM fun row => t.eval (.row row) e).map fun vs => vs.map ([·]) := by
  unfold shownBy
  induction rows with
  | nil => rfl
  | cons row rows ih =>
      rw [List.mapM_cons, List.mapM_cons, ih]
      simp only [List.map_cons, List.map_nil, evalAll]
      cases t.eval (.row row) e with
      | error fault => rfl
      | ok v => cases rows.mapM fun row => t.eval (.row row) e <;> rfl

/-! ## DISTINCT and GROUP BY -/

/--
A DISTINCT query has the answer of the query by groups of its select list, or fails with the
same error. A DISTINCT count of a single expression is the number of its different rows that
are not null.
-/
theorem run_distinct {items : List SelectItem} (nonempty : items ≠ [])
    (noStar : ∀ item ∈ items, item.expr.isStar = false)
    (noAggregate : ∀ item ∈ items, item.expr.hasAggregate = false)
    (source : Option TableRef) (filter : Option Expr) (window : Option Window) :
    t.run (distinctQuery items source filter window) =
      t.run (groupingQuery items source filter window) ∧
    ∀ e label, items = [⟨e, label⟩] → ∀ result,
      t.run (distinctQuery items source filter none) = .ok result →
        ∃ counted, t.run (countingQuery source filter (.countDistinct e)) = .ok counted ∧
          counted.rows = [[.int (Int64.ofNat (result.rows.countP (·.any (!·.isNull))))]] := by
  constructor
  · rw [run_eq rfl, run_eq rfl]
    have outputs : t.output (distinctQuery items source filter window) none =
        t.output (groupingQuery items source filter window) none := by
      funext kept
      rw [output_distinctQuery noStar noAggregate,
        output_groupingQuery nonempty noStar noAggregate]
    rw [outputs]
    rfl
  · rintro e label rfl result hrun
    obtain ⟨noStar, -⟩ := List.forall_mem_cons.1 noStar
    rw [run_eq rfl] at hrun
    obtain ⟨_, hsource, hrun⟩ := bind_ok_iff.1 hrun
    obtain ⟨kept, hkept, hrun⟩ := bind_ok_iff.1 hrun
    rw [output_distinctQuery (by simpa using noStar) noAggregate, shownBy_singleton] at hrun
    obtain ⟨_, hshown, rfl⟩ := map_ok_iff.1 hrun
    obtain ⟨vs, hvs, rfl⟩ := map_ok_iff.1 hshown
    have counted := eval_countDistinct_eq (t := t) (e := e) noStar kept
    rw [hvs, Except.map, length_unique_notNull] at counted
    refine ⟨⟨t.outputColumns [⟨.countDistinct e, none⟩], _⟩, ?_, rfl⟩
    rw [run_eq rfl]
    refine bind_ok_iff.2 ⟨_, hsource, bind_ok_iff.2 ⟨kept, hkept, ?_⟩⟩
    rw [output_countingQuery (hasAggregate_countDistinct e), counted]
    rfl

def amounts : Table where
  name := "amounts"
  columns := [⟨"amount", .other⟩]
  rows := [[("amount", .int 1)], [("amount", .null)], [("amount", .decimal (.ofInt64 1))],
    [("amount", .float 1.5)], [("amount", .null)], [("amount", .int 2)]]

theorem run_distinct_amounts :
    ∃ result, amounts.run (distinctQuery [⟨.col "amount", none⟩] none none none) = .ok result ∧
      result.rows.countP (·.any (!·.isNull)) = 3 ∧
      amounts.run (groupingQuery [⟨.col "amount", none⟩] none none none) = .ok result ∧
      ∃ counted, amounts.run (countingQuery none none (.countDistinct (.col "amount"))) =
        .ok counted ∧ counted.rows = [[.int 3]] := by
  have nonempty : [(⟨.col "amount", none⟩ : SelectItem)] ≠ [] := List.cons_ne_nil _ _
  obtain ⟨grouped, counts⟩ := run_distinct (t := amounts) nonempty (by simp [Expr.col, Expr.isStar])
    (by simp [Expr.col, Expr.hasAggregate]) none none none
  obtain ⟨result, hresult, different⟩ : ∃ result,
      amounts.run (distinctQuery [⟨.col "amount", none⟩] none none none) = .ok result ∧
        result.rows.countP (·.any (!·.isNull)) = 3 :=
    exists_of_toOption_map (by decide +kernel)
  obtain ⟨counted, hcounted, cell⟩ := counts _ _ rfl result hresult
  rw [different] at cell
  exact ⟨result, hresult, different, grouped.symm.trans hresult, counted, hcounted, cell⟩

end Table

end GridSql
