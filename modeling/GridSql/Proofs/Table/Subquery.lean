import GridSql.Proofs.Table.Grouped
import GridSql.Proofs.Table.Matched

/-!
# Queries inside a row

An EXISTS subquery is run inside every row of the query around it. If it can be run, it
finds something exactly if all of its predicates are true on a row of the table, or all of
its HAVING predicates on a group of such rows.
-/

namespace GridSql

namespace Table

variable {t : Table} {outer : Option OuterRow} {row : Row} {rows : List Row} {s : Scope}

/-! ## Tests -/

theorem test_eq_true_iff {e : Expr} :
    t.test s e = .ok true ↔ t.eval s e = .ok (.bool true) := by
  unfold test
  rw [bind_ok_iff]
  constructor
  · rintro ⟨v, hv, h⟩
    split at h
    · cases h
      exact hv
    · cases h
  · intro h
    exact ⟨_, h, rfl⟩

theorem eval_and_eq_true_iff {l r : Expr} :
    t.eval s (.binary .and l r) = .ok (.bool true) ↔
      t.eval s l = .ok (.bool true) ∧ t.eval s r = .ok (.bool true) := by
  have isTrue {a : Option Bool} : Value.bool true = .ofTruth a ↔ a = some true := by
    constructor
    · intro h
      exact (ofTruth_injective (show Value.ofTruth (some true) = .ofTruth a from h)).symm
    · rintro rfl
      rfl
  rw [eval_and_ok_iff]
  constructor
  · rintro ⟨a, ha, h⟩
    split at h
    · next hfalse =>
        rw [hfalse, isTrue] at h
        cases h
    · obtain ⟨b, hb, h⟩ := h
      obtain ⟨rfl, rfl⟩ := andTruth_eq_true_iff.1 (isTrue.1 h)
      exact ⟨ha, hb⟩
  · rintro ⟨hl, hr⟩
    exact ⟨some true, hl, some true, hr, rfl⟩

/-! ## Predicates inside a row -/

/-- Whether a predicate inside a row is true on a row of the table. -/
def Holds (t : Table) (outer : Option OuterRow) (row : Row) (e : Expr) : Prop :=
  ∃ f, t.boundWithin outer e row = .ok f ∧ t.eval (.row row) f = .ok (.bool true)

/-- Whether a predicate inside a row is true of a group. -/
def HoldsOfGroup (t : Table) (outer : Option OuterRow) (rows : List Row) (e : Expr) : Prop :=
  ∃ p, t.resolve outer e = .ok p ∧ t.eval (.group rows) p.expr = .ok (.bool true)

theorem holds_iff_of_decides {e f : Expr} {P : Prop} (bound : t.boundWithin outer e row = .ok f)
    (h : t.Decides (.row row) f P) :
    t.Holds outer row e ↔ P := by
  obtain ⟨b, hb, hP⟩ := h
  rw [← hP]
  simp only [Holds, bound, Except.ok.injEq, exists_eq_left', hb]
  rcases b with _ | _ | _ <;> simp [Value.ofTruth]

theorem boundWithin_foldl_ok_iff {op : BinaryOp} {e f : Expr} {es : List Expr} :
    t.boundWithin outer (es.foldl (.binary op) e) row = .ok f ↔
      ∃ e' es', t.boundWithin outer e row = .ok e' ∧
        List.Forall₂ (fun e e' => t.boundWithin outer e row = .ok e') es es' ∧
          f = es'.foldl (.binary op) e' := by
  induction es generalizing e with
  | nil =>
      constructor
      · intro h
        exact ⟨f, [], h, .nil, rfl⟩
      · rintro ⟨e', _, h, ⟨⟩, rfl⟩
        exact h
  | cons d es ih =>
      rw [List.foldl_cons, ih]
      constructor
      · rintro ⟨m, es', hm, hes, rfl⟩
        obtain ⟨e', d', he, hd, rfl⟩ := boundWithin_binary_ok_iff.1 hm
        exact ⟨e', d' :: es', he, .cons hd hes, rfl⟩
      · rintro ⟨e', _, he, hall, rfl⟩
        obtain ⟨d', es', hd, hes, rfl⟩ := List.forall₂_cons_left_iff.1 hall
        exact ⟨_, es', boundWithin_binary_ok_iff.2 ⟨e', d', he, hd, rfl⟩, hes, rfl⟩

theorem holds_and_iff {l r : Expr} :
    t.Holds outer row (.binary .and l r) ↔ t.Holds outer row l ∧ t.Holds outer row r := by
  constructor
  · rintro ⟨f, hf, htrue⟩
    obtain ⟨l', r', hl, hr, rfl⟩ := boundWithin_binary_ok_iff.1 hf
    obtain ⟨hl', hr'⟩ := eval_and_eq_true_iff.1 htrue
    exact ⟨⟨l', hl, hl'⟩, r', hr, hr'⟩
  · rintro ⟨⟨l', hl, hl'⟩, r', hr, hr'⟩
    exact ⟨_, boundWithin_binary_ok_iff.2 ⟨l', r', hl, hr, rfl⟩, eval_and_eq_true_iff.2 ⟨hl', hr'⟩⟩

theorem holds_foldl_iff {e : Expr} {es : List Expr} :
    t.Holds outer row (es.foldl (.binary .and) e) ↔ ∀ f ∈ e :: es, t.Holds outer row f := by
  induction es generalizing e with
  | nil => simp
  | cons f es ih =>
      rw [List.foldl_cons, ih, List.forall_mem_cons, holds_and_iff]
      simp [and_assoc]

theorem holdsOfGroup_and_iff {l r : Expr} :
    t.HoldsOfGroup outer rows (.binary .and l r) ↔
      t.HoldsOfGroup outer rows l ∧ t.HoldsOfGroup outer rows r := by
  simp only [HoldsOfGroup, resolve, bind_ok_iff]
  constructor
  · rintro ⟨_, ⟨p, hp, q, hq, heq⟩, htrue⟩
    cases heq
    obtain ⟨hl, hr⟩ := eval_and_eq_true_iff.1 htrue
    exact ⟨⟨p, hp, hl⟩, q, hq, hr⟩
  · rintro ⟨⟨p, hp, hl⟩, q, hq, hr⟩
    exact ⟨_, ⟨p, hp, q, hq, rfl⟩, eval_and_eq_true_iff.2 ⟨hl, hr⟩⟩

theorem holdsOfGroup_foldl_iff {e : Expr} {es : List Expr} :
    t.HoldsOfGroup outer rows (es.foldl (.binary .and) e) ↔
      ∀ f ∈ e :: es, t.HoldsOfGroup outer rows f := by
  induction es generalizing e with
  | nil => simp
  | cons f es ih =>
      rw [List.foldl_cons, ih, List.forall_mem_cons, holdsOfGroup_and_iff]
      simp [and_assoc]

/-! ## Running a query inside a row -/

def matchedWithin (t : Table) (outer : Option OuterRow) (filter : Option Expr) :
    Except SourceError (List Row) := do
  match ← t.resolveOption outer filter with
  | some p => t.rows.filterM fun row => do t.test (.row row) (← p.onRow row)
  | none => .ok t.rows

theorem matched_eq_matchedWithin (filter : Option Expr) :
    t.matched filter = t.matchedWithin none filter :=
  rfl

/-- What runs inside a row is answered from the rows that pass the WHERE clause there. -/
theorem runWithin_ok_iff {q : Query} {result : ResultSet} :
    t.runWithin outer q = .ok result ↔
      t.checkSource q.source = .ok () ∧ ∃ kept having_,
        t.matchedWithin outer q.filter = .ok kept ∧
        t.resolveOption outer q.having = .ok having_ ∧
        t.output q (having_.map (·.expr)) kept = .ok result := by
  obtain ⟨select, distinct, source, filter, groupBy, having_, orderBy, window⟩ := q
  constructor
  · intro h
    obtain ⟨⟨⟩, hsource, h⟩ := bind_ok_iff.1 h
    obtain ⟨filter', hfilter, h⟩ := bind_ok_iff.1 h
    obtain ⟨having', hhaving, h⟩ := bind_ok_iff.1 h
    cases filter' <;>
    · obtain ⟨kept, hkept, houtput⟩ := bind_ok_iff.1 h
      exact ⟨hsource, kept, having', bind_ok_iff.2 ⟨_, hfilter, hkept⟩, hhaving, houtput⟩
  · rintro ⟨hsource, kept, having', hmatched, hhaving, houtput⟩
    obtain ⟨filter', hfilter, hkept⟩ := bind_ok_iff.1 hmatched
    refine bind_ok_iff.2 ⟨(), hsource, bind_ok_iff.2 ⟨filter', hfilter, bind_ok_iff.2
      ⟨having', hhaving, ?_⟩⟩⟩
    cases filter' <;> exact bind_ok_iff.2 ⟨kept, hkept, houtput⟩

theorem holds_iff_of_test {e : Expr} {p : Resolved} (hp : t.resolve outer e = .ok p) {b : Bool}
    (h : (do t.test (.row row) (← p.onRow row)) = .ok b) :
    b = true ↔ t.Holds outer row e := by
  have bound {f : Expr} : t.boundWithin outer e row = .ok f ↔ p.onRow row = .ok f := by
    simp [boundWithin, hp, bind, Except.bind]
  constructor
  · rintro rfl
    obtain ⟨f, hf, htest⟩ := bind_ok_iff.1 h
    exact ⟨f, bound.2 hf, test_eq_true_iff.1 htest⟩
  · rintro ⟨f, hf, htrue⟩
    rw [bound.1 hf] at h
    exact Except.ok.inj (h.symm.trans (test_eq_true_iff.2 htrue))

theorem matchedWithin_eq {es : List Expr} {kept : List Row}
    (h : t.matchedWithin outer (whereClause es) = .ok kept) :
    ∃ passes : Row → Bool, kept = t.rows.filter passes ∧
      ∀ row ∈ t.rows, (passes row = true ↔ ∀ e ∈ es, t.Holds outer row e) := by
  cases es with
  | nil =>
      cases h
      exact ⟨fun _ => true, by simp, by simp⟩
  | cons e es =>
      obtain ⟨p?, hwhole, h⟩ := bind_ok_iff.1 h
      obtain ⟨p, hp, rfl⟩ := map_ok_iff.1 hwhole
      obtain ⟨tested, rfl⟩ := filterM_ok_iff.1 h
      refine ⟨_, rfl, fun row hrow => ?_⟩
      obtain ⟨b, hb⟩ := tested row hrow
      rw [hb, ← holds_foldl_iff, ← holds_iff_of_test hp hb]
      rfl

/-- Where rows can be matched, the subqueries of every predicate can be run on each of them. -/
theorem exists_bound_of_matchedWithin {es : List Expr} {kept : List Row}
    (h : t.matchedWithin outer (whereClause es) = .ok kept) (hrow : row ∈ t.rows) :
    ∀ e ∈ es, ∃ f, t.boundWithin outer e row = .ok f := by
  cases es with
  | nil => simp
  | cons e es =>
      obtain ⟨p?, hwhole, h⟩ := bind_ok_iff.1 h
      obtain ⟨p, hp, rfl⟩ := map_ok_iff.1 hwhole
      obtain ⟨b, hb⟩ := (filterM_ok_iff.1 h).1 row hrow
      obtain ⟨f, hf, -⟩ := bind_ok_iff.1 hb
      obtain ⟨first, others, hfirst, hothers, -⟩ :=
        boundWithin_foldl_ok_iff.1 (bind_ok_iff.2 ⟨p, hp, hf⟩)
      refine List.forall_mem_cons.2 ⟨⟨first, hfirst⟩, fun d hd => ?_⟩
      obtain ⟨d', -, hd'⟩ := exists_of_mem_left hothers hd
      exact ⟨d', hd'⟩

def Evaluates (t : Table) (outer : Option OuterRow) (row : Row) (e : Expr) : Prop :=
  ∃ f v, t.boundWithin outer e row = .ok f ∧ t.eval (.row row) f = .ok v

theorem Evaluates.left_of_logical {op : BinaryOp} (hop : op.isLogical = true) {l r : Expr}
    (h : t.Evaluates outer row (.binary op l r)) :
    t.Evaluates outer row l := by
  obtain ⟨f, v, hf, hv⟩ := h
  obtain ⟨l', r', hl, -, rfl⟩ := boundWithin_binary_ok_iff.1 hf
  obtain ⟨a, ha, -⟩ := (eval_logical_ok_iff hop).1 hv
  exact ⟨l', _, hl, ha⟩

theorem Evaluates.right_of_and {l r : Expr} (h : t.Evaluates outer row (.binary .and l r))
    (hl : t.Holds outer row l) :
    t.Evaluates outer row r := by
  obtain ⟨f, v, hf, hv⟩ := h
  obtain ⟨l', r', hbound, hr, rfl⟩ := boundWithin_binary_ok_iff.1 hf
  obtain ⟨l'', hbound', htrue⟩ := hl
  rw [hbound, Except.ok.injEq] at hbound'
  subst hbound'
  obtain ⟨a, ha, h⟩ := eval_and_ok_iff.1 hv
  have undecided : a ≠ some false := by
    rintro rfl
    rw [htrue] at ha
    cases ha
  rw [if_neg undecided] at h
  obtain ⟨b, hb, -⟩ := h
  exact ⟨r', _, hr, hb⟩

theorem Evaluates.of_foldl {op : BinaryOp} (hop : op.isLogical = true) {e : Expr}
    {es : List Expr} (h : t.Evaluates outer row (es.foldl (.binary op) e)) :
    t.Evaluates outer row e := by
  induction es generalizing e with
  | nil => exact h
  | cons f es ih => exact (ih h).left_of_logical hop

/-- Behind predicates that are true on a row, a WHERE clause goes on to the next one. -/
theorem evaluates_of_matchedWithin {front back : List Expr} {e : Expr} {kept : List Row}
    (h : t.matchedWithin outer (whereClause (front ++ e :: back)) = .ok kept)
    (hrow : row ∈ t.rows) (front_true : ∀ d ∈ front, t.Holds outer row d) :
    t.Evaluates outer row e := by
  -- The whole clause is evaluated on every row, from the left.
  have whole {w : Expr} (hw : whereClause (front ++ e :: back) = some w) :
      t.Evaluates outer row w := by
    rw [hw] at h
    obtain ⟨p?, hwhole, h⟩ := bind_ok_iff.1 h
    obtain ⟨p, hp, rfl⟩ := map_ok_iff.1 hwhole
    obtain ⟨b, hb⟩ := (filterM_ok_iff.1 h).1 row hrow
    obtain ⟨f, hf, hb⟩ := bind_ok_iff.1 hb
    obtain ⟨v, hv, -⟩ := bind_ok_iff.1 hb
    exact ⟨f, v, bind_ok_iff.2 ⟨p, hp, hf⟩, hv⟩
  cases front with
  | nil => exact (whole rfl).of_foldl rfl
  | cons d front =>
      have joined : t.Evaluates outer row ((front ++ e :: back).foldl (.binary .and) d) := whole rfl
      rw [List.foldl_append, List.foldl_cons] at joined
      exact (joined.of_foldl rfl).right_of_and (holds_foldl_iff.2 front_true)

/-! ## Groups inside a row -/

theorem passesHaving_eq_true_iff {having_ : Option Expr} :
    t.passesHaving having_ rows = true ↔
      ∀ e ∈ having_, t.eval (.group rows) e = .ok (.bool true) := by
  cases having_ with
  | none => simp [passesHaving]
  | some e =>
      have tested : isTrue (t.test (.group rows) e) = true ↔ t.test (.group rows) e = .ok true := by
        cases t.test (.group rows) e <;> simp [isTrue]
      simp [passesHaving, tested, test_eq_true_iff]

theorem passesHaving_whereClause_iff {es : List Expr} {having_ : Option Resolved}
    (h : t.resolveOption outer (whereClause es) = .ok having_) :
    t.passesHaving (having_.map (·.expr)) rows = true ↔
      ∀ e ∈ es, t.HoldsOfGroup outer rows e := by
  rw [passesHaving_eq_true_iff]
  cases es with
  | nil =>
      cases h
      simp
  | cons e es =>
      obtain ⟨p, hp, rfl⟩ := map_ok_iff.1 h
      have whole : t.HoldsOfGroup outer rows (es.foldl (.binary .and) e) ↔
          t.eval (.group rows) p.expr = .ok (.bool true) := by
        simp [HoldsOfGroup, hp]
      rw [← holdsOfGroup_foldl_iff, whole]
      simp

theorem exists_row_iff {q : Query} {es : List Expr} (plain : isGrouped q = false)
    (all : q.distinct = false ∧ q.window = none) (hfilter : q.filter = whereClause es)
    {result : ResultSet} (h : t.runWithin outer q = .ok result) :
    result.rows ≠ [] ↔ ∃ row ∈ t.rows, ∀ e ∈ es, t.Holds outer row e := by
  obtain ⟨-, kept, having_, hkept, hhaving, houtput⟩ := runWithin_ok_iff.1 h
  have noHaving : q.having = none := by
    simp only [isGrouped, Bool.or_eq_false_iff] at plain
    simpa using plain.1.2
  rw [noHaving] at hhaving
  cases hhaving
  rw [hfilter] at hkept
  obtain ⟨passes, rfl, holds⟩ := matchedWithin_eq hkept
  have length := length_output plain all houtput
  rw [ne_eq, ← List.length_eq_zero_iff, length, List.length_eq_zero_iff, List.filter_eq_nil_iff]
  push Not
  constructor
  · rintro ⟨row, hrow, pass⟩
    exact ⟨row, hrow, (holds row hrow).1 pass⟩
  · rintro ⟨row, hrow, pass⟩
    exact ⟨row, hrow, (holds row hrow).2 pass⟩

theorem exists_group_iff {q : Query} {es : List Expr} (grouped : isGrouped q = true)
    (all : q.distinct = false ∧ q.window = none) (hhaving : q.having = whereClause es)
    {result : ResultSet} (h : t.runWithin outer q = .ok result) :
    ∃ kept groups, t.matchedWithin outer q.filter = .ok kept ∧
      t.groupRows q.groupBy kept = .ok groups ∧
      (result.rows ≠ [] ↔ ∃ rows ∈ groups, ∀ e ∈ es, t.HoldsOfGroup outer rows e) := by
  obtain ⟨-, kept, having_, hkept, hresolved, houtput⟩ := runWithin_ok_iff.1 h
  rw [hhaving] at hresolved
  obtain ⟨groups, hgroups, -, -, sorted, perm, shown⟩ := output_groups grouped all houtput
  refine ⟨kept, groups, hkept, hgroups, ?_⟩
  have empty : result.rows = [] ↔ groups.filter (t.passesHaving (having_.map (·.expr))) = [] := by
    rw [← List.length_eq_zero_iff, ← shown.length_eq, perm.length_eq, List.length_eq_zero_iff]
  rw [ne_eq, empty, List.filter_eq_nil_iff]
  push Not
  simp only [passesHaving_whereClause_iff hresolved]

theorem boundWithin_existsIn_ok_iff {q : Query} {f : Expr} :
    t.boundWithin outer (.existsIn q false) row = .ok f ↔
      ∃ result, t.runWithin (some ⟨(q.source.map (·.referenceName)).getD t.name, row⟩) q =
        .ok result ∧ f = .truth (!result.rows.isEmpty) := by
  simp only [boundWithin, resolve, bind_ok_iff]
  constructor
  · rintro ⟨_, ⟨⟩, h⟩
    obtain ⟨result, hresult, h⟩ := bind_ok_iff.1 h
    cases h
    exact ⟨result, hresult, by simp⟩
  · rintro ⟨result, hresult, rfl⟩
    refine ⟨_, rfl, bind_ok_iff.2 ⟨result, hresult, ?_⟩⟩
    simp

theorem holds_existsIn_iff {q : Query} {result : ResultSet}
    (h : t.runWithin (some ⟨(q.source.map (·.referenceName)).getD t.name, row⟩) q = .ok result) :
    t.Holds outer row (.existsIn q false) ↔ result.rows ≠ [] := by
  have bound : t.boundWithin outer (.existsIn q false) row =
      .ok (.truth (!result.rows.isEmpty)) := boundWithin_existsIn_ok_iff.2 ⟨result, h, rfl⟩
  simp [Holds, bound, eval]

/-- A disjunction of EXISTS subqueries is true where one of them is; all of them are run. -/
theorem holds_disjunction_existsIn_iff {qs : List Query} {f : Expr}
    (h : t.boundWithin outer (Expr.disjunction (qs.map (.existsIn · false))) row = .ok f) :
    (∀ q ∈ qs, ∃ result, t.runWithin
      (some ⟨(q.source.map (·.referenceName)).getD t.name, row⟩) q = .ok result) ∧
    (t.Holds outer row (Expr.disjunction (qs.map (.existsIn · false))) ↔
      ∃ q ∈ qs, t.Holds outer row (.existsIn q false)) := by
  have run {q : Query} {f : Expr} (hf : t.boundWithin outer (.existsIn q false) row = .ok f) :
      ∃ result, t.runWithin (some ⟨(q.source.map (·.referenceName)).getD t.name, row⟩) q =
        .ok result := by
    obtain ⟨result, hresult, -⟩ := boundWithin_existsIn_ok_iff.1 hf
    exact ⟨result, hresult⟩
  have decided {q : Query} {f : Expr} (hf : t.boundWithin outer (.existsIn q false) row = .ok f) :
      t.Decides (.row row) f (t.Holds outer row (.existsIn q false)) := by
    obtain ⟨result, hresult, rfl⟩ := boundWithin_existsIn_ok_iff.1 hf
    exact (decides_truth _).congr (by simp [holds_existsIn_iff hresult])
  cases qs with
  | nil =>
      cases h
      exact ⟨by simp, holds_iff_of_decides rfl ((decides_truth false).congr (by simp))⟩
  | cons q qs =>
      obtain ⟨first, others, hfirst, hothers, rfl⟩ := boundWithin_foldl_ok_iff.1 h
      rw [List.forall₂_map_left_iff] at hothers
      refine ⟨List.forall_mem_cons.2 ⟨run hfirst, fun q hq => ?_⟩, holds_iff_of_decides h ?_⟩
      · obtain ⟨f, -, hf⟩ := exists_of_mem_left hothers hq
        exact run hf
      · have rest : List.Forall₂ (fun q f => t.Decides (.row row) f
            (t.Holds outer row (.existsIn q false))) qs others := hothers.imp fun q f => decided
        exact ((decided hfirst).foldl_or rest).congr (by simp)

/-! ## IN subqueries -/

/-- An IN subquery is run once, and its first column is what is looked through. -/
theorem resolve_inQuery_col {field : String} {q : Query} {negated : Bool} {result : ResultSet}
    (h : t.runWithin none q = .ok result) :
    t.resolve outer (.inQuery (.col field) q negated) = .ok (.plain (.inList (.col field)
      (result.rows.filterMap fun row => row.head?.map Expr.literal) negated)) := by
  rw [resolve, h]
  rfl

/-- A predicate can be put in the place of one with the same subqueries. -/
theorem matched_append_congr {es : List Expr} {e f : Expr}
    (h : t.resolve none e = t.resolve none f) :
    t.matched (whereClause (es ++ [e])) = t.matched (whereClause (es ++ [f])) := by
  have same : t.resolveOption none (whereClause (es ++ [e])) =
      t.resolveOption none (whereClause (es ++ [f])) := by
    cases es with
    | nil => simp [whereClause, resolveOption, h]
    | cons d es => simp [whereClause, resolveOption, resolve, h]
  unfold matched
  rw [same]

/-- What is kept under a further predicate that decides something of every row kept so far. -/
theorem matched_append_eq {es : List Expr} {e : Expr} {P : Row → Prop} [DecidablePred P]
    (plain : t.IsPlain e) {kept kept' : List Row} (h : t.matched (whereClause es) = .ok kept)
    (decides : ∀ row ∈ kept, t.Decides (.row row) e (P row))
    (h' : t.matched (whereClause (es ++ [e])) = .ok kept') :
    kept' = kept.filter fun row => P row := by
  obtain ⟨passes, rfl, holds⟩ := matchedWithin_eq h
  obtain ⟨passes', rfl, holds'⟩ := matchedWithin_eq h'
  rw [List.filter_filter]
  refine List.filter_congr fun row hrow => ?_
  rw [Bool.eq_iff_iff, holds' row hrow, Bool.and_eq_true, decide_eq_true_iff, holds row hrow,
    List.forall_mem_append, List.forall_mem_singleton, and_comm]
  refine and_congr_left fun front => ?_
  exact holds_iff_of_decides (plain.bound row)
    (decides row (List.mem_filter.2 ⟨hrow, (holds row hrow).2 front⟩))

end Table

/-! ## Rows that agree -/

def Row.agrees (fields : List String) (x y : Row) : Bool :=
  fields.all fun f => (y.cell f).same (x.cell f)

namespace Table

variable {t : Table} {fields : List String} {x y : Row}

theorem agrees_iff (hx : HasContents (cells fields x)) (hy : HasContents (cells fields y)) :
    Row.agrees fields x y = true ↔ contents (cells fields y) = contents (cells fields x) := by
  induction fields with
  | nil => simp [Row.agrees, cells, contents]
  | cons f fields ih =>
      obtain ⟨⟨a, ha⟩, hx⟩ := List.forall_mem_cons.1 hx
      obtain ⟨⟨b, hb⟩, hy⟩ := List.forall_mem_cons.1 hy
      have rest := ih hx hy
      simp only [Row.agrees, cells, contents] at rest
      simp [Row.agrees, cells, contents, Value.same_iff hb ha, rest, ha, hb]

theorem groupRows_agrees (nonempty : fields ≠ [])
    (known : ∀ f ∈ fields, (t.typeOf? f).isSome = true) {rows : List Row}
    (exact : ∀ row ∈ rows, HasContents (cells fields row)) (hx : x ∈ rows) :
    t.groupRows (fields.map .col) (rows.filter (Row.agrees fields x)) =
      .ok [rows.filter (Row.agrees fields x)] := by
  have exact' : ∀ row ∈ rows.filter (Row.agrees fields x), HasContents (cells fields row) :=
    fun row hrow => exact row (List.mem_of_mem_filter hrow)
  have key {row : Row} (hrow : row ∈ rows.filter (Row.agrees fields x)) :
      contents (cells fields row) = contents (cells fields x) := by
    obtain ⟨hmem, hagrees⟩ := List.mem_filter.1 hrow
    exact (agrees_iff (exact x hx) (exact row hmem)).1 hagrees
  obtain ⟨groups, grouped, hgroups⟩ := groupRows_cols nonempty known exact'
  have keys : ∀ g ∈ groups, contents g.key = contents (cells fields x) := by
    intro g hg
    obtain ⟨row, _, -, hrow, hkey⟩ := grouped.first g hg
    rw [hkey, key hrow]
  have own : x ∈ rows.filter (Row.agrees fields x) :=
    List.mem_filter.2 ⟨hx, (agrees_iff (exact x hx) (exact x hx)).2 rfl⟩
  obtain ⟨g, hg, -⟩ := List.mem_map.1 (grouped.covers x own)
  have single : groups = [g] := by
    match groups, hg, grouped.nodup, keys with
    | [only], hg, _, _ => rw [List.mem_singleton.1 hg]
    | first :: second :: rest, _, nodup, keys =>
        have same := (keys first (by simp)).trans (keys second (by simp)).symm
        simp [same] at nodup
  rw [hgroups, single, List.map_singleton, grouped.complete g hg]
  congr 2
  refine List.filter_eq_self.2 fun row hrow => ?_
  simp [key hrow, keys g hg]

end Table

end GridSql
