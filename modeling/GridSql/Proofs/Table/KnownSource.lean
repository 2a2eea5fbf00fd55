import GridSql.Proofs.Table.Renamed

/-!
# Queries that read the table

A table refuses a query for the table that it reads only if it is another one. Expressions name
no tables that are looked up; only the subqueries of WHERE and HAVING are run like the query
itself. So a query that reads the table, with predicates whose subqueries do, may fail for other
reasons, but never because its table is unknown.
-/

namespace GridSql

/-- Whether an error says something else than that a table is unknown. -/
def SourceError.KnowsTable (e : SourceError) : Prop :=
  ∀ name, e ≠ .unknownTable name

namespace Table

variable {t : Table}

/-! ## Values -/

theorem knows_lift {α : Type} (x : Except EvalFault α) :
    FailsOnly SourceError.KnowsTable (lift x) := by
  cases x with
  | error fault => exact .error (by simp [SourceError.KnowsTable])
  | ok a => exact .ok a

theorem knows_applyFunction (name : String) (args : List Value) :
    FailsOnly SourceError.KnowsTable (Value.applyFunction name args) := by
  intro e h
  unfold Value.applyFunction at h
  dsimp only at h
  repeat' split at h
  all_goals cases h
  simp [SourceError.KnowsTable]

mutual

theorem knows_eval (s : Scope) : ∀ e : Expr, FailsOnly SourceError.KnowsTable (t.eval s e)
  | .literal _ | .truth _ => .ok _
  | .star _ | .existsIn .. | .inQuery .. => .error (by simp [SourceError.KnowsTable])
  | .column _ name => by
      unfold eval
      split
      · exact .ok _
      · exact .error (by simp [SourceError.KnowsTable])
  | .paren e => knows_eval s e
  | .unary _ e => (knows_eval s e).bind fun _ _ => knows_lift _
  | .cast e _ => (knows_eval s e).bind fun _ _ => knows_lift _
  | .isNull e _ => (knows_eval s e).bind fun _ _ => .ok _
  | .like e pattern _ _ =>
      (knows_eval s e).bind fun _ _ => (knows_eval s pattern).bind fun _ _ => knows_lift _
  | .between e low high _ =>
      (knows_eval s e).bind fun _ _ => (knows_eval s low).bind fun _ _ =>
        (knows_eval s high).bind fun _ _ => .ok _
  | .inList e candidates _ =>
      (knows_eval s e).bind fun _ _ => .ite (.ok _) (knows_evalIn s candidates)
  | .choice subject branches otherwise => by
      unfold eval
      refine (knows_evalOption s subject).bind fun v _ => ?_
      refine (knows_evalBranches s branches).bind fun found _ => ?_
      split
      · exact .ok _
      · exact (knows_evalOption s otherwise).bind fun _ _ => .ok _
  | .binary op l r => by
      have left := knows_eval s l
      have right := knows_eval s r
      unfold eval
      split
      · exact left.bind fun _ _ => (knows_lift _).bind fun _ _ =>
          .ite (.ok _) (right.bind fun _ _ => (knows_lift _).bind fun _ _ => .ok _)
      · exact left.bind fun _ _ => (knows_lift _).bind fun _ _ =>
          .ite (.ok _) (right.bind fun _ _ => (knows_lift _).bind fun _ _ => .ok _)
      · exact left.bind fun _ _ => right.bind fun _ _ => knows_lift _
  | .call name [] distinct => by
      have values := knows_evalAll s []
      unfold eval
      split
      · split <;> exact .error (by simp [SourceError.KnowsTable])
      · exact values.bind fun _ _ => knows_applyFunction _ _
  | .call name (arg :: rest) distinct => by
      -- Aggregates evaluate their argument on the rows of the group.
      have onRow (row : Row) := knows_eval (.row row) arg
      have values := knows_evalAll s (arg :: rest)
      unfold eval
      split
      · split
        · exact .error (by simp [SourceError.KnowsTable])
        · exact .ite (.ok _) (FailsOnly.bind (.mapM fun row _ => onRow row) fun _ _ => knows_lift _)
      · exact values.bind fun _ _ => knows_applyFunction _ _

theorem knows_evalAll (s : Scope) :
    ∀ es : List Expr, FailsOnly SourceError.KnowsTable (t.evalAll s es)
  | [] => .ok _
  | e :: es => (knows_eval s e).bind fun _ _ => (knows_evalAll s es).bind fun _ _ => .ok _

theorem knows_evalOption (s : Scope) :
    ∀ e : Option Expr, FailsOnly SourceError.KnowsTable (t.evalOption s e)
  | none => .ok _
  | some e => (knows_eval s e).map some

theorem knows_evalBranches (s : Scope) {subject : Option Value} :
    ∀ branches : List (Expr × Expr),
      FailsOnly SourceError.KnowsTable (t.evalBranches s subject branches)
  | [] => .ok _
  | (condition, result) :: rest =>
      (knows_eval s condition).bind fun _ _ =>
        .ite ((knows_eval s result).map some) (knows_evalBranches s rest)

theorem knows_evalIn (s : Scope) {v : Value} {negated : Bool} :
    ∀ (es : List Expr) {sawNull : Bool},
      FailsOnly SourceError.KnowsTable (t.evalIn s v negated sawNull es)
  | [], _ => .ok _
  | e :: es, _ =>
      (knows_eval s e).bind fun _ _ =>
        .ite (knows_evalIn s es) (.ite (.ok _) (knows_evalIn s es))

end

/-! ## Output -/

theorem knows_test (s : Scope) (e : Expr) : FailsOnly SourceError.KnowsTable (t.test s e) := by
  unfold test
  refine (knows_eval s e).bind fun v _ => ?_
  cases v <;> exact .ok _

theorem knows_evalItems (s : Scope) (items : List SelectItem) :
    FailsOnly SourceError.KnowsTable (t.evalItems s items) := by
  induction items with
  | nil => exact .ok []
  | cons item rest ih =>
      unfold evalItems
      exact .ite ((knows_evalAll s _).bind fun _ _ => ih.bind fun _ _ => .ok _)
        (((knows_eval s _).map _).bind fun _ _ => ih.bind fun _ _ => .ok _)

theorem knows_project (q : Query) (s : Scope) :
    FailsOnly SourceError.KnowsTable (t.project q s) :=
  (knows_evalItems s _).bind fun _ _ => (knows_evalAll s _).bind fun _ _ => .ok _

theorem knows_groupRows (keys : List Expr) (rows : List Row) :
    FailsOnly SourceError.KnowsTable (t.groupRows keys rows) := by
  refine .ite (.ok _) (FailsOnly.bind (.foldlM (fun groups row => ?_) rows []) fun _ _ => .ok _)
  exact (knows_evalAll _ _).bind fun _ _ => .ok _

theorem knows_projectGroups (q : Query) (having_ : Option Expr) (groups : List (List Row)) :
    FailsOnly SourceError.KnowsTable (t.projectGroups q having_ groups) := by
  induction groups with
  | nil => exact .ok []
  | cons rows rest ih =>
      have kept (keep : Bool) : FailsOnly SourceError.KnowsTable
          (if keep = true then do
            let p ← t.project q (.group rows)
            let ps ← t.projectGroups q having_ rest
            .ok (p :: ps)
          else t.projectGroups q having_ rest) :=
        .ite ((knows_project q _).bind fun _ _ => ih.bind fun _ _ => .ok _) ih
      cases having_ with
      | none => exact kept true
      | some h => exact (knows_test _ h).bind fun keep _ => kept keep

theorem knows_output (q : Query) (having_ : Option Expr) (rows : List Row) :
    FailsOnly SourceError.KnowsTable (t.output q having_ rows) := by
  unfold output
  refine .ite ?_ (FailsOnly.bind (.mapM fun row _ => knows_project q _) fun _ _ => .ok _)
  refine (knows_groupRows _ _).bind fun _ _ => ?_
  exact (knows_projectGroups q having_ _).bind fun _ _ => .ok _

/-! ## Subqueries -/

/-- Whether the subqueries of a predicate are run without an unknown table, on whatever row. -/
def Answers (t : Table) (e : Expr) : Prop :=
  ∀ outer, FailsOnly SourceError.KnowsTable (t.resolve outer e) ∧
    ∀ p, t.resolve outer e = .ok p → ∀ row, FailsOnly SourceError.KnowsTable (p.onRow row)

variable {e : Expr} {q : Query}

/-- A predicate without subqueries is left as it is. -/
theorem answers_of_plain (h : ∀ outer, ∃ e', t.resolve outer e = .ok (.plain e')) :
    t.Answers e := by
  intro outer
  obtain ⟨e', plain⟩ := h outer
  rw [plain]
  refine ⟨.ok _, fun p hp row => ?_⟩
  cases hp
  exact .ok e'

theorem answers_call (name : String) (args : List Expr) (distinct : Bool) :
    t.Answers (.call name args distinct) :=
  answers_of_plain fun _ => ⟨_, rfl⟩

theorem filterClosed_answers : FilterClosed t.Answers where
  literal _ := answers_of_plain fun _ => ⟨_, rfl⟩
  truth _ := answers_of_plain fun _ => ⟨_, rfl⟩
  isNull _ _ := answers_of_plain fun _ => ⟨_, rfl⟩
  cast _ _ := answers_of_plain fun _ => ⟨_, rfl⟩
  like _ _ _ _ := answers_of_plain fun _ => ⟨_, rfl⟩
  call _ _ _ := answers_call _ _ false
  inList _ _ _ _ := answers_of_plain fun _ => ⟨_, rfl⟩
  binary {l r} hl hr op := by
    intro outer
    obtain ⟨left, onLeft⟩ := hl outer
    obtain ⟨right, onRight⟩ := hr outer
    unfold resolve
    refine ⟨left.bind fun _ _ => right.bind fun _ _ => .ok _, fun p hp row => ?_⟩
    obtain ⟨p', hp', hp⟩ := bind_ok_iff.1 hp
    obtain ⟨q', hq', hp⟩ := bind_ok_iff.1 hp
    cases hp
    exact (onLeft p' hp' row).bind fun _ _ => (onRight q' hq' row).bind fun _ _ => .ok _

theorem answers_existsIn (h : ∀ outer, FailsOnly SourceError.KnowsTable (t.runWithin outer q))
    (negated : Bool) :
    t.Answers (.existsIn q negated) := by
  intro outer
  refine ⟨.ok _, fun p hp row => ?_⟩
  cases hp
  exact (h _).bind fun _ _ => .ok _

theorem answers_inQuery (he : t.Answers e)
    (h : ∀ outer, FailsOnly SourceError.KnowsTable (t.runWithin outer q)) (negated : Bool) :
    t.Answers (.inQuery e q negated) := by
  intro outer
  unfold resolve
  refine ⟨(h none).bind fun _ _ => (he none).1.bind fun _ _ => .ok _, fun p hp row => ?_⟩
  obtain ⟨result, -, hp⟩ := bind_ok_iff.1 hp
  obtain ⟨subject, -, hp⟩ := bind_ok_iff.1 hp
  cases hp
  exact .ok _

theorem knows_resolveOption {e? : Option Expr} (h : ∀ e ∈ e?, t.Answers e)
    (outer : Option OuterRow) :
    FailsOnly SourceError.KnowsTable (t.resolveOption outer e?) ∧
      ∀ p, t.resolveOption outer e? = .ok (some p) →
        ∀ row, FailsOnly SourceError.KnowsTable (p.onRow row) := by
  cases e? with
  | none => exact ⟨.ok none, fun p hp => by cases hp⟩
  | some e =>
      obtain ⟨resolves, onRow⟩ := h e rfl outer
      refine ⟨resolves.map some, fun p hp => ?_⟩
      obtain ⟨_, resolved, heq⟩ := map_ok_iff.1 hp
      cases heq
      exact onRow p resolved

/-- A query on the table itself never fails for an unknown table if its predicates do not. -/
theorem knows_runWithin (own : t.checkSource q.source = .ok ())
    (filter : ∀ e ∈ q.filter, t.Answers e) (having_ : ∀ e ∈ q.having, t.Answers e)
    (outer : Option OuterRow) :
    FailsOnly SourceError.KnowsTable (t.runWithin outer q) := by
  obtain ⟨resolves, onRow⟩ := knows_resolveOption filter outer
  rw [runWithin_eq, own]
  refine resolves.bind fun p? hp => ?_
  refine (knows_resolveOption having_ outer).1.bind fun _ _ => ?_
  refine FailsOnly.bind ?_ fun _ _ => knows_output q _ _
  cases p? with
  | none => exact .ok _
  | some p =>
      exact .filterM (fun row => (onRow p hp row).bind fun _ _ => knows_test _ _) t.rows

theorem knows_count (h : ∀ outer, FailsOnly SourceError.KnowsTable (t.runWithin outer q)) :
    FailsOnly SourceError.KnowsTable (t.count q) := by
  refine (h none).bind fun result _ => ?_
  split
  · exact .error (by simp [SourceError.KnowsTable])
  · split
    · exact .ok _
    · exact .error (by simp [SourceError.KnowsTable])

end Table

end GridSql
