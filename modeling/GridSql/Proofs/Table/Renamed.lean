import GridSql.Proofs.Filter.Forms
import GridSql.Proofs.Table.Subquery

/-!
# Tables under another name

What an expression is on a row or a group does not depend on the name of the table. The name
is only looked at where a query says which table it reads, and in subqueries, where columns
that are qualified with another name than the subquery's own read the row around it. So two
queries that each read their own table give the same answer if the predicates of their WHERE
clauses come to the same row by row.
-/

namespace GridSql

def Query.overRows (q : Query) (source : Option TableRef) (filter : Option Expr) : Query :=
  { q with source, filter }

namespace Table

def renamed (t : Table) (name : String) : Table :=
  { t with name }

variable {t : Table} {name : String} {outer : Option OuterRow}

/-! ## Values -/

mutual

theorem eval_renamed (s : Scope) : ∀ e : Expr, (t.renamed name).eval s e = t.eval s e
  | .column .. | .literal _ | .truth _ | .star _ | .existsIn .. | .inQuery .. => rfl
  | .paren e => eval_renamed s e
  | .binary op l r => by
      unfold eval
      rw [eval_renamed s l, eval_renamed s r]
  | .unary _ e | .cast e _ | .isNull e _ => by
      unfold eval
      rw [eval_renamed s e]
  | .between e low high _ => by
      unfold eval
      rw [eval_renamed s e, eval_renamed s low, eval_renamed s high]
  | .like e pattern _ _ => by
      unfold eval
      rw [eval_renamed s e, eval_renamed s pattern]
  | .inList e candidates _ => by
      unfold eval
      simp only [eval_renamed s e, evalIn_renamed s candidates]
  | .choice subject branches otherwise => by
      unfold eval
      simp only [evalOption_renamed s subject, evalBranches_renamed s branches,
        evalOption_renamed s otherwise]
  | .call fn [] distinct => by
      unfold eval
      simp only [evalAll_renamed s []]
  | .call fn (arg :: rest) distinct => by
      -- Aggregates evaluate their argument on the rows of the group.
      have onRow (row : Row) := eval_renamed (.row row) arg
      unfold eval
      simp only [onRow, evalAll_renamed s (arg :: rest)]

theorem evalAll_renamed (s : Scope) :
    ∀ es : List Expr, (t.renamed name).evalAll s es = t.evalAll s es
  | [] => rfl
  | e :: es => by
      unfold evalAll
      rw [eval_renamed s e, evalAll_renamed s es]

theorem evalOption_renamed (s : Scope) :
    ∀ e : Option Expr, (t.renamed name).evalOption s e = t.evalOption s e
  | none => rfl
  | some e => by
      unfold evalOption
      rw [eval_renamed s e]

theorem evalBranches_renamed (s : Scope) {subject : Option Value} :
    ∀ branches : List (Expr × Expr),
      (t.renamed name).evalBranches s subject branches = t.evalBranches s subject branches
  | [] => rfl
  | (condition, result) :: rest => by
      unfold evalBranches
      rw [eval_renamed s condition, eval_renamed s result, evalBranches_renamed s rest]

theorem evalIn_renamed (s : Scope) {v : Value} {negated : Bool} :
    ∀ (es : List Expr) {sawNull : Bool},
      (t.renamed name).evalIn s v negated sawNull es = t.evalIn s v negated sawNull es
  | [], _ => rfl
  | e :: es, _ => by
      unfold evalIn
      simp only [eval_renamed s e, evalIn_renamed s es]

end

/-! ## Output -/

theorem test_renamed (s : Scope) (e : Expr) : (t.renamed name).test s e = t.test s e := by
  unfold test
  rw [eval_renamed]

theorem evalItems_renamed (s : Scope) (items : List SelectItem) :
    (t.renamed name).evalItems s items = t.evalItems s items := by
  induction items with
  | nil => rfl
  | cons item items ih =>
      unfold evalItems
      simp only [eval_renamed, evalAll_renamed, ih]
      rfl

theorem groupRows_renamed (keys : List Expr) (rows : List Row) :
    (t.renamed name).groupRows keys rows = t.groupRows keys rows := by
  unfold groupRows
  simp only [evalAll_renamed]

theorem projectGroups_renamed (q : Query) (source : Option TableRef) (filter having_ : Option Expr)
    (groups : List (List Row)) :
    (t.renamed name).projectGroups (q.overRows source filter) having_ groups =
      t.projectGroups q having_ groups := by
  induction groups with
  | nil => rfl
  | cons rows groups ih =>
      unfold projectGroups project
      simp only [test_renamed, evalItems_renamed, evalAll_renamed, ih]
      rfl

theorem output_renamed (q : Query) (source : Option TableRef) (filter having_ : Option Expr)
    (rows : List Row) :
    (t.renamed name).output (q.overRows source filter) having_ rows =
      t.output q having_ rows := by
  unfold output project
  simp only [projectGroups_renamed, groupRows_renamed, evalItems_renamed, evalAll_renamed]
  rfl

end Table

/-! ## Predicates without table names -/

def Expr.Nameless (e : Expr) : Prop :=
  ∀ (t : Table) name outer, (t.renamed name).resolve outer e = t.resolve outer e

namespace Expr

theorem nameless_call (name : String) (args : List Expr) (distinct : Bool) :
    Nameless (.call name args distinct) :=
  fun _ _ _ => rfl

theorem nameless_choice (subject : Option Expr) (branches : List (Expr × Expr))
    (otherwise : Option Expr) :
    Nameless (.choice subject branches otherwise) :=
  fun _ _ _ => rfl

theorem nameless_column (table : Option String) (name : String) : Nameless (.column table name) :=
  fun _ _ _ => rfl

theorem filterClosed_nameless : FilterClosed Nameless where
  literal _ := fun _ _ _ => rfl
  truth _ := fun _ _ _ => rfl
  binary hl hr _ := fun t name outer => by
    unfold Table.resolve
    rw [hl t name outer, hr t name outer]
  isNull _ _ := fun _ _ _ => rfl
  cast _ _ := fun _ _ _ => rfl
  like _ _ _ _ := fun _ _ _ => rfl
  call _ _ _ := nameless_call _ _ false
  inList _ _ _ _ := fun _ _ _ => rfl

end Expr

namespace Table

variable {t : Table} {name : String} {outer : Option OuterRow} {e e' : Expr}

/-- Whether a predicate comes to the same row by row as another one does under another name. -/
def SameOnRows (t : Table) (name : String) (outer : Option OuterRow) (e e' : Expr) : Prop :=
  Alike (fun p p' => p'.onRow = p.onRow) (t.resolve outer e) ((t.renamed name).resolve outer e')

theorem sameOnRows_of_resolve (h : (t.renamed name).resolve outer e' = t.resolve outer e) :
    t.SameOnRows name outer e e' := by
  unfold SameOnRows
  rw [h]
  exact .self fun _ _ => rfl

theorem SameOnRows.binary {l r l' r' : Expr} (hl : t.SameOnRows name outer l l')
    (hr : t.SameOnRows name outer r r') (op : BinaryOp) :
    t.SameOnRows name outer (.binary op l r) (.binary op l' r') := by
  unfold SameOnRows resolve
  refine hl.bind fun p p' hp => hr.bind fun q q' hq => .ok ?_
  simp only [hp, hq]

theorem sameOnRows_foldl {op : BinaryOp} {es es' : List Expr} (h : t.SameOnRows name outer e e')
    (hes : List.Forall₂ (t.SameOnRows name outer) es es') :
    t.SameOnRows name outer (es.foldl (.binary op) e) (es'.foldl (.binary op) e') := by
  induction hes generalizing e e' with
  | nil => exact h
  | cons hd _ ih => exact ih (h.binary hd op)

theorem sameOnRows_joinAll {es es' : List Expr}
    (h : List.Forall₂ (t.SameOnRows name outer) es es') (op : BinaryOp) (empty : Bool) :
    t.SameOnRows name outer (Expr.joinAll op empty es) (Expr.joinAll op empty es') := by
  cases h with
  | nil => exact sameOnRows_of_resolve rfl
  | cons h hes => exact sameOnRows_foldl h hes

/-- Subqueries come to the same where they are answered the same inside every row. -/
theorem sameOnRows_existsIn {q q' : Query}
    (h : ∀ row, (t.renamed name).runWithin
        (some ⟨(q'.source.map (·.referenceName)).getD name, row⟩) q' =
      t.runWithin (some ⟨(q.source.map (·.referenceName)).getD t.name, row⟩) q) :
    t.SameOnRows name outer (.existsIn q false) (.existsIn q' false) := by
  unfold SameOnRows resolve
  refine .ok (funext fun row => ?_)
  exact congrArg (· >>= _) (h row)

/-- An IN subquery is run once, and nothing else of it is looked at. -/
theorem sameOnRows_inQuery {q q' : Query} (he : e.Nameless)
    (h : (t.renamed name).runWithin none q' = t.runWithin none q) (negated : Bool) :
    t.SameOnRows name outer (.inQuery e q negated) (.inQuery e q' negated) := by
  refine sameOnRows_of_resolve ?_
  unfold resolve
  rw [h, he t name none]

/-! ## Queries -/

def SameRows (t : Table) (name : String) (outer : Option OuterRow) (filter filter' : Option Expr) :
    Prop :=
  Alike (fun p? q? => q?.map (·.onRow) = p?.map (·.onRow)) (t.resolveOption outer filter)
    ((t.renamed name).resolveOption outer filter')

theorem sameRows_whereClause {es es' : List Expr}
    (h : List.Forall₂ (t.SameOnRows name outer) es es') :
    t.SameRows name outer (whereClause es) (whereClause es') := by
  cases h with
  | nil => exact .ok rfl
  | cons h hes =>
      refine (sameOnRows_foldl h hes).map fun p p' hp => ?_
      simp only [Option.map_some, hp]

theorem resolveOption_whereClause {es : List Expr} (h : ∀ e ∈ es, e.Nameless) :
    (t.renamed name).resolveOption outer (whereClause es) =
      t.resolveOption outer (whereClause es) := by
  cases es with
  | nil => rfl
  | cons e es =>
      have whole : Expr.Nameless (Expr.joinAll .and true (e :: es)) :=
        Expr.filterClosed_nameless.forms.joinAll rfl h true
      exact congrArg (Except.map some) (whole t name outer)

def keepRows (t : Table) (decided : Option (Row → Except SourceError Expr)) :
    Except SourceError (List Row) :=
  match decided with
  | some onRow => t.rows.filterM fun row => do t.test (.row row) (← onRow row)
  | none => .ok t.rows

theorem keepRows_renamed (decided : Option (Row → Except SourceError Expr)) :
    (t.renamed name).keepRows decided = t.keepRows decided := by
  unfold keepRows
  simp only [test_renamed]
  rfl

theorem runWithin_eq (q : Query) :
    t.runWithin outer q = (do
      t.checkSource q.source
      let filter ← t.resolveOption outer q.filter
      let having_ ← t.resolveOption outer q.having
      let kept ← t.keepRows (filter.map (·.onRow))
      t.output q (having_.map (·.expr)) kept) := by
  obtain ⟨select, distinct, source, filter, groupBy, having_, orderBy, window⟩ := q
  unfold runWithin
  refine bind_congr fun _ => bind_congr fun p? => bind_congr fun _ => ?_
  cases p? <;> rfl

/-- The answer to a query depends on its predicates only by what they come to on the rows. -/
theorem runWithin_overRows {q : Query} {source : Option TableRef} {filter : Option Expr}
    (own : t.checkSource q.source = .ok ()) (own' : (t.renamed name).checkSource source = .ok ())
    (rows : t.SameRows name outer q.filter filter)
    (groups : (t.renamed name).resolveOption outer q.having = t.resolveOption outer q.having) :
    (t.renamed name).runWithin outer (q.overRows source filter) = t.runWithin outer q := by
  rw [runWithin_eq, runWithin_eq, own, Query.overRows]
  dsimp only
  rw [own', groups]
  refine (Alike.bind_eq rows fun p? q? same => ?_).symm
  simp only [same, keepRows_renamed]
  refine bind_congr fun having_ => bind_congr fun kept => ?_
  exact (output_renamed q source filter _ kept).symm

end Table

end GridSql
