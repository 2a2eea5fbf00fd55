import GridSql.Plan.Pivot
import GridSql.Proofs.Filter.Correctness
import GridSql.Proofs.Plan.GroupKeys
import GridSql.Proofs.Sql.Faithful

/-!
# Rendered filters

The predicates of filters, group keys and the quick filter are rendered faithfully, and so is
what they are joined to in the WHERE clause of a query. For that, an expression that a filter
applies to has to be rendered faithfully itself and to need no parentheses in front of a test,
as columns and aggregates do.
-/

namespace GridSql

namespace Expr

/-- Whether an expression can be what conditions apply to without changing when it is read. -/
structure Subject (e : Expr) : Prop where
  faithful : e.Faithful
  binds : e.Binds 3

/-- Whether an expression can be what a subject is compared with, on the right. -/
structure Given (e : Expr) : Prop where
  faithful : e.Faithful
  single : e.operator? = none
  binds : e.Binds 4

theorem binds_of_complete {e : Expr} (complete : e.level = 7) {n : Nat} (h : n ≤ 7) : e.Binds n :=
  .inr (complete ▸ h)

theorem Subject.ofComplete {e : Expr} (faithful : e.Faithful) (complete : e.level = 7) :
    e.Subject :=
  ⟨faithful, binds_of_complete complete (by decide)⟩

theorem subject_col (name : String) : (col name).Subject :=
  .ofComplete (.column none name) rfl

theorem subject_fn {e : Expr} (h : e.Faithful) (name : String) : (fn name [e]).Subject :=
  .ofComplete (.call (by simpa using h) name false) rfl

/-- Filters keep in their predicates what can be read of the subject that they apply to. -/
theorem filterForms_faithful : FilterForms Subject Given Faithful where
  cast h type := .ofComplete (h.faithful.cast type) rfl
  lower h := subject_fn h.faithful "LOWER"
  literal v := ⟨.literal v, rfl, binds_of_complete rfl (by decide)⟩
  concat h :=
    ⟨.call (fun e he => (h e he).faithful) "CONCAT" false, rfl, binds_of_complete rfl (by decide)⟩
  truth := .truth
  compare {e given} h hgiven op comparison := by
    have level : op.level = 3 := by
      revert comparison
      cases op <;> decide
    exact .binary h.faithful (level ▸ h.binds) hgiven.faithful hgiven.single
      (level ▸ hgiven.binds)
  isNull h := h.faithful.isNull h.binds
  like h hpattern := h.faithful.like h.binds hpattern.faithful hpattern.binds
  inList h _ nonempty hcandidates :=
    h.faithful.inList h.binds nonempty fun c hc => (hcandidates c hc).faithful
  join hl hr _ logical := hl.join hr logical

/-- What is aggregated for a generated column, or for a value column without a combination. -/
theorem faithful_matching (combination : List PivotPair) (field : String) :
    (PivotContext.matching combination field).Faithful := by
  induction combination with
  | nil => exact .column none field
  | cons pair combination ih =>
      have condition : pair.condition.Faithful := by
        unfold PivotPair.condition
        split
        · exact filterForms_faithful.isNull (subject_col pair.field) false
        · exact filterForms_faithful.compare (subject_col pair.field)
            (filterForms_faithful.literal pair.value) rfl
      exact .choice (by simp) (by simpa using ⟨condition, ih⟩) (by simp)

/-- Aggregates of value columns and generated columns can be filtered. -/
theorem subject_aggregate (function : String) (combination : List PivotPair) (field : String) :
    (fn function [PivotContext.matching combination field]).Subject :=
  subject_fn (faithful_matching combination field) function

/-- Whether what is read of an expression has its outcome on every row and group. -/
def ReadsFaithfully (e : Expr) : Prop :=
  ∃ e', (∀ d : Dialect, read? (e.tokens d) = some e') ∧
    ∀ (t : Table) (s : Scope), t.eval s e' = t.eval s e

theorem Faithful.readsFaithfully {e : Expr} (h : e.Faithful) : e.ReadsFaithfully :=
  ⟨e.readBack, h.read?, h.same⟩

theorem not_readsFaithfully {e e' : Expr} {t : Table} {s : Scope} {v w : Value}
    (read : read? (e.tokens .postgres) = some e') (he : t.eval s e = .ok v)
    (he' : t.eval s e' = .ok w) (differ : w ≠ v) :
    ¬ e.ReadsFaithfully := by
  rintro ⟨found, hfound, same⟩
  have own := hfound .postgres
  rw [read, Option.some.injEq] at own
  have kept := same t s
  rw [← own, he, he', Except.ok.injEq] at kept
  exact differ kept

end Expr

/-- The predicates that are made without hooks of the server. -/
inductive FilterPredicate : Expr → Prop where
  /-- Of a filter on a column or an aggregate. -/
  | column {target : FilterTarget} {f : ColumnFilter} {rules : Option FilterRules} {p : Expr}
      (subject : target.expr.Subject) (plain : FilterRules.AllPlain rules)
      (compiled : f.compile target rules = .ok p) : FilterPredicate p
  | advanced {context : FilterContext} {f : AdvancedFilter} {p : Expr}
      (plain : ∀ field, FilterRules.AllPlain (context.rules field))
      (compiled : context.compileAdvanced f = .ok p) : FilterPredicate p
  /-- Of an expanded group. -/
  | groupKey {r : Request} {type : String → ScalarType} {keys : List Expr} {p : Expr}
      (compiled : groupKeyPredicates r type = .ok keys) (mem : p ∈ keys) : FilterPredicate p
  | quick {q : QuickFilter} {s : String} {fields : List Column} {p : Expr}
      (plain : q.toTextForm.IsPlain) (builtin : q.matcher = none)
      (compiled : q.predicate s fields = some p) : FilterPredicate p

theorem FilterPredicate.faithful {p : Expr} (h : FilterPredicate p) : p.Faithful := by
  have forms := Expr.filterForms_faithful
  cases h with
  | column subject plain compiled => exact forms.compile subject plain.hooksFit compiled
  | advanced plain compiled =>
      exact forms.compileAdvanced Expr.subject_col (fun field => (plain field).hooksFit) compiled
  | groupKey compiled mem => exact forms.groupKeys Expr.subject_col compiled p mem
  | quick plain builtin compiled =>
      refine forms.quick Expr.subject_col (fun f hf => ?_) (fun f hf => ?_) compiled
      · rw [plain] at hf
        cases hf
      · rw [builtin] at hf
        cases hf

/--
Predicates of filters, and the WHERE clause that they are joined to one by one, are read as
expressions that have the same outcome on every row and group: the same value or the same
error.
-/
theorem Query.readsFaithfully_where {es : List Expr} (made : ∀ e ∈ es, FilterPredicate e)
    {q : Query} (unfiltered : q.filter = none) :
    (∀ e ∈ es, e.ReadsFaithfully) ∧
      ∀ clause ∈ (es.foldl Query.where_ q).filter, clause.ReadsFaithfully := by
  have faithful : ∀ e ∈ es, e.Faithful := fun e he => (made e he).faithful
  refine ⟨fun e he => (faithful e he).readsFaithfully, fun clause hclause => ?_⟩
  rw [Query.foldl_where, unfiltered, Query.foldl_andInto] at hclause
  cases es with
  | nil => cases hclause
  | cons first rest =>
      cases hclause
      exact (Expr.filterForms_faithful.joinAll rfl faithful true).readsFaithfully

/-- Shifts whose columns are texts without rules of their own. -/
def shiftContext : FilterContext where
  rules _ := none
  type _ := .text

def dayOrBlank : ColumnFilter :=
  .combined .or [.text ⟨.equals, some "Day", none⟩, .set [none]]

def innOfKind : AdvancedFilter :=
  .join .and
    [.column "place" (.text .contains (some "inn")),
      .join .and
        [.column "kind" (.object .notBlank none),
          .column "place" (.text .notContains (some "2"))]]

def dayHours : FilterTarget where
  label := "filterModel.day_hours"
  expr := .fn "SUM" [PivotContext.matching [⟨"kind", .text "day"⟩] "hours"]
  type := .integer

def shifts : Table where
  name := "shifts"
  columns := [⟨"kind", .text⟩, ⟨"place", .text⟩, ⟨"hours", .integer⟩]
  rows := [[("kind", .text "day"), ("place", .text "Inn"), ("hours", .int 8)],
    [("kind", .text "night"), ("place", .text "Inn"), ("hours", .int 6)]]

set_option maxRecDepth 4000 in
/-- The clause of all filters, of which the conjunctions are read from the left. -/
theorem Query.readsFaithfully_where_shifts :
    ∃ days hours inns clause e', shiftContext.compileColumn "kind" dayOrBlank = .ok days ∧
      (ColumnFilter.number ⟨.lessThan, some (Decimal.ofInt64 9), none⟩).compile dayHours none =
        .ok hours ∧
      shiftContext.compileAdvanced innOfKind = .ok inns ∧
      ([days, hours, inns].foldl Query.where_ .empty).filter = some clause ∧
      (∀ d : Dialect, Expr.read? (clause.tokens d) = some e') ∧
      shifts.eval (.group shifts.rows) e' = .ok (.bool true) ∧
      (default : Table).eval (.row []) e' = .error (.unknownColumn "kind") := by
  have plain : FilterRules.AllPlain none := by simp [FilterRules.AllPlain]
  have column : (shiftContext.columnTarget "kind").expr.Subject := Expr.subject_col "kind"
  have aggregate : dayHours.expr.Subject := Expr.subject_aggregate "SUM" _ "hours"
  have days : shiftContext.compileColumn "kind" dayOrBlank = .ok _ := rfl
  have hours : (ColumnFilter.number ⟨.lessThan, some (Decimal.ofInt64 9), none⟩).compile dayHours
    none = .ok _ := rfl
  have inns : shiftContext.compileAdvanced innOfKind = .ok _ := rfl
  have made := List.forall_mem_cons.2 ⟨FilterPredicate.column column plain days,
    List.forall_mem_cons.2 ⟨FilterPredicate.column aggregate plain hours,
      List.forall_mem_singleton.2 (FilterPredicate.advanced (fun _ => plain) inns)⟩⟩
  obtain ⟨e', hread, same⟩ := (Query.readsFaithfully_where made (q := .empty) rfl).2 _ rfl
  refine ⟨_, _, _, _, e', days, hours, inns, rfl, hread, ?_, ?_⟩
  · rw [same]
    cbv
  · rw [same]
    cbv

/--
A filter is not read as it is if that already holds of what it applies to: three times a third
becomes a third of three. Nor is it if that needs parentheses in front of a test: whether the
negation of a cell is null becomes the negation of whether the cell is.
-/
theorem ColumnFilter.not_readsFaithfully_compile :
    (∃ p, (ColumnFilter.number ⟨.equals, some (Decimal.ofInt64 1), none⟩).compile
        ⟨"share", Expr.thirds, .decimal⟩ none = .ok p ∧ ¬ p.ReadsFaithfully) ∧
      ∃ p, (ColumnFilter.set [none]).compile
        ⟨"absent", .not (.col "present"), .boolean⟩ none = .ok p ∧ ¬ p.ReadsFaithfully := by
  let guests : Table := ⟨"guests", [⟨"present", .boolean⟩], []⟩
  let present : Scope := .row [("present", .bool true)]
  constructor
  · exact ⟨_, rfl, Expr.not_readsFaithfully (t := default) (s := .row []) (v := .bool false)
      (w := .bool true) (by cbv) rfl rfl (by simp)⟩
  · exact ⟨_, rfl, Expr.not_readsFaithfully (t := guests) (s := present) (v := .bool false)
      (w := .bool true) (by cbv) rfl rfl (by simp)⟩

end GridSql
