import GridSql.Proofs.Filter.Forms
import GridSql.Table.Run

/-!
# Predicates of their own row

A predicate without subqueries and without qualified columns reads nothing but the row, or
the group, that it stands on. It is the same inside every query. Filters are compiled to
such predicates, as long as the hooks of the server keep to their row.
-/

namespace GridSql

namespace Expr

/-- Whether an expression is the same inside every row. -/
structure IsOwn (e : Expr) : Prop where
  unbound : ∀ o, e.bindOuter o = e
  plain : ∀ (t : Table) outer, t.resolve outer e = .ok (.plain e)

/-! ## Expressions by their form -/

attribute [local simp] bindOuter

theorem isOwn_col (name : String) : IsOwn (.col name) where
  unbound := fun _ => rfl
  plain := fun _ outer => by cases outer <;> rfl

theorem isOwn_literal (v : Value) : IsOwn (.literal v) where
  unbound := fun _ => rfl
  plain := fun _ _ => rfl

theorem isOwn_truth (holds : Bool) : IsOwn (.truth holds) where
  unbound := fun _ => rfl
  plain := fun _ _ => rfl

theorem IsOwn.binary {l r : Expr} (hl : IsOwn l) (hr : IsOwn r) (op : BinaryOp) :
    IsOwn (.binary op l r) where
  unbound := fun o => by simp [hl.unbound, hr.unbound]
  plain := fun t outer => by
    rw [Table.resolve, hl.plain, hr.plain]
    rfl

/-- An expression that is not looked into for subqueries is bound as a whole. -/
theorem isOwn_of_within {e : Expr} (unbound : ∀ o, e.bindOuter o = e)
    (resolved : ∀ (t : Table) outer, t.resolve outer e = .ok (.plain (e.within outer))) :
    IsOwn e where
  unbound := unbound
  plain := fun t outer => by
    rw [resolved]
    cases outer with
    | none => rfl
    | some o => rw [within, unbound]

theorem IsOwn.isNull {e : Expr} (h : IsOwn e) (negated : Bool) : IsOwn (.isNull e negated) :=
  isOwn_of_within (fun o => by simp [h.unbound]) fun _ _ => rfl

theorem IsOwn.cast {e : Expr} (h : IsOwn e) (type : CastType) : IsOwn (.cast e type) :=
  isOwn_of_within (fun o => by simp [h.unbound]) fun _ _ => rfl

theorem IsOwn.like {e pattern : Expr} (h : IsOwn e) (hpattern : IsOwn pattern) (escape : Char)
    (negated : Bool) :
    IsOwn (.like e pattern escape negated) :=
  isOwn_of_within (fun o => by simp [h.unbound, hpattern.unbound]) fun _ _ => rfl

theorem bindOuterAll_of_isOwn {es : List Expr} (h : ∀ e ∈ es, IsOwn e) (o : OuterRow) :
    bindOuterAll o es = es := by
  induction es with
  | nil => rfl
  | cons e es ih =>
      obtain ⟨he, hes⟩ := List.forall_mem_cons.1 h
      rw [bindOuterAll, he.unbound, ih hes]

theorem isOwn_call {args : List Expr} (h : ∀ e ∈ args, IsOwn e) (name : String)
    (distinct : Bool) :
    IsOwn (.call name args distinct) :=
  isOwn_of_within (fun o => by simp [bindOuterAll_of_isOwn h]) fun _ _ => rfl

theorem IsOwn.inList {e : Expr} (h : IsOwn e) {candidates : List Expr}
    (hcandidates : ∀ c ∈ candidates, IsOwn c) (negated : Bool) :
    IsOwn (.inList e candidates negated) :=
  isOwn_of_within (fun o => by simp [h.unbound, bindOuterAll_of_isOwn hcandidates])
    fun _ _ => rfl

theorem filterClosed_isOwn : FilterClosed IsOwn where
  literal := isOwn_literal
  truth := isOwn_truth
  binary := IsOwn.binary
  isNull := IsOwn.isNull
  cast := IsOwn.cast
  like := IsOwn.like
  call := fun {_} h {name} _ => isOwn_call h name false
  inList := IsOwn.inList

end Expr

open GridSql.Expr

/-! ## Hooks that keep to their row -/

/-- Whether the hooks in the rules of a column make predicates of their own row. -/
structure FilterRules.HooksOwn (rules : Option FilterRules) : Prop where
  matcher : ∀ all ∈ rules, ∀ own m, Within (.text own) all → own.matcher = some m →
    ∀ given : TextMatch, IsOwn given.value → (∀ e ∈ given.filterText, IsOwn e) → IsOwn (m given)
  textForm : ∀ all ∈ rules, ∀ own f, Within (.text own) all → own.formatter = some f →
    ∀ e, IsOwn e → IsOwn (f e)
  setForm : ∀ all ∈ rules, ∀ form f, Within (.set form) all → form.formatter = some f →
    ∀ e, IsOwn e → IsOwn (f e)

namespace FilterRules

variable {rules : Option FilterRules}

theorem hooksOwn_iff : HooksOwn rules ↔ HooksKeep IsOwn rules :=
  ⟨fun h => ⟨h.matcher, h.textForm, h.setForm⟩, fun h => ⟨h.matcher, h.textForm, h.setForm⟩⟩

theorem hooksOwn_of_none
    (text : ∀ all ∈ rules, ∀ own, Within (.text own) all →
      own.matcher = none ∧ own.formatter = none)
    (set : ∀ all ∈ rules, ∀ form, Within (.set form) all → form.formatter = none) :
    HooksOwn rules :=
  hooksOwn_iff.2 (hooksKeep_iff.2 (hooksFit_of_none text set))

end FilterRules

/-- A filter on an expression of its own row is such a predicate. -/
theorem ColumnFilter.isOwn_compile {target : FilterTarget} (h : IsOwn target.expr)
    {f : ColumnFilter} {rules : Option FilterRules} {p : Expr} (hooks : FilterRules.HooksOwn rules)
    (compiled : f.compile target rules = .ok p) :
    IsOwn p :=
  filterClosed_isOwn.compile h (FilterRules.hooksOwn_iff.1 hooks) compiled

end GridSql
