import GridSql.Proofs.Filter.Forms
import GridSql.Proofs.Table.Matched

/-!
# Filters have truth values

Comparisons, tests and their joins are true, false or unknown. So every predicate that a
filter is compiled to has a truth value wherever it can be evaluated, but for those that
a text matcher of the server has made, of which the server has to take care itself.
-/

namespace GridSql

variable {t : Table}

namespace Table

/-! ## Predicates by their operator -/

/-- A predicate without subqueries that every evaluation gives a truth value. -/
theorem truthful_of_plain {e : Expr} (plain : t.IsPlain e)
    (h : ∀ s v, t.eval s e = .ok v → ∃ b, v = .ofTruth b) :
    t.Truthful e := by
  intro row _ f v hf hv
  rw [plain.bound row] at hf
  cases hf
  exact h _ v hv

theorem truthful_truth (holds : Bool) :
    t.Truthful (.truth holds) := by
  refine truthful_of_plain rfl fun s v hv => ?_
  cases hv
  exact ⟨some holds, rfl⟩

theorem truthful_isNull (e : Expr) (negated : Bool) :
    t.Truthful (.isNull e negated) := by
  refine truthful_of_plain rfl fun s v hv => ?_
  rw [eval] at hv
  obtain ⟨_, -, hv⟩ := bind_ok_iff.1 hv
  cases hv
  exact ⟨some _, rfl⟩

theorem truthful_like (e pattern : Expr) (escape : Char) (negated : Bool) :
    t.Truthful (.like e pattern escape negated) := by
  refine truthful_of_plain rfl fun s v hv => ?_
  rw [eval] at hv
  obtain ⟨_, -, hv⟩ := bind_ok_iff.1 hv
  obtain ⟨_, -, hv⟩ := bind_ok_iff.1 hv
  have answer := mapError_ok_iff.1 hv
  unfold Value.isLike at answer
  split at answer
  · cases answer
    exact ⟨none, rfl⟩
  · obtain ⟨_, -, rfl⟩ := map_ok_iff.1 answer
    exact ⟨some _, rfl⟩

theorem evalIn_truth {s : Scope} {v w : Value} {negated sawNull : Bool} {candidates : List Expr}
    (h : t.evalIn s v negated sawNull candidates = .ok w) :
    ∃ b, w = .ofTruth b := by
  induction candidates generalizing sawNull with
  | nil =>
      rw [evalIn] at h
      cases h
      cases sawNull
      · exact ⟨some negated, rfl⟩
      · exact ⟨none, rfl⟩
  | cons e candidates ih =>
      rw [evalIn] at h
      obtain ⟨u, -, h⟩ := bind_ok_iff.1 h
      split at h
      · exact ih h
      · split at h
        · cases h
          exact ⟨some _, rfl⟩
        · exact ih h

theorem truthful_inList (e : Expr) (candidates : List Expr) (negated : Bool) :
    t.Truthful (.inList e candidates negated) := by
  refine truthful_of_plain rfl fun s v hv => ?_
  rw [eval] at hv
  obtain ⟨_, -, hv⟩ := bind_ok_iff.1 hv
  split at hv
  · cases hv
    exact ⟨none, rfl⟩
  · exact evalIn_truth hv

theorem ordered_truth (test : Ordering → Bool) (o : Option Ordering) :
    ∃ b, Value.ordered test o = .ofTruth b :=
  ⟨o.map test, by cases o <;> rfl⟩

theorem operate_truth {op : BinaryOp} (comparison : op.isComparison = true) {v w u : Value}
    (h : v.operate op w = .ok u) :
    ∃ b, u = .ofTruth b := by
  unfold Value.operate at h
  split at h
  · cases h
    exact ⟨none, rfl⟩
  · cases op <;> first | exact absurd comparison (by decide) | cases h
    · exact ⟨some _, rfl⟩
    · exact ⟨some _, rfl⟩
    all_goals exact ordered_truth _ _

theorem truthful_comparison {op : BinaryOp} (comparison : op.isComparison = true) (l r : Expr) :
    t.Truthful (.binary op l r) := by
  intro row _ f v hf hv
  obtain ⟨l', r', -, -, rfl⟩ := bound_binary_ok_iff.1 hf
  have evaluated : t.eval (.row row) (.binary op l' r') =
      (t.eval (.row row) l' >>= fun left => t.eval (.row row) r' >>= fun right =>
        lift (left.operate op right)) := by
    cases op <;> first | exact absurd comparison (by decide) | simp [eval]
  rw [evaluated] at hv
  obtain ⟨_, -, hv⟩ := bind_ok_iff.1 hv
  obtain ⟨_, -, hv⟩ := bind_ok_iff.1 hv
  exact operate_truth comparison (mapError_ok_iff.1 hv)

theorem truthful_or (l r : Expr) :
    t.Truthful (l.or r) := by
  intro row _ f v hf hv
  obtain ⟨l', r', -, -, rfl⟩ := bound_binary_ok_iff.1 hf
  rw [eval] at hv
  obtain ⟨_, -, hv⟩ := bind_ok_iff.1 hv
  obtain ⟨left, -, hv⟩ := bind_ok_iff.1 hv
  split at hv
  · cases hv
    exact ⟨some true, rfl⟩
  · obtain ⟨_, -, hv⟩ := bind_ok_iff.1 hv
    obtain ⟨right, -, hv⟩ := bind_ok_iff.1 hv
    cases hv
    exact ⟨_, rfl⟩

theorem truthful_logical {op : BinaryOp} (logical : op.isLogical = true) (l r : Expr) :
    t.Truthful (.binary op l r) := by
  cases op <;> first | exact absurd logical (by decide) | skip
  · exact Truthful.binary_and
  · exact truthful_or l r

/-- Whatever filters are about and compare it with, their predicates have truth values. -/
theorem filterForms_truthful (t : Table) :
    FilterForms (fun _ => True) (fun _ => True) t.Truthful where
  cast _ _ := trivial
  lower _ := trivial
  literal _ := trivial
  concat _ := trivial
  truth := truthful_truth
  compare _ _ _ comparison := truthful_comparison comparison _ _
  isNull _ negated := truthful_isNull _ negated
  like _ _ escape negated := truthful_like _ _ escape negated
  inList _ _ _ _ negated := truthful_inList _ _ negated
  join _ _ _ logical := truthful_logical logical _ _

end Table

/-! ## Filters -/

/-- Whether every text matcher of a column's rules makes predicates with truth values. -/
def FilterRules.MatchersTruthful (t : Table) (rules : Option FilterRules) : Prop :=
  ∀ all ∈ rules, ∀ own matcher, Within (.text own) all → own.matcher = some matcher →
    ∀ given, t.Truthful (matcher given)

/-- Formatters are free to make any expression of another. -/
theorem TextForm.fits_true (form : TextForm) : form.Fits (fun _ => True) fun _ => True :=
  fun _ _ _ => ⟨fun _ => trivial, fun _ => trivial⟩

theorem FilterRules.MatchersTruthful.hooksFit {rules : Option FilterRules}
    (h : MatchersTruthful t rules) :
    HooksFit (fun _ => True) (fun _ => True) t.Truthful rules where
  matcher all hall own m within hm given _ _ := h all hall own m within hm given
  textForm _ _ own _ := own.fits_true
  setForm _ _ form _ := form.fits_true

theorem ColumnFilter.truthful_compile {target : FilterTarget} {f : ColumnFilter}
    {rules : Option FilterRules} {p : Expr} (matchers : FilterRules.MatchersTruthful t rules)
    (compiled : f.compile target rules = .ok p) :
    t.Truthful p :=
  (Table.filterForms_truthful t).compile trivial matchers.hooksFit compiled

theorem FilterContext.truthful_compileAdvanced {c : FilterContext} {f : AdvancedFilter} {p : Expr}
    (matchers : ∀ field, FilterRules.MatchersTruthful t (c.rules field))
    (compiled : c.compileAdvanced f = .ok p) :
    t.Truthful p :=
  (Table.filterForms_truthful t).compileAdvanced (fun _ => trivial)
    (fun field => (matchers field).hooksFit) compiled

end GridSql
