import GridSql.Proofs.Table.Subquery

/-!
# Joined predicates on a row

Predicates that are joined by AND or OR are evaluated from the left, and what decides the
join stops it, so that the ones behind need not have a value. Still, where the join can be
evaluated it is true exactly if all of them, or some of them, are: an operand that is not
looked at makes no difference to that.
-/

namespace GridSql

namespace Table

variable {t : Table} {outer : Option OuterRow} {row : Row} {l r e : Expr} {es : List Expr}

/-! ## What a join looks at -/

/-- OR goes on to its right operand unless the left one is true. -/
theorem Evaluates.right_of_or (h : t.Evaluates outer row (.binary .or l r))
    (hl : ¬ t.Holds outer row l) :
    t.Evaluates outer row r := by
  obtain ⟨f, v, hf, hv⟩ := h
  obtain ⟨l', r', hbound, hr, rfl⟩ := boundWithin_binary_ok_iff.1 hf
  obtain ⟨a, ha, h⟩ := (eval_logical_ok_iff rfl).1 hv
  have undecided : a ≠ some (decisive .or) := by
    rintro rfl
    exact hl ⟨l', hbound, ha⟩
  rw [if_neg undecided] at h
  obtain ⟨b, hb, -⟩ := h
  exact ⟨r', _, hr, hb⟩

theorem joinTruth_true_eq_true_iff {a b : Option Bool} (ha : a ≠ some true) :
    joinTruth true a b = some true ↔ b = some true := by
  rcases a with _ | _ | _ <;> rcases b with _ | _ | _ <;> simp_all [joinTruth]

theorem holds_or_iff (h : t.Evaluates outer row (.binary .or l r)) :
    t.Holds outer row (.binary .or l r) ↔ t.Holds outer row l ∨ t.Holds outer row r := by
  obtain ⟨f, v, hf, hv⟩ := h
  obtain ⟨l', r', hl, hr, rfl⟩ := boundWithin_binary_ok_iff.1 hf
  obtain ⟨a, ha, h⟩ := (eval_logical_ok_iff rfl).1 hv
  have isTrue {b : Option Bool} : Value.ofTruth b = .bool true ↔ b = some true := by
    rcases b with _ | _ | _ <;> simp [Value.ofTruth]
  simp only [Holds, hf, hl, hr, Except.ok.injEq, exists_eq_left', hv, ha, isTrue]
  split at h
  · next decided =>
      rw [h, decided]
      simp [decisive]
  · next undecided =>
      obtain ⟨b, hb, rfl⟩ := h
      have open_ : a ≠ some true := undecided
      rw [hb, Except.ok.injEq, isTrue, isTrue]
      simp [decisive, joinTruth_true_eq_true_iff open_, open_]

/-! ## Many predicates -/

variable {α : Type} {as : List α} {P : α → Prop} {Q : Prop}

/--
A conjunction is true if all of its predicates are, when for each of them that is known only
where it can be evaluated.
-/
theorem holds_foldl_and_iff (whole : t.Evaluates outer row (es.foldl (.binary .and) e))
    (he : t.Holds outer row e ↔ Q)
    (hes : List.Forall₂ (fun a e => t.Evaluates outer row e → (t.Holds outer row e ↔ P a)) as es) :
    t.Holds outer row (es.foldl (.binary .and) e) ↔ Q ∧ ∀ a ∈ as, P a := by
  induction hes generalizing e Q with
  | nil => simpa using he
  | @cons a f as es hf _ ih =>
      rw [List.foldl_cons] at whole ⊢
      have step : t.Evaluates outer row (.binary .and e f) := whole.of_foldl rfl
      have both : t.Holds outer row (.binary .and e f) ↔ Q ∧ P a := by
        rw [holds_and_iff, ← he]
        exact and_congr_right fun true_ => hf (step.right_of_and true_)
      rw [ih whole both, List.forall_mem_cons, and_assoc]

theorem holds_foldl_or_iff (whole : t.Evaluates outer row (es.foldl (.binary .or) e))
    (he : t.Holds outer row e ↔ Q)
    (hes : List.Forall₂ (fun a e => t.Evaluates outer row e → (t.Holds outer row e ↔ P a)) as es) :
    t.Holds outer row (es.foldl (.binary .or) e) ↔ Q ∨ ∃ a ∈ as, P a := by
  induction hes generalizing e Q with
  | nil => simpa using he
  | @cons a f as es hf _ ih =>
      rw [List.foldl_cons] at whole ⊢
      have step : t.Evaluates outer row (.binary .or e f) := whole.of_foldl rfl
      have either : t.Holds outer row (.binary .or e f) ↔ Q ∨ P a := by
        rw [holds_or_iff step, ← he]
        by_cases true_ : t.Holds outer row e
        · simp [true_]
        · simp [true_, hf (step.right_of_or true_)]
      rw [ih whole either, List.exists_mem_cons_iff, or_assoc]

theorem holds_truth_iff (holds : Bool) :
    t.Holds outer row (.truth holds) ↔ holds = true := by
  constructor
  · rintro ⟨f, hf, hv⟩
    cases hf
    cases holds
    · cases hv
    · rfl
  · rintro rfl
    exact ⟨_, rfl, rfl⟩

/-- Joined predicates are true if all, or some, of them are. -/
theorem holds_conjunction_iff (whole : t.Evaluates outer row (Expr.conjunction es))
    (hes : List.Forall₂ (fun a e => t.Evaluates outer row e → (t.Holds outer row e ↔ P a)) as es) :
    t.Holds outer row (Expr.conjunction es) ↔ ∀ a ∈ as, P a := by
  cases hes with
  | nil => simp [Expr.conjunction, Expr.joinAll, holds_truth_iff]
  | @cons a e as es he hes =>
      rw [List.forall_mem_cons]
      exact holds_foldl_and_iff whole (he (whole.of_foldl rfl)) hes

theorem holds_disjunction_iff (whole : t.Evaluates outer row (Expr.disjunction es))
    (hes : List.Forall₂ (fun a e => t.Evaluates outer row e → (t.Holds outer row e ↔ P a)) as es) :
    t.Holds outer row (Expr.disjunction es) ↔ ∃ a ∈ as, P a := by
  cases hes with
  | nil => simp [Expr.disjunction, Expr.joinAll, holds_truth_iff]
  | @cons a e as es he hes =>
      rw [List.exists_mem_cons_iff]
      exact holds_foldl_or_iff whole (he (whole.of_foldl rfl)) hes

end Table

end GridSql
