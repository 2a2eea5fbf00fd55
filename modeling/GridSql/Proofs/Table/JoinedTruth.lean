import GridSql.Proofs.Table.Truth

/-!
# The truth value of a join

A chain of AND or OR whose operands all have a truth value has one itself. An operand that
decides the chain does so wherever it stands; without one the chain is unknown as soon as an
operand is. So the value depends neither on the order of the operands nor on how often each
of them occurs.
-/

namespace GridSql

/-- The truth value of a chain of operands; `d` is the one that decides it. -/
def chainTruth (d : Bool) (bs : List (Option Bool)) : Option Bool :=
  if some d ∈ bs then some d else if none ∈ bs then none else some !d

section

variable {d : Bool} {bs cs : List (Option Bool)}

theorem chainTruth_nil : chainTruth d [] = some !d :=
  rfl

theorem chainTruth_congr (h : ∀ b, b ∈ bs ↔ b ∈ cs) : chainTruth d bs = chainTruth d cs := by
  simp only [chainTruth, h]

theorem chainTruth_singleton (b : Option Bool) : chainTruth d [b] = b := by
  cases d <;> rcases b with _ | _ | _ <;> rfl

/-- Operands that stand next to each other can be joined first. -/
theorem chainTruth_cons_cons (a b : Option Bool) (bs : List (Option Bool)) :
    chainTruth d (chainTruth d [a, b] :: bs) = chainTruth d (a :: b :: bs) := by
  by_cases decided : some d ∈ bs
  · simp [chainTruth, decided]
  · by_cases unknown : none ∈ bs <;> cases d <;> rcases a with _ | _ | _ <;>
      rcases b with _ | _ | _ <;> simp [chainTruth, decided, unknown]

theorem chainTruth_eq_decisive_iff : chainTruth d bs = some d ↔ some d ∈ bs := by
  unfold chainTruth
  split
  · next decided => simp [decided]
  · next undecided =>
      split
      · simp [undecided]
      · simp [undecided]

/-- A chain that is not decided has the other truth value only if all operands have it. -/
theorem chainTruth_eq_other_iff :
    chainTruth d bs = some (!d) ↔ ∀ b ∈ bs, b = some !d := by
  constructor
  · intro h b hb
    have undecided : some d ∉ bs := fun decided => by
      rw [chainTruth_eq_decisive_iff.2 decided] at h
      cases d <;> cases h
    rw [chainTruth, if_neg undecided] at h
    split at h
    · cases h
    · next known =>
        rcases b with _ | b
        · exact absurd hb known
        · have apart : b ≠ d := by
            rintro rfl
            exact undecided hb
          rw [Bool.eq_not_of_ne apart]
  · intro h
    have undecided : some d ∉ bs := fun decided => by
      have equal := h _ decided
      cases d <;> cases equal
    have known : none ∉ bs := fun unknown => by cases h _ unknown
    rw [chainTruth, if_neg undecided, if_neg known]

end

namespace Table

variable {t : Table} {s : Scope} {op : BinaryOp} {es : List Expr} {bs : List (Option Bool)}

theorem joinTruth_eq_chainTruth {d : Bool} {a : Option Bool} (undecided : a ≠ some d)
    (b : Option Bool) :
    joinTruth d a b = chainTruth d [a, b] := by
  cases d <;> rcases a with _ | _ | _ <;> rcases b with _ | _ | _ <;>
    simp_all [joinTruth, chainTruth]

theorem eval_binary_of_truth (logical : op.isLogical = true) {l r : Expr} {a b : Option Bool}
    (hl : t.eval s l = .ok (.ofTruth a)) (hr : t.eval s r = .ok (.ofTruth b)) :
    t.eval s (.binary op l r) = .ok (.ofTruth (chainTruth (decisive op) [a, b])) := by
  have left : t.truthOf s l = .ok a := by
    rw [truthOf, hl]
    exact truth_ofTruth a
  have right : t.truthOf s r = .ok b := by
    rw [truthOf, hr]
    exact truth_ofTruth b
  rw [eval_eq_joinOutcomes logical, left, right]
  by_cases decided : a = some (decisive op)
  · rw [decided, joinOutcomes_decided, chainTruth, if_pos List.mem_cons_self]
    rfl
  · rw [joinOutcomes_open decided]
    exact congrArg (fun b => Except.ok (Value.ofTruth b)) (joinTruth_eq_chainTruth decided b)

theorem eval_foldl_of_truth (logical : op.isLogical = true) {e : Expr} {b : Option Bool}
    (he : t.eval s e = .ok (.ofTruth b))
    (hes : List.Forall₂ (fun b e => t.eval s e = .ok (.ofTruth b)) bs es) :
    t.eval s (es.foldl (.binary op) e) = .ok (.ofTruth (chainTruth (decisive op) (b :: bs))) := by
  induction hes generalizing e b with
  | nil => rw [chainTruth_singleton]; exact he
  | @cons c f bs es hf _ ih =>
      rw [List.foldl_cons, ih (eval_binary_of_truth logical he hf), chainTruth_cons_cons]

/-- A chain of predicates with truth values has the one that these make up. -/
theorem eval_joinAll (logical : op.isLogical = true)
    (hes : List.Forall₂ (fun b e => t.eval s e = .ok (.ofTruth b)) bs es) :
    t.eval s (Expr.joinAll op (!decisive op) es) =
      .ok (.ofTruth (chainTruth (decisive op) bs)) := by
  cases hes with
  | nil => simp [Expr.joinAll, eval, chainTruth_nil, Value.ofTruth]
  | cons he hes => exact eval_foldl_of_truth logical he hes

theorem eval_conjunction
    (hes : List.Forall₂ (fun b e => t.eval s e = .ok (.ofTruth b)) bs es) :
    t.eval s (Expr.conjunction es) = .ok (.ofTruth (chainTruth false bs)) :=
  have logical : BinaryOp.and.isLogical = true := rfl
  eval_joinAll logical hes

theorem eval_disjunction
    (hes : List.Forall₂ (fun b e => t.eval s e = .ok (.ofTruth b)) bs es) :
    t.eval s (Expr.disjunction es) = .ok (.ofTruth (chainTruth true bs)) :=
  have logical : BinaryOp.or.isLogical = true := rfl
  eval_joinAll logical hes

theorem test_of_truth {e : Expr} {b : Option Bool} (he : t.eval s e = .ok (.ofTruth b)) :
    t.test s e = .ok (b == some true) := by
  rw [test, he]
  rcases b with _ | _ | _ <;> rfl

theorem Decides.passes {e : Expr} {P : Prop} (h : t.Decides s e P) (hP : P) :
    t.test s e = .ok true := by
  obtain ⟨b, hb, passes⟩ := h.test
  rw [hb, passes.2 hP]

theorem Decides.fails {e : Expr} {P : Prop} (h : t.Decides s e P) (hP : ¬ P) :
    t.test s e = .ok false := by
  obtain ⟨b, hb, passes⟩ := h.test
  rw [hb, Bool.eq_false_iff.2 (hP ∘ passes.1)]

theorem eval_not {e : Expr} {b : Option Bool} (he : t.eval s e = .ok (.ofTruth b)) :
    t.eval s e.not = .ok (.ofTruth (b.map (!·))) := by
  rw [Expr.not, eval, he]
  rcases b with _ | _ <;> rfl

end Table

end GridSql
