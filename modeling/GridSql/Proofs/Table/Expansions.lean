import GridSql.Filter.Predicate
import GridSql.Proofs.Table.JoinedTruth
import GridSql.Proofs.Table.Matched
import GridSql.Sql.Render
import Mathlib.Tactic.MkIffOfInductiveProp

/-!
# What IN and BETWEEN are short for

IN is short for a disjunction of equalities, and BETWEEN for the two comparisons with its
bounds. They are evaluated on their own, so they have the values of what they are short for
only where the nulls are met in the same way: a null is in no empty list without this being
known, and a bound that is null hides that the other one excludes the value. Cells of
different kinds have no order, which BETWEEN takes for being outside.
-/

namespace GridSql

/-! ## Expansions -/

namespace Expr

def negatedIf (negated : Bool) (e : Expr) : Expr :=
  if negated then e.not else e

def equalsAny (e : Expr) (candidates : List Expr) (negated : Bool) : Expr :=
  (disjunction (candidates.map e.eq)).negatedIf negated

def inBounds (e low high : Expr) (negated : Bool) : Expr :=
  (Predicate.range e low high true).negatedIf negated

end Expr

namespace Value

/-- Whether two values are equal; with a null it is unknown. -/
def equality (v w : Value) : Option Bool :=
  if v.isNull || w.isNull then none else some (v.same w)

/-- Whether a test of the order of two values is passed; without an order it is unknown. -/
def ordering (test : Ordering → Bool) (v w : Value) : Option Bool :=
  if v.isNull || w.isNull then none else (v.order? w).map test

theorem operate_eq (v w : Value) : v.operate .eq w = .ok (.ofTruth (v.equality w)) := by
  unfold operate equality
  split <;> rfl

theorem operate_ge (v w : Value) :
    v.operate .ge w = .ok (.ofTruth (ordering (· != .lt) v w)) := by
  unfold operate ordering
  split
  · rfl
  · cases v.order? w <;> rfl

theorem operate_le (v w : Value) :
    v.operate .le w = .ok (.ofTruth (ordering (· != .gt) v w)) := by
  unfold operate ordering
  split
  · rfl
  · cases v.order? w <;> rfl

theorem equality_null_left (w : Value) : null.equality w = none :=
  rfl

theorem equality_eq_none_iff {v w : Value} (hv : v ≠ null) :
    v.equality w = none ↔ w = null := by
  simp [equality, (isNull_eq_false_iff v).2 hv, isNull_iff]

def betweenTruth (v low high : Value) : Option Bool :=
  if v.isNull || low.isNull || high.isNull then none
  else some (ordering (· != .lt) v low == some true && ordering (· != .gt) v high == some true)

def boundsTruth (v low high : Value) : Option Bool :=
  chainTruth false [ordering (· != .lt) v low, ordering (· != .gt) v high]

theorem isBetween_eq (v low high : Value) (negated : Bool) :
    v.isBetween low high negated =
      .ofTruth ((v.betweenTruth low high).map (· != negated)) := by
  unfold isBetween betweenTruth
  split
  · rfl
  · next known =>
      obtain ⟨⟨hv, hlow⟩, hhigh⟩ : (v.isNull = false ∧ low.isNull = false) ∧
          high.isNull = false := by
        simpa using known
      simp only [ordering, hv, hlow, hhigh, Bool.or_self, Bool.false_eq_true, if_false]
      rcases v.order? low with _ | _ | _ | _ <;> rcases v.order? high with _ | _ | _ | _ <;> rfl

/--
Where BETWEEN and the comparisons with its bounds come apart: one bound excludes a value
while the other one is null, or a value has no order with a bound while the other one does
not exclude it.
-/
@[mk_iff]
inductive BoundsApart (v low high : Value) : Prop where
  | lowNull (hv : v ≠ null) (hlow : low = null) (hhigh : high ≠ null)
      (above : v.order? high = some .gt)
  | highNull (hv : v ≠ null) (hlow : low ≠ null) (hhigh : high = null)
      (below : v.order? low = some .lt)
  | noOrder (hv : v ≠ null) (hlow : low ≠ null) (hhigh : high ≠ null)
      (incomparable : v.order? low = none ∨ v.order? high = none)
      (notBelow : v.order? low ≠ some .lt) (notAbove : v.order? high ≠ some .gt)

theorem betweenTruth_eq_iff (v low high : Value) :
    v.betweenTruth low high = v.boundsTruth low high ↔ ¬ BoundsApart v low high := by
  rw [boundsApart_iff]
  by_cases hv : v = null
  · simp [betweenTruth, boundsTruth, ordering, chainTruth, hv, isNull]
  have hv' := (isNull_eq_false_iff v).2 hv
  -- With one null bound only the order with the other one matters, else both orders do.
  by_cases hlow : low = null
  · by_cases hhigh : high = null
    · simp [betweenTruth, boundsTruth, ordering, chainTruth, hlow, hhigh, isNull]
    · have hhigh' := (isNull_eq_false_iff high).2 hhigh
      rcases above : v.order? high with _ | _ | _ | _ <;>
        simp_all [betweenTruth, boundsTruth, ordering, chainTruth, isNull]
  · have hlow' := (isNull_eq_false_iff low).2 hlow
    by_cases hhigh : high = null
    · rcases below : v.order? low with _ | _ | _ | _ <;>
        simp_all [betweenTruth, boundsTruth, ordering, chainTruth, isNull]
    · have hhigh' := (isNull_eq_false_iff high).2 hhigh
      rcases below : v.order? low with _ | _ | _ | _ <;>
        rcases above : v.order? high with _ | _ | _ | _ <;>
          simp_all [betweenTruth, boundsTruth, ordering, chainTruth]

/-- Where they come apart, neither tells that the value is inside. -/
theorem BoundsApart.not_inside (h : BoundsApart v low high) :
    v.betweenTruth low high ≠ some true ∧ v.boundsTruth low high ≠ some true := by
  cases h with
  | lowNull _ hlow _ _ => simp [betweenTruth, boundsTruth, ordering, chainTruth, hlow, isNull]
  | highNull _ _ hhigh _ => simp [betweenTruth, boundsTruth, ordering, chainTruth, hhigh, isNull]
  | noOrder _ _ _ incomparable _ _ =>
      rcases incomparable with none_ | none_ <;>
        simp [betweenTruth, boundsTruth, ordering, chainTruth, none_]

end Value

namespace Table

variable {t : Table} {s : Scope} {e : Expr} {v : Value}

theorem eval_negatedIf {b : Option Bool} (he : t.eval s e = .ok (.ofTruth b)) (negated : Bool) :
    t.eval s (e.negatedIf negated) = .ok (.ofTruth (b.map (· != negated))) := by
  cases negated with
  | false => simpa [Expr.negatedIf] using he
  | true => simpa [Expr.negatedIf] using eval_not he

/-! ## IN -/

section

variable {candidates : List Expr} {ws : List Value}

theorem eval_equalsAny (he : t.eval s e = .ok v)
    (hcandidates : List.Forall₂ (fun w c => t.eval s c = .ok w) ws candidates) (negated : Bool) :
    t.eval s (e.equalsAny candidates negated) =
      .ok (.ofTruth ((chainTruth true (ws.map v.equality)).map (· != negated))) := by
  refine eval_negatedIf (eval_disjunction ?_) negated
  rw [List.forall₂_map_left_iff, List.forall₂_map_right_iff]
  refine hcandidates.imp fun w c hc => ?_
  simp [Expr.eq, eval, he, hc, bind, Except.bind, Value.operate_eq, lift, Except.mapError]

/--
A value that is not null is looked for among the candidates; `seen` are its equalities with
those that it has been compared with before.
-/
theorem evalIn_eq (hv : v ≠ .null) (negated : Bool) {seen : List (Option Bool)}
    (hseen : some true ∉ seen)
    (hcandidates : List.Forall₂ (fun w c => t.eval s c = .ok w) ws candidates) :
    t.evalIn s v negated (decide (none ∈ seen)) candidates =
      .ok (.ofTruth ((chainTruth true (seen ++ ws.map v.equality)).map (· != negated))) := by
  induction hcandidates generalizing seen with
  | nil =>
      rw [evalIn, List.map_nil, List.append_nil, chainTruth, if_neg hseen]
      by_cases unknown : none ∈ seen <;> simp [unknown, Value.ofTruth]
  | @cons w c ws candidates hc _ ih =>
      have next (missed : some true ∉ seen ++ [v.equality w]) := ih missed
      rw [List.append_assoc, List.singleton_append] at next
      rw [evalIn, hc, List.map_cons]
      change (if w.isNull then _ else if v.same w then _ else _) = _
      -- A null is remembered as unknown, a hit decides, and a miss goes on.
      split
      · next isNull =>
          have unknown : v.equality w = none :=
            (Value.equality_eq_none_iff hv).2 ((Value.isNull_iff w).1 isNull)
          rw [← next (by simp [hseen, unknown])]
          simp [unknown]
      · next notNull =>
          have known : v.equality w = some (v.same w) := by
            simp [Value.equality, (Value.isNull_eq_false_iff v).2 hv, notNull]
          split
          · next found =>
              have hit : some true ∈ seen ++ v.equality w :: ws.map v.equality := by
                simp [known, found]
              rw [chainTruth_eq_decisive_iff.2 hit]
              cases negated <;> rfl
          · next missed =>
              have apart : v.equality w = some false := by simp [known, missed]
              rw [← next (by simp [hseen, apart])]
              simp [apart]

/-- IN with candidates, or with a subject that is not null, has the value of its expansion. -/
theorem eval_inList_eq_equalsAny (he : t.eval s e = .ok v)
    (hcandidates : List.Forall₂ (fun w c => t.eval s c = .ok w) ws candidates) (negated : Bool)
    (decided : candidates = [] → v ≠ .null) :
    t.eval s (.inList e candidates negated) = t.eval s (e.equalsAny candidates negated) := by
  rw [eval_equalsAny he hcandidates, eval, he]
  change (if v.isNull then _ else _) = _
  split
  · next isNull =>
      have vNull := (Value.isNull_iff v).1 isNull
      cases hcandidates with
      | nil => exact absurd vNull (decided rfl)
      | @cons w c ws candidates _ _ =>
          have unknown : ∀ b ∈ (w :: ws).map v.equality, b = none := by
            simp [vNull, Value.equality_null_left]
          have undecided : some true ∉ (w :: ws).map v.equality := fun h => by
            cases unknown _ h
          have isUnknown : none ∈ (w :: ws).map v.equality := by
            simp [vNull, Value.equality_null_left]
          rw [chainTruth, if_neg undecided, if_pos isUnknown]
          rfl
  · next notNull =>
      have hv := (Value.isNull_eq_false_iff v).1 (by simpa using notNull)
      have unseen : some true ∉ ([] : List (Option Bool)) := List.not_mem_nil
      exact evalIn_eq hv negated unseen hcandidates

theorem eval_inList_nil (he : t.eval s e = .ok v) (negated : Bool) :
    t.eval s (.inList e [] negated) = .ok (if v.isNull then .null else .bool negated) := by
  rw [eval, he]
  change (if v.isNull then _ else t.evalIn s v negated false []) = _
  split
  · rfl
  · rfl

theorem eval_inList_nil_eq_truth_iff (he : t.eval s e = .ok v) (negated : Bool) :
    t.eval s (.inList e [] negated) = t.eval s (.truth negated) ↔ v ≠ .null := by
  rw [eval_inList_nil he, eval, ← Value.isNull_eq_false_iff]
  cases v.isNull <;> simp

theorem eval_equalsAny_nil (negated : Bool) :
    t.eval s (e.equalsAny [] negated) = t.eval s (.truth negated) := by
  cases negated <;> simp [Expr.equalsAny, Expr.disjunction, Expr.joinAll, Expr.negatedIf, Expr.not,
    eval, bind, Except.bind, Value.applyUnary, lift, Except.mapError]

def answered (result : ResultSet) : List Expr :=
  result.rows.filterMap fun cells => cells.head?.map .literal

theorem eval_of_mem_answered {result : ResultSet} {c : Expr} (hc : c ∈ answered result) :
    ∃ w, t.eval s c = .ok w := by
  obtain ⟨cells, -, hcells⟩ := List.mem_filterMap.1 hc
  obtain ⟨w, -, rfl⟩ := Option.map_eq_some_iff.1 hcells
  exact ⟨w, rfl⟩

theorem boundWithin_inQuery {outer : Option OuterRow} {subject : Expr} {p : Resolved} {q : Query}
    {result : ResultSet} (hsubject : t.resolve none subject = .ok p)
    (hrun : t.run q = .ok result) (negated : Bool) (row : Row) :
    t.boundWithin outer (.inQuery subject q negated) row =
      .ok (.inList p.expr (answered result) negated) := by
  have returned : t.runWithin none q = .ok result := hrun
  rw [boundWithin, resolve, returned, hsubject]
  rfl

theorem eval_inList_eq_equalsAny_iff_decided (he : t.eval s e = .ok v)
    (hcandidates : ∀ c ∈ candidates, ∃ w, t.eval s c = .ok w) (negated : Bool) :
    t.eval s (.inList e candidates negated) = t.eval s (e.equalsAny candidates negated) ↔
      (candidates = [] → v ≠ .null) := by
  obtain ⟨ws, hws⟩ := exists_forall₂ hcandidates
  refine ⟨fun same empty => ?_, eval_inList_eq_equalsAny he hws.flip negated⟩
  rw [empty, eval_equalsAny_nil] at same
  exact (eval_inList_nil_eq_truth_iff he negated).1 same

/-- A null in no list is not known to be in it, so it passes no more than what is not in it. -/
theorem test_inList_eq_equalsAny (he : t.eval s e = .ok v)
    (hcandidates : ∀ c ∈ candidates, ∃ w, t.eval s c = .ok w) :
    t.test s (.inList e candidates false) = t.test s (e.equalsAny candidates false) := by
  by_cases decided : candidates = [] → v ≠ .null
  · rw [test, test, (eval_inList_eq_equalsAny_iff_decided he hcandidates false).2 decided]
  · obtain ⟨rfl, hnull⟩ := Classical.not_imp.1 decided
    rw [test, test, eval_inList_nil he, eval_equalsAny_nil, not_not.1 hnull]
    simp [eval, Value.isNull, bind, Except.bind]

/--
IN has the value of the disjunction that it is short for, and NOT IN that of its negation,
unless the list is empty and the subject is null; rows pass IN alike even then. An empty list
is written as the truth value that it has for all subjects that are not null. An IN subquery
is a list of what it has returned, which may be nothing.
-/
theorem eval_inList_eq_equalsAny_iff (he : t.eval s e = .ok v)
    (hcandidates : ∀ c ∈ candidates, ∃ w, t.eval s c = .ok w) (negated : Bool) :
    (t.eval s (.inList e candidates negated) = t.eval s (e.equalsAny candidates negated) ↔
      (candidates = [] → v ≠ .null)) ∧
    t.test s (.inList e candidates false) = t.test s (e.equalsAny candidates false) ∧
    (∀ d, (Expr.inList e [] negated).tokens d = (Expr.truth negated).tokens d) ∧
    t.eval s (e.equalsAny [] negated) = t.eval s (.truth negated) ∧
    (t.eval s (.inList e [] negated) = t.eval s (.truth negated) ↔ v ≠ .null) ∧
    ∀ subject p q result, t.resolve none subject = .ok p → p.expr = e → t.run q = .ok result →
      ∀ outer row, ∃ f, t.boundWithin outer (.inQuery subject q negated) row = .ok f ∧
        (t.eval s f = t.eval s (e.equalsAny (answered result) negated) ↔
          (answered result = [] → v ≠ .null)) ∧
        (result.rows = [] → (t.eval s f = t.eval s (.truth negated) ↔ v ≠ .null)) := by
  have nil := eval_inList_nil_eq_truth_iff he negated
  refine ⟨eval_inList_eq_equalsAny_iff_decided he hcandidates negated,
    test_inList_eq_equalsAny he hcandidates, fun d => by simp [Expr.tokens],
    eval_equalsAny_nil negated, nil, fun subject p q result hsubject hp hrun outer row => ?_⟩
  refine ⟨_, boundWithin_inQuery hsubject hrun negated row, ?_, fun hrows => ?_⟩
  · rw [hp]
    exact eval_inList_eq_equalsAny_iff_decided he (fun c hc => eval_of_mem_answered hc) negated
  · rw [hp, answered, hrows]
    exact nil

end

def timedShifts : Table where
  name := "shifts"
  columns := [⟨"hours", .integer⟩]
  rows := [[("hours", .int 5)], [("hours", .null)]]

def noHours : Query :=
  ⟨[⟨.col "hours", none⟩], false, some { table := "shifts" }, some (.truth false), [], none, [],
    none⟩

/-- Five hours are not among seven and an unknown number, as far as is known. -/
theorem eval_inList_eq_equalsAny_timedShifts :
    timedShifts.eval (.row [("hours", .int 5)]) (.inList (.col "hours") [.ofInt 7, .null] true) =
        timedShifts.eval (.row [("hours", .int 5)])
          ((Expr.col "hours").equalsAny [.ofInt 7, .null] true) ∧
      timedShifts.run noHours = .ok ⟨["hours"], []⟩ ∧
      ∃ f, timedShifts.boundWithin none (.inQuery (.col "hours") noHours true)
          [("hours", .int 5)] = .ok f ∧
        timedShifts.eval (.row [("hours", .int 5)]) f =
          timedShifts.eval (.row [("hours", .int 5)]) (.truth true) := by
  have run : timedShifts.run noHours = .ok ⟨["hours"], []⟩ := by
    with_unfolding_all rfl
  have subject : timedShifts.eval (.row [("hours", .int 5)]) (.col "hours") = .ok (.int 5) := rfl
  have candidates : ∀ c ∈ [Expr.ofInt 7, .null],
      ∃ w, timedShifts.eval (.row [("hours", .int 5)]) c = .ok w := by
    simp [Expr.ofInt, Expr.null, eval]
  obtain ⟨list, -, -, -, -, query⟩ := eval_inList_eq_equalsAny_iff subject candidates true
  obtain ⟨f, hf, -, empty⟩ := query (.col "hours") _ noHours _ rfl rfl run none [("hours", .int 5)]
  exact ⟨list.2 (by simp), run, f, hf, (empty rfl).2 (by simp)⟩

/-- A shift of unknown length has none of no lengths, but NOT IN gives null. -/
theorem not_eval_inList_eq_equalsAny :
    timedShifts.eval (.row [("hours", .null)]) (.inList (.col "hours") [] true) = .ok .null ∧
      timedShifts.eval (.row [("hours", .null)]) ((Expr.col "hours").equalsAny [] true) =
        .ok (.bool true) ∧
      ∀ d, (Expr.inList (.col "hours") [] true).tokens d = (Expr.truth true).tokens d :=
  ⟨rfl, rfl, fun _ => rfl⟩

/-! ## BETWEEN -/

variable {low high : Expr} {l h : Value}

theorem eval_range (he : t.eval s e = .ok v) (hlow : t.eval s low = .ok l)
    (hhigh : t.eval s high = .ok h) :
    t.eval s (Predicate.range e low high true) = .ok (.ofTruth (v.boundsTruth l h)) := by
  have above : t.eval s (.binary .ge e low) = .ok (.ofTruth (Value.ordering (· != .lt) v l)) := by
    simp [eval, he, hlow, bind, Except.bind, Value.operate_ge, lift, Except.mapError]
  have below : t.eval s (.binary .le e high) = .ok (.ofTruth (Value.ordering (· != .gt) v h)) := by
    simp [eval, he, hhigh, bind, Except.bind, Value.operate_le, lift, Except.mapError]
  have logical : BinaryOp.and.isLogical = true := rfl
  exact eval_binary_of_truth logical above below

theorem eval_between (he : t.eval s e = .ok v) (hlow : t.eval s low = .ok l)
    (hhigh : t.eval s high = .ok h) (negated : Bool) :
    t.eval s (.between e low high negated) =
      .ok (.ofTruth ((v.betweenTruth l h).map (· != negated))) := by
  simp [eval, he, hlow, hhigh, bind, Except.bind, Value.isBetween_eq]

/--
BETWEEN has the value of the two comparisons that it is short for, and NOT BETWEEN that of
their negation, unless one bound is null while the other one excludes the value, or a bound
has no order with the value. Rows pass BETWEEN alike even then.
-/
theorem eval_between_eq_inBounds_iff (he : t.eval s e = .ok v) (hlow : t.eval s low = .ok l)
    (hhigh : t.eval s high = .ok h) (negated : Bool) :
    (t.eval s (.between e low high negated) = t.eval s (e.inBounds low high negated) ↔
      ¬ v.BoundsApart l h) ∧
    t.test s (.between e low high false) = t.test s (e.inBounds low high false) := by
  have between (negated : Bool) := eval_between he hlow hhigh negated
  have bounds (negated : Bool) := eval_negatedIf (eval_range he hlow hhigh) negated
  have injective : Function.Injective (Option.map (· != negated)) :=
    Option.map_injective fun a b => by cases negated <;> simp
  constructor
  · rw [between, Expr.inBounds, bounds, Except.ok.injEq, ofTruth_injective.eq_iff,
      injective.eq_iff, Value.betweenTruth_eq_iff]
  · rw [test_of_truth (between false), Expr.inBounds, test_of_truth (bounds false)]
    by_cases apart : v.BoundsApart l h
    · simp [apart.not_inside]
    · rw [(Value.betweenTruth_eq_iff v l h).2 apart]

/-- Whether five hours are not between three and an unknown number is not known. -/
theorem eval_between_eq_inBounds_timedShifts :
    timedShifts.eval (.row [("hours", .int 5)])
        (.between (.col "hours") (.ofInt 3) .null true) =
      timedShifts.eval (.row [("hours", .int 5)])
        ((Expr.col "hours").inBounds (.ofInt 3) .null true) := by
  have notBelow : (Value.int 5).order? (.int 3) = some .gt := rfl
  refine (eval_between_eq_inBounds_iff (v := .int 5) (l := .int 3) (h := .null) rfl rfl rfl
    true).1.2 fun apart => ?_
  rw [Value.boundsApart_iff, notBelow] at apart
  simp at apart

/--
Five hours are surely not between ten and an unknown number, but NOT BETWEEN gives null; and
they have no order with a text, but NOT BETWEEN gives true.
-/
theorem not_eval_between_eq_inBounds :
    timedShifts.eval (.row [("hours", .int 5)])
        (.between (.col "hours") (.ofInt 10) .null true) = .ok .null ∧
      timedShifts.eval (.row [("hours", .int 5)])
        ((Expr.col "hours").inBounds (.ofInt 10) .null true) = .ok (.bool true) ∧
      timedShifts.eval (.row [("hours", .int 5)])
        (.between (.col "hours") (.ofText "a") (.ofInt 9) true) = .ok (.bool true) ∧
      timedShifts.eval (.row [("hours", .int 5)])
        ((Expr.col "hours").inBounds (.ofText "a") (.ofInt 9) true) = .ok .null :=
  ⟨rfl, rfl, rfl, rfl⟩

end Table

end GridSql
