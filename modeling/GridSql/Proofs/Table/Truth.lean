import GridSql.Proofs.Result
import GridSql.Proofs.Value.Content
import GridSql.Table.Eval

/-!
# Predicates that have a truth value

A predicate decides a proposition if its evaluation raises no error and gives true
exactly where the proposition holds; elsewhere it gives false or is unknown. AND and
OR of predicates decide the conjunction and the disjunction, whatever is unknown. A chain
of one of them can be regrouped: its outcome stays the same, errors included.
-/

namespace GridSql

namespace Table

variable {t : Table} {s : Scope}

attribute [local simp] eval

/-- Evaluation gives a truth value, and true exactly if the proposition holds. -/
def Decides (t : Table) (s : Scope) (e : Expr) (P : Prop) : Prop :=
  ∃ b : Option Bool, t.eval s e = .ok (.ofTruth b) ∧ (b = some true ↔ P)

theorem truth_ofTruth (b : Option Bool) :
    lift (Value.ofTruth b).truth = .ok b := by
  cases b <;> rfl

theorem truth_ok_iff {v : Value} {b : Option Bool} :
    lift v.truth = .ok b ↔ v = .ofTruth b := by
  constructor
  · intro h
    cases v with
    | null =>
        cases h
        rfl
    | bool p =>
        cases h
        rfl
    | _ => cases h
  · rintro rfl
    exact truth_ofTruth b

theorem ofTruth_injective : Function.Injective Value.ofTruth := by
  intro a b h
  cases a <;> cases b <;> simp_all [Value.ofTruth]

theorem Decides.congr {e : Expr} {P Q : Prop} (h : t.Decides s e P) (hPQ : P ↔ Q) :
    t.Decides s e Q := by
  obtain ⟨b, hb, hP⟩ := h
  exact ⟨b, hb, hP.trans hPQ⟩

/-- A row passes a predicate exactly if what it decides holds. -/
theorem Decides.test {e : Expr} {P : Prop} (h : t.Decides s e P) :
    ∃ b, t.test s e = .ok b ∧ (b = true ↔ P) := by
  obtain ⟨b, hb, hP⟩ := h
  refine ⟨b == some true, ?_, by simpa using hP⟩
  rw [Table.test, hb]
  cases b with
  | none => rfl
  | some b => cases b <;> rfl

theorem test_of_error {e : Expr} {fault : SourceError} (he : t.eval s e = .error fault) :
    t.test s e = .error fault := by
  rw [Table.test, he]
  rfl

/-! ## AND and OR -/

section

variable {l r : Expr} {op : BinaryOp}

/-- What the left operand has to be to decide a logical operator alone. -/
def decisive : BinaryOp → Bool
  | .or => true
  | _ => false

/-- The truth value of a logical operator whose left operand does not decide it. -/
def joinTruth (d : Bool) (a b : Option Bool) : Option Bool :=
  if b = some d then b else if a = some !d then b else none

theorem eval_logical (hop : op.isLogical = true) :
    t.eval s (.binary op l r) =
      t.eval s l >>= fun x => lift x.truth >>= fun a =>
        if a = some (decisive op) then .ok (.bool (decisive op))
        else t.eval s r >>= fun y => lift y.truth >>= fun b =>
          .ok (.ofTruth (joinTruth (decisive op) a b)) := by
  cases op <;> first | rfl | cases hop

theorem eval_logical_ok_iff (hop : op.isLogical = true) {v : Value} :
    t.eval s (.binary op l r) = .ok v ↔
      ∃ a, t.eval s l = .ok (.ofTruth a) ∧
        if a = some (decisive op) then v = .bool (decisive op)
        else ∃ b, t.eval s r = .ok (.ofTruth b) ∧ v = .ofTruth (joinTruth (decisive op) a b) := by
  rw [eval_logical hop]
  constructor
  · intro h
    obtain ⟨_, hl, hleft⟩ := bind_ok_iff.1 h
    obtain ⟨a, ha, hrest⟩ := bind_ok_iff.1 hleft
    rw [truth_ok_iff.1 ha] at hl
    refine ⟨a, hl, ?_⟩
    split at hrest
    · next hdecided =>
        cases hrest
        rw [if_pos hdecided]
    · next hopen =>
        obtain ⟨_, hr, hright⟩ := bind_ok_iff.1 hrest
        obtain ⟨b, hb, hv⟩ := bind_ok_iff.1 hright
        rw [truth_ok_iff.1 hb] at hr
        cases hv
        rw [if_neg hopen]
        exact ⟨b, hr, rfl⟩
  · rintro ⟨a, hl, h⟩
    refine bind_ok_iff.2 ⟨_, hl, bind_ok_iff.2 ⟨a, truth_ofTruth a, ?_⟩⟩
    split at h
    · next hdecided => rw [if_pos hdecided, h]
    · next hopen =>
        obtain ⟨b, hr, rfl⟩ := h
        rw [if_neg hopen]
        exact bind_ok_iff.2 ⟨_, hr, bind_ok_iff.2 ⟨b, truth_ofTruth b, rfl⟩⟩

theorem joinTruth_ne {d : Bool} {a b : Option Bool} (hb : b ≠ some d) :
    joinTruth d a b ≠ some d := by
  simp only [joinTruth, if_neg hb]
  split
  · exact hb
  · simp

theorem joinTruth_assoc {d : Bool} {a b c : Option Bool} (ha : a ≠ some d) (hb : b ≠ some d) :
    joinTruth d a (joinTruth d b c) = joinTruth d (joinTruth d a b) c := by
  cases d <;> rcases a with _ | _ | _ <;> rcases b with _ | _ | _ <;>
    rcases c with _ | _ | _ <;> simp_all [joinTruth]

def truthOf (t : Table) (s : Scope) (e : Expr) : Except SourceError (Option Bool) :=
  t.eval s e >>= fun v => lift v.truth

/-- The truth values of two operands joined, the second one only if the first does not decide. -/
def joinOutcomes (d : Bool) (x y : Except SourceError (Option Bool)) :
    Except SourceError (Option Bool) :=
  x >>= fun a => if a = some d then .ok a else y >>= fun b => .ok (joinTruth d a b)

theorem eval_eq_joinOutcomes (logical : op.isLogical = true) :
    t.eval s (.binary op l r) =
      (joinOutcomes (decisive op) (t.truthOf s l) (t.truthOf s r)).map Value.ofTruth := by
  rw [eval_logical logical, joinOutcomes, truthOf, bind_assoc, except_map_bind]
  refine bind_congr fun v => ?_
  rw [except_map_bind]
  refine bind_congr fun a => ?_
  split
  · next decided =>
      rw [decided]
      rfl
  · rw [truthOf, bind_assoc, except_map_bind]
    refine bind_congr fun w => ?_
    rw [except_map_bind]
    rfl

theorem truthOf_logical (logical : op.isLogical = true) :
    t.truthOf s (.binary op l r) =
      joinOutcomes (decisive op) (t.truthOf s l) (t.truthOf s r) := by
  rw [truthOf, eval_eq_joinOutcomes logical]
  cases joinOutcomes (decisive op) (t.truthOf s l) (t.truthOf s r) with
  | error fault => rfl
  | ok b => exact truth_ofTruth b

section

variable {d : Bool} {a : Option Bool} {y z : Except SourceError (Option Bool)}

theorem joinOutcomes_decided : joinOutcomes d (.ok (some d)) y = .ok (some d) :=
  if_pos rfl

theorem joinOutcomes_open (ha : a ≠ some d) :
    joinOutcomes d (.ok a) y = y >>= fun b => .ok (joinTruth d a b) :=
  if_neg ha

/-- The operand at which the evaluation fails or is decided is the same in both groupings. -/
theorem joinOutcomes_assoc (d : Bool) (x y z : Except SourceError (Option Bool)) :
    joinOutcomes d (joinOutcomes d x y) z = joinOutcomes d x (joinOutcomes d y z) := by
  cases x with
  | error fault => rfl
  | ok a =>
      by_cases ha : a = some d
      · simp only [ha, joinOutcomes_decided]
      · rw [joinOutcomes_open ha, joinOutcomes_open ha]
        cases y with
        | error fault => rfl
        | ok b =>
            by_cases hb : b = some d
            · have decided : (Except.ok (some d) >>= fun b => .ok (joinTruth d a b)) =
                  (.ok (some d) : Except SourceError (Option Bool)) :=
                congrArg Except.ok (if_pos rfl)
              rw [hb, joinOutcomes_decided, decided, joinOutcomes_decided]
            · have first : joinOutcomes d (.ok (joinTruth d a b)) z =
                  z >>= fun c => .ok (joinTruth d (joinTruth d a b) c) :=
                joinOutcomes_open (joinTruth_ne hb)
              rw [joinOutcomes_open hb, bind_assoc]
              refine first.trans (bind_congr fun c => ?_)
              exact congrArg Except.ok (joinTruth_assoc ha hb).symm

end

/-- AND and OR can be regrouped, also where an operand cannot be evaluated. -/
theorem eval_regrouped (logical : op.isLogical = true) (a b c : Expr) :
    t.eval s (.binary op (.binary op a b) c) = t.eval s (.binary op a (.binary op b c)) := by
  simp only [eval_eq_joinOutcomes logical, truthOf_logical logical, joinOutcomes_assoc]

end

/-! ## Connectives -/

theorem decides_truth (holds : Bool) :
    t.Decides s (.truth holds) (holds = true) :=
  ⟨some holds, rfl, by simp⟩

theorem Decides.and {l r : Expr} {P Q : Prop}
    (hl : t.Decides s l P) (hr : t.Decides s r Q) :
    t.Decides s (l.and r) (P ∧ Q) := by
  obtain ⟨a, ha, hP⟩ := hl
  obtain ⟨b, hb, hQ⟩ := hr
  by_cases hfalse : a = some false
  · refine ⟨some false, ?_, ?_⟩
    · simp only [Expr.and, eval, ha, truth_ofTruth, bind, Except.bind, hfalse, if_true]
      rfl
    · have hnot : ¬ P := by simp [← hP, hfalse]
      simp [hnot]
  · refine ⟨if b = some false then b else if a = some true then b else none, ?_, ?_⟩
    · simp [Expr.and, ha, hb, truth_ofTruth, hfalse, bind, Except.bind]
    · rw [← hP, ← hQ]
      by_cases hb' : b = some false <;> by_cases ha' : a = some true <;> simp [hb', ha']

theorem Decides.or {l r : Expr} {P Q : Prop}
    (hl : t.Decides s l P) (hr : t.Decides s r Q) :
    t.Decides s (l.or r) (P ∨ Q) := by
  obtain ⟨a, ha, hP⟩ := hl
  obtain ⟨b, hb, hQ⟩ := hr
  by_cases htrue : a = some true
  · refine ⟨some true, ?_, ?_⟩
    · simp only [Expr.or, eval, ha, truth_ofTruth, bind, Except.bind, htrue, if_true]
      rfl
    · simp [← hP, htrue]
  · refine ⟨if b = some true then b else if a = some false then b else none, ?_, ?_⟩
    · simp [Expr.or, ha, hb, truth_ofTruth, htrue, bind, Except.bind]
    · rw [← hP, ← hQ]
      by_cases hb' : b = some true <;> by_cases ha' : a = some false <;> simp [hb', htrue, ha']

/-- Joining further predicates to one that stands in front. -/
theorem Decides.foldl_and {e : Expr} {P : Prop} (h : t.Decides s e P) {α : Type}
    {as : List α} {es : List Expr} {Q : α → Prop}
    (hes : List.Forall₂ (fun a e => t.Decides s e (Q a)) as es) :
    t.Decides s (es.foldl (Expr.binary .and) e) (P ∧ ∀ a ∈ as, Q a) := by
  induction hes generalizing e P with
  | nil => simpa using h
  | @cons a f as es hf _ ih => exact (ih (h.and hf)).congr (by simp [and_assoc])

theorem Decides.foldl_or {e : Expr} {P : Prop} (h : t.Decides s e P) {α : Type}
    {as : List α} {es : List Expr} {Q : α → Prop}
    (hes : List.Forall₂ (fun a e => t.Decides s e (Q a)) as es) :
    t.Decides s (es.foldl (Expr.binary .or) e) (P ∨ ∃ a ∈ as, Q a) := by
  induction hes generalizing e P with
  | nil => simpa using h
  | @cons a f as es hf _ ih => exact (ih (h.or hf)).congr (by simp [or_assoc])

theorem decides_conjunction {α : Type} {as : List α} {es : List Expr} {Q : α → Prop}
    (hes : List.Forall₂ (fun a e => t.Decides s e (Q a)) as es) :
    t.Decides s (Expr.conjunction es) (∀ a ∈ as, Q a) := by
  cases hes with
  | nil => exact (decides_truth true).congr (by simp)
  | cons hfirst hrest => exact (hfirst.foldl_and hrest).congr (by simp)

theorem decides_disjunction {α : Type} {as : List α} {es : List Expr} {Q : α → Prop}
    (hes : List.Forall₂ (fun a e => t.Decides s e (Q a)) as es) :
    t.Decides s (Expr.disjunction es) (∃ a ∈ as, Q a) := by
  cases hes with
  | nil => exact (decides_truth false).congr (by simp)
  | cons hfirst hrest => exact (hfirst.foldl_or hrest).congr (by simp)

/-! ## Tests of values -/

variable {e pattern : Expr} {v w : Value}

theorem eval_col {name : String} (known : (t.typeOf? name).isSome = true) :
    t.eval s (.col name) = .ok (s.cell name) := by
  simp [Expr.col, known]

theorem decides_isNull (hv : t.eval s e = .ok v) :
    t.Decides s (.isNull e false) (v = .null) := by
  refine ⟨some v.isNull, ?_, by simpa using Value.isNull_iff v⟩
  simp [hv, bind, Except.bind, Value.ofTruth]

theorem decides_isNotNull (hv : t.eval s e = .ok v) :
    t.Decides s (.isNull e true) (v ≠ .null) := by
  refine ⟨some !v.isNull, ?_, by simpa using Value.isNull_eq_false_iff v⟩
  cases h : v.isNull <;> simp [hv, h, bind, Except.bind, Value.ofTruth]

end Table

/-- Whether a comparison holds of two values, given their order. -/
def BinaryOp.Accepts : BinaryOp → Option Ordering → Prop
  | .eq, o => o = some .eq
  | .ne, o => o ≠ some .eq
  | .lt, o => o = some .lt
  | .le, o => ∃ c, o = some c ∧ c ≠ .gt
  | .gt, o => o = some .gt
  | .ge, o => ∃ c, o = some c ∧ c ≠ .lt
  | _, _ => False

def BinaryOp.isComparison : BinaryOp → Bool
  | .eq | .ne | .lt | .gt | .le | .ge => true
  | _ => false

namespace Table

variable {t : Table} {s : Scope} {e f : Expr} {v w : Value}

attribute [local simp] eval

theorem decided_ordered {test : Ordering → Bool} {o : Option Ordering} {P : Prop}
    (hP : (∃ c, o = some c ∧ test c = true) ↔ P) :
    ∃ b : Option Bool,
      (Except.ok (Value.ordered test o) : Except SourceError Value) = .ok (.ofTruth b) ∧
        (b = some true ↔ P) := by
  refine ⟨o.map test, ?_, by simpa using hP⟩
  cases o <;> rfl

/-- A comparison holds of values that are not null and stand in the wanted order. -/
theorem decides_comparison (op : BinaryOp) (hop : op.isComparison = true)
    (hv : t.eval s e = .ok v) (hw : t.eval s f = .ok w) :
    t.Decides s (.binary op e f) (v ≠ .null ∧ w ≠ .null ∧ op.Accepts (v.order? w)) := by
  have evaluated : t.eval s (.binary op e f) = lift (v.operate op w) := by
    cases op <;> first | exact absurd hop (by decide) | simp [hv, hw, bind, Except.bind]
  by_cases hnull : v = .null ∨ w = .null
  · refine ⟨none, ?_, ?_⟩
    · have : (v.isNull || w.isNull) = true := by
        simpa [Value.isNull_iff] using hnull
      rw [evaluated]
      simp [Value.operate, this, lift, Except.mapError, Value.ofTruth]
    · simp only [reduceCtorEq, false_iff]
      tauto
  · obtain ⟨hv', hw'⟩ := not_or.1 hnull
    have : (v.isNull || w.isNull) = false := by
      simp [Value.isNull_eq_false_iff, hv', hw']
    rw [Decides, evaluated]
    simp only [Value.operate, this, lift, Except.mapError]
    cases op
    case eq => exact ⟨some (v.order? w == some .eq), rfl, by simp [BinaryOp.Accepts, hv', hw']⟩
    case ne => exact ⟨some (v.order? w != some .eq), rfl, by simp [BinaryOp.Accepts, hv', hw']⟩
    case lt => exact decided_ordered (by simp [BinaryOp.Accepts, hv', hw'])
    case le => exact decided_ordered (by simp [BinaryOp.Accepts, hv', hw'])
    case gt => exact decided_ordered (by simp [BinaryOp.Accepts, hv', hw'])
    case ge => exact decided_ordered (by simp [BinaryOp.Accepts, hv', hw'])
    all_goals exact absurd hop (by decide)

theorem eval_like {pattern : Expr} (escape : Char) (negated : Bool) (hv : t.eval s e = .ok v)
    (hw : t.eval s pattern = .ok w) :
    t.eval s (.like e pattern escape negated) = lift (v.isLike w escape negated) := by
  simp [hv, hw, bind, Except.bind]

/-- A LIKE test decides what the engine answers for a value that is not null. -/
theorem decides_like {pattern : Expr} {escape : Char} {matched : Bool} (negated : Bool)
    (hv : t.eval s e = .ok v) (hw : t.eval s pattern = .ok w) (hnull : w ≠ .null)
    (answer : Like.like v.display w.display escape = .ok matched) :
    t.Decides s (.like e pattern escape negated) (v ≠ .null ∧ matched ≠ negated) := by
  have hw' : w.isNull = false := (Value.isNull_eq_false_iff w).2 hnull
  rw [Decides, eval_like escape negated hv hw, Value.isLike, hw', answer]
  cases hv' : v.isNull with
  | true => exact ⟨none, rfl, by simp [(Value.isNull_iff v).1 hv']⟩
  | false =>
      exact ⟨some (matched != negated), rfl, by simp [(Value.isNull_eq_false_iff v).1 hv']⟩

theorem same_null_eq_false (hv : v ≠ .null) :
    v.same .null = false := by
  cases v <;> first | exact absurd rfl hv | rfl

theorem evalIn_literals (hv : v ≠ .null) (ws : List Value) (sawNull : Bool) :
    ∃ b : Option Bool, t.evalIn s v false sawNull (ws.map .literal) = .ok (.ofTruth b) ∧
      (b = some true ↔ ∃ w ∈ ws, v.same w = true) := by
  induction ws generalizing sawNull with
  | nil =>
      refine ⟨if sawNull then none else some false, ?_, by cases sawNull <;> simp⟩
      cases sawNull <;> rfl
  | cons w ws ih =>
      cases hnull : w.isNull with
      | true =>
          obtain ⟨b, hb, found⟩ := ih true
          have apart : v.same w = false := by
            rw [(Value.isNull_iff w).1 hnull]
            exact same_null_eq_false hv
          refine ⟨b, by simpa [evalIn, bind, Except.bind, hnull] using hb, ?_⟩
          simp [found, apart]
      | false =>
          cases hsame : v.same w with
          | true =>
              exact ⟨some true, by simp [evalIn, bind, Except.bind, hnull, hsame,
                Value.ofTruth], by simp [hsame]⟩
          | false =>
              obtain ⟨b, hb, found⟩ := ih sawNull
              refine ⟨b, by simpa [evalIn, bind, Except.bind, hnull, hsame] using hb, ?_⟩
              simp [found, hsame]

theorem decides_inList (ws : List Value) (hv : t.eval s e = .ok v) :
    t.Decides s (.inList e (ws.map .literal) false)
      (v ≠ .null ∧ ∃ w ∈ ws, v.same w = true) := by
  have evaluated : t.eval s (.inList e (ws.map .literal) false) =
      if v.isNull then .ok .null else t.evalIn s v false false (ws.map .literal) := by
    simp [hv, bind, Except.bind]
  rw [Decides, evaluated]
  cases hv' : v.isNull with
  | true => exact ⟨none, rfl, by simp [(Value.isNull_iff v).1 hv']⟩
  | false =>
      have notNull := (Value.isNull_eq_false_iff v).1 hv'
      obtain ⟨b, hb, found⟩ := evalIn_literals (t := t) (s := s) notNull ws false
      exact ⟨b, hb, found.trans (by simp [notNull])⟩

end Table

end GridSql
