import GridSql.Plan.Pivot
import GridSql.Proofs.Table.SelectList
import Mathlib.Algebra.BigOperators.Group.List.Basic

/-!
# Rows that match a combination

The nested CASE of a generated column is the field on the rows that have all values of its
combination and null elsewhere. Aggregates skip nulls, so the generated column is the
aggregate of the field over the matching rows.
-/

namespace GridSql

def PivotPair.isIn (p : PivotPair) (row : Row) : Bool :=
  (row.cell p.field).same p.value

/-- Whether a row has all values of a combination; a blank has the value null. -/
def PivotContext.isMatch (combination : List PivotPair) (row : Row) : Bool :=
  combination.all (·.isIn row)

namespace Table

open PivotContext

variable {t : Table} {s : Scope} {row : Row} {rows : List Row} {field : String}

/-! ## Conditions of a combination -/

theorem decides_condition {p : PivotPair} (known : (t.typeOf? p.field).isSome = true) :
    t.Decides (.row row) p.condition (p.isIn row = true) := by
  have cell : t.eval (.row row) (.col p.field) = .ok (row.cell p.field) := eval_col known
  unfold PivotPair.condition PivotPair.isIn
  by_cases hnull : p.value.isNull = true
  · rw [if_pos hnull, (Value.isNull_iff _).1 hnull]
    refine (decides_isNull cell).congr ?_
    cases row.cell p.field <;> simp [Value.same, Value.order?]
  · rw [if_neg hnull]
    have notNull : p.value ≠ .null := fun h => hnull ((Value.isNull_iff _).2 h)
    refine (decides_comparison .eq rfl cell rfl).congr ?_
    simp only [BinaryOp.Accepts, Value.same, beq_iff_eq]
    refine ⟨fun h => h.2.2, fun h => ⟨fun blank => ?_, notNull, h⟩⟩
    rw [blank] at h
    cases hvalue : p.value <;> simp_all [Value.order?]

/-- A CASE without ELSE is its result where the condition is true and null elsewhere. -/
theorem eval_caseWhen {condition result : Expr} {P : Prop} [Decidable P]
    (h : t.Decides s condition P) :
    t.eval s (.caseWhen condition result) = if P then t.eval s result else .ok .null := by
  obtain ⟨b, hb, hP⟩ := h
  have branch : t.eval s (.caseWhen condition result) =
      if b = some true then t.eval s result else .ok .null := by
    rcases b with _ | _ | _ <;>
      simp [Expr.caseWhen, eval, evalOption, evalBranches, hb, Value.ofTruth, bind, Except.bind]
    cases t.eval s result <;> rfl
  rw [branch]
  exact if_congr hP rfl rfl

theorem eval_matching {combination : List PivotPair}
    (known : ∀ p ∈ combination, (t.typeOf? p.field).isSome = true) :
    t.eval (.row row) (matching combination field) =
      if isMatch combination row then t.eval (.row row) (.col field) else .ok .null := by
  induction combination with
  | nil => rfl
  | cons p combination ih =>
      obtain ⟨hp, hrest⟩ := List.forall_mem_cons.1 known
      change t.eval (.row row) (.caseWhen p.condition (matching combination field)) = _
      rw [eval_caseWhen (decides_condition hp), ih hrest]
      simp only [isMatch, List.all_cons, Bool.and_eq_true]
      by_cases own : p.isIn row = true <;> simp [own]

/-! ## Aggregates of a combination -/

def presentValues (t : Table) (rows : List Row) (e : Expr) : Except SourceError (List Value) :=
  (rows.mapM fun row => t.eval (.row row) e).map fun values => values.filter (!·.isNull)

theorem presentValues_cons (e : Expr) :
    t.presentValues (row :: rows) e =
      (t.eval (.row row) e >>= fun v => t.presentValues rows e >>= fun values =>
        .ok (if v.isNull then values else v :: values)) := by
  unfold presentValues
  rw [List.mapM_cons]
  cases t.eval (.row row) e with
  | error fault => rfl
  | ok v =>
      cases rows.mapM fun row => t.eval (.row row) e with
      | error fault => rfl
      | ok values =>
          cases hv : v.isNull <;>
            simp [bind, Except.bind, pure, Except.pure, Except.map, hv]

theorem presentValues_filter {e f : Expr} {passes : Row → Bool}
    (h : ∀ row ∈ rows,
      t.eval (.row row) e = if passes row then t.eval (.row row) f else .ok .null) :
    t.presentValues rows e = t.presentValues (rows.filter passes) f := by
  induction rows with
  | nil => rfl
  | cons row rows ih =>
      obtain ⟨hrow, hrows⟩ := List.forall_mem_cons.1 h
      rw [presentValues_cons, hrow, ih hrows, List.filter_cons]
      by_cases pass : passes row = true
      · rw [if_pos pass, if_pos pass, presentValues_cons]
      · rw [if_neg pass, if_neg pass]
        cases t.presentValues (rows.filter passes) f <;> rfl

theorem presentValues_col (known : rows ≠ [] → (t.typeOf? field).isSome = true) :
    t.presentValues rows (.col field) = .ok ((rows.map (·.cell field)).filter (!·.isNull)) := by
  rw [presentValues, mapM_col known]
  rfl

theorem eval_aggregate {name : String} {a : Aggregate} (ha : Aggregate.ofName? name = some a)
    {e : Expr} (plain : e.isStar = false) :
    t.eval (.group rows) (.fn name [e]) =
      t.presentValues rows e >>= fun values => lift (a.apply values) := by
  simp [Expr.fn, eval, ha, plain, presentValues]
  cases rows.mapM fun row => t.eval (.row row) e <;> rfl

theorem isStar_matching (combination : List PivotPair) (field : String) :
    (matching combination field).isStar = false := by
  cases combination <;> rfl

theorem eval_aggregate_matching {name : String} {a : Aggregate}
    (ha : Aggregate.ofName? name = some a) {combination : List PivotPair}
    (known : ∀ p ∈ combination, (t.typeOf? p.field).isSome = true) :
    t.eval (.group rows) (.fn name [matching combination field]) =
      t.eval (.group (rows.filter (isMatch combination))) (.fn name [.col field]) := by
  rw [eval_aggregate ha (isStar_matching combination field),
    eval_aggregate (e := .col field) ha rfl,
    presentValues_filter fun row _ => eval_matching known]

def filled (field : String) (rows : List Row) : Nat :=
  rows.countP fun row => !(row.cell field).isNull

theorem eval_count (known : rows ≠ [] → (t.typeOf? field).isSome = true) :
    t.eval (.group rows) (.count (.col field)) =
      .ok (.int (Int64.ofNat (filled field rows))) := by
  have count : Aggregate.ofName? "COUNT" = some .count := Aggregate.ofName?_name .count
  rw [Expr.count, eval_aggregate count rfl, presentValues_col known]
  simp [bind, Except.bind, Aggregate.apply, lift, Except.mapError, filled,
    List.countP_eq_length_filter, List.filter_map, Function.comp_def]

/-- A count that has a value counts the rows with a cell, in a column of the table. -/
theorem eval_count_ok {v : Value} (h : t.eval (.group rows) (.count (.col field)) = .ok v) :
    (rows ≠ [] → (t.typeOf? field).isSome = true) ∧ v = .int (Int64.ofNat (filled field rows)) := by
  have known : rows ≠ [] → (t.typeOf? field).isSome = true := by
    intro some_
    obtain ⟨row, rest, rfl⟩ := List.exists_cons_of_ne_nil some_
    have count : Aggregate.ofName? "COUNT" = some .count := Aggregate.ofName?_name .count
    rw [Expr.count, eval_aggregate count rfl, presentValues_cons] at h
    obtain ⟨values, hvalues, -⟩ := bind_ok_iff.1 h
    obtain ⟨w, hw, -⟩ := bind_ok_iff.1 hvalues
    rw [Expr.col, eval] at hw
    split at hw
    · assumption
    · cases hw
  rw [eval_count known] at h
  exact ⟨known, (Except.ok.inj h).symm⟩

theorem filled_cons (field : String) (row : Row) (rows : List Row) :
    filled field (row :: rows) = filled field [row] + filled field rows := by
  unfold filled
  rw [← List.countP_append, List.singleton_append]

theorem sum_map_ite {α : Type} (passes : α → Bool) (n : Nat) (l : List α) :
    (l.map fun a => if passes a then n else 0).sum = l.countP passes * n := by
  induction l with
  | nil => simp
  | cons a l ih =>
      rw [List.map_cons, List.sum_cons, ih, List.countP_cons]
      by_cases pass : passes a = true
      · rw [if_pos pass, if_pos pass, Nat.succ_mul, Nat.add_comm]
      · rw [if_neg pass, if_neg pass, Nat.zero_add, Nat.add_zero]

theorem sum_filled (field : String) {combinations : List (List PivotPair)}
    (once : ∀ row ∈ rows, combinations.countP (isMatch · row) = 1) :
    (combinations.map fun combination =>
      filled field (rows.filter (isMatch combination))).sum = filled field rows := by
  induction rows with
  | nil => simp [filled]
  | cons row rows ih =>
      obtain ⟨hrow, hrows⟩ := List.forall_mem_cons.1 once
      have step (combination : List PivotPair) :
          filled field ((row :: rows).filter (isMatch combination)) =
            (if isMatch combination row then filled field [row] else 0) +
              filled field (rows.filter (isMatch combination)) := by
        rw [List.filter_cons]
        split
        · exact filled_cons field row _
        · rw [Nat.zero_add]
      have own := sum_map_ite (isMatch · row) (filled field [row]) combinations
      rw [hrow, Nat.one_mul] at own
      simp only [step]
      rw [List.sum_map_add, own, ih hrows, ← filled_cons]

end Table

end GridSql
