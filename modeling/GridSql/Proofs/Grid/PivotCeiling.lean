import GridSql.Proofs.Grid.Pivoted
import Mathlib.Algebra.Group.Action.Defs

/-!
# The ceiling on generated columns

The settings may limit how wide a request that pivots gets. What is counted are the
combinations of pivot values, after each pivot column, and a count does not grow over the
largest number there is. Each combination makes one column for every value column, so there
are as many generated columns as combinations at most where there is a single value column.
-/

namespace GridSql

def valueCounts (values : List (String × List Value)) : List Nat :=
  values.map (·.2.length)

namespace PivotContext

/-! ## Counts that stop at a limit -/

/-- A count that has stopped at the limit is multiplied as if it had not. -/
theorem multiply_min (count values : Nat) :
    multiply (min count countLimit) values = min (count * values) countLimit := by
  unfold multiply
  rcases Nat.le_total count countLimit with small | large
  · rw [Nat.min_eq_left small]
  · rw [Nat.min_eq_right large]
    rcases Nat.eq_zero_or_pos values with rfl | positive
    · rfl
    · have counted : countLimit ≤ countLimit * values := Nat.le_mul_of_pos_right _ positive
      have whole : countLimit * values ≤ count * values := Nat.mul_le_mul_right _ large
      omega

theorem checkCount_ok_iff {limit : Option Nat} {actual : Nat} :
    checkCount limit actual = .ok () ↔ ∀ most ∈ limit, actual ≤ most := by
  cases limit with
  | none => simp [checkCount]
  | some most =>
      unfold checkCount
      dsimp only
      split <;> simp <;> omega

theorem values_of_build {r : Request} {values : List (String × List Value)}
    {aggregates : AggregateRegistry} {separator : String} {limit : Option Nat}
    {p : PivotContext} (built : build r values aggregates separator limit = .ok p) :
    p.values = values := by
  obtain ⟨_, -, built⟩ := bind_ok_iff.1 built
  obtain ⟨columns, -, built⟩ := bind_ok_iff.1 built
  cases built
  rfl

end PivotContext

namespace Grid

open PivotContext

variable {g : Grid} {r : Request} {p : RequestPlan}

/-! ## Combinations under a ceiling -/

/-- Behind every pivot column the combinations so far are no more than the ceiling. -/
theorem pivotValues_within (count : Nat) {cols : List ColumnRef}
    {values : List (String × List Value)}
    (h : g.pivotValues (min count countLimit) cols = .ok values)
    {front back : List (String × List Value)} (split : values = front ++ back)
    (some_ : front ≠ []) :
    ∀ most ∈ g.settings.pivot.maxColumns,
      min (count * (valueCounts front).prod) countLimit ≤ most := by
  induction cols generalizing count values front with
  | nil =>
      cases h
      exact absurd (List.append_eq_nil_iff.1 split.symm).1 some_
  | cons c cols ih =>
      obtain ⟨own, -, h⟩ := bind_ok_iff.1 h
      obtain ⟨⟨⟩, checked, h⟩ := bind_ok_iff.1 h
      obtain ⟨others, hothers, h⟩ := bind_ok_iff.1 h
      cases h
      rw [multiply_min] at checked hothers
      obtain ⟨first, rest, rfl⟩ := List.exists_cons_of_ne_nil some_
      obtain ⟨rfl, more⟩ := List.cons.inj split
      rw [valueCounts, List.map_cons, List.prod_cons, ← Nat.mul_assoc]
      by_cases last : rest = []
      · subst last
        simpa using checkCount_ok_iff.1 checked
      · exact ih _ hothers more last

/--
Every combination of the different values of the pivot columns makes one column for each
value column. A ceiling keeps the combinations of the first pivot columns below it, however
many these are, so it bounds the columns by itself for each value column.
-/
theorem length_resultFields (pivoting : r.isPivoting = true) (accepted : g.plan r = .ok p) :
    List.Forall₂ (fun c column => column.1 = c.field ∧
        g.source.distinctValues c.field = .ok column.2) r.pivotCols p.pivot.values ∧
      p.pivot.resultFields.length =
        (valueCounts p.pivot.values).prod * r.valueCols.length ∧
      ∀ most ∈ g.settings.pivot.maxColumns,
        (∀ front back, p.pivot.values = front ++ back → front ≠ [] →
          min (valueCounts front).prod countLimit ≤ most) ∧
        (most < countLimit → p.pivot.resultFields.length ≤ most * r.valueCols.length) := by
  obtain ⟨values, hvalues, built⟩ := build_of_plan pivoting accepted
  have length : p.pivot.resultFields.length =
      (valueCounts p.pivot.values).prod * r.valueCols.length := by
    rw [resultFields_eq built, List.length_flatMap]
    simp only [List.length_map, List.map_const', List.sum_replicate, smul_eq_mul]
    rw [(build_ok built).2.1, length_cartesianProduct, values_of_build built]
    simp [valueCounts, Function.comp_def]
  rw [length, values_of_build built]
  refine ⟨pivotValues_ok hvalues, rfl, fun most hmost => ?_⟩
  have within (front back : List (String × List Value)) (split : values = front ++ back)
      (some_ : front ≠ []) : min (valueCounts front).prod countLimit ≤ most := by
    simpa using pivotValues_within 1 hvalues split some_ most hmost
  refine ⟨within, fun counted => Nat.mul_le_mul_right _ ?_⟩
  have columns : values ≠ [] := by
    rintro rfl
    have none := (pivotValues_ok hvalues).length_eq
    simp [Request.isPivoting] at pivoting none
    exact pivoting.2 none
  have all := within values [] (by simp) columns
  omega

/-! ## One column for wages -/

/-- A grid of wages that shall not get more than one generated column. -/
def narrowWages : Grid where
  source := netWages.source
  settings := { pivot := { maxColumns := some 1 } }
  table := netWages.table
  isValid := by decide

theorem plan_narrowWages :
    ∃ p, narrowWages.plan netWagesByKind = .ok p ∧
      p.pivot.resultFields = ["day_wage", "day_net_wage"] :=
  exists_of_toOption_map (by decide +kernel)

/-- The one kind of wages is under the ceiling, with two generated columns. -/
theorem length_resultFields_narrowWages :
    netWagesByKind.isPivoting = true ∧ ∃ p, narrowWages.plan netWagesByKind = .ok p ∧
      narrowWages.settings.pivot.maxColumns = some 1 ∧
      (valueCounts p.pivot.values).prod ≤ 1 ∧ p.pivot.resultFields.length = 2 := by
  obtain ⟨p, accepted, fields⟩ := plan_narrowWages
  obtain ⟨-, length, ceiling⟩ := length_resultFields rfl accepted
  have columns := (ceiling 1 rfl).2 (by decide)
  have both : netWagesByKind.valueCols.length = 2 := rfl
  rw [fields] at length columns
  rw [length, both] at columns
  refine ⟨rfl, p, accepted, rfl, by omega, by rw [fields]; rfl⟩

/-- There may be more generated columns than the ceiling on them. -/
theorem not_length_resultFields :
    ¬ ∀ (g : Grid) (r : Request) (p : RequestPlan) (most : Nat), r.isPivoting = true →
      g.settings.pivot.maxColumns = some most → g.plan r = .ok p →
        p.pivot.resultFields.length ≤ most := by
  intro allWithin
  obtain ⟨p, accepted, fields⟩ := plan_narrowWages
  have bounded := allWithin narrowWages netWagesByKind p 1 rfl rfl accepted
  rw [fields] at bounded
  exact absurd bounded (by decide)

end Grid

end GridSql
