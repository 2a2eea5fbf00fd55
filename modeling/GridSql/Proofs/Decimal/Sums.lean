import GridSql.Proofs.Decimal.Order
import Mathlib.Algebra.Order.BigOperators.Group.Multiset
import Mathlib.Tactic.FieldSimp
import Mathlib.Tactic.Ring

/-!
# Exact sums of decimals

Decimals are in lowest terms, so a number has one decimal at most, up to the sign of zero.
Where the sum of two decimals is the number of a decimal, their addition succeeds with it:
nothing is rounded. So numbers that are added one after the other give their sum, in whichever
order, as long as what has been added so far is always the number of a decimal.
-/

namespace GridSql

namespace Decimal

def IsDecimal (q : ℚ) : Prop :=
  ∃ d : Decimal, d.toRat = q

/-! ## Lowest terms -/

theorem toRat_reduce {coeff : Int} {scale : Nat} (hc : coeff.natAbs ≤ maxCoeff)
    (hs : scale ≤ maxScale) :
    (reduce coeff scale hc hs).toRat = coeff / tenTo scale := by
  induction scale generalizing coeff with
  | zero => rfl
  | succ places ih =>
      unfold reduce
      split
      · next divisible =>
          obtain ⟨m, rfl⟩ := Int.dvd_of_emod_eq_zero divisible
          have pos := tenTo_cast_pos places
          rw [ih, tenTo_add, Int.mul_ediv_cancel_left _ (by decide)]
          push_cast
          rw [show (tenTo 1 : ℚ) = 10 from by norm_num [tenTo]]
          field_simp
      · rfl

/-- A decimal has the fewest places that its number can be written with. -/
theorem scale_le_of_eq {d : Decimal} {n : Int} {places : Nat}
    (h : d.coeff * tenTo places = n * tenTo d.scale) :
    d.scale ≤ places := by
  by_contra more
  obtain ⟨k, hk⟩ := Nat.exists_eq_add_of_lt (not_le.1 more)
  have pos : (tenTo places : Int) ≠ 0 := by exact_mod_cast (tenTo_pos places).ne'
  have coeff : d.coeff = 10 * (n * tenTo k) := by
    have ten : tenTo 1 = 10 := by decide
    rw [hk, tenTo_add, tenTo_add, ten] at h
    push_cast at h
    exact mul_right_cancel₀ pos (h.trans (by ring))
  rcases d.lowest with zero | indivisible
  · omega
  · exact indivisible (by rw [coeff, Int.mul_emod_right])

/-- A number has one decimal, up to the sign of zero. -/
theorem parts_eq_of_toRat_eq {x y : Decimal} (h : x.toRat = y.toRat) :
    x.coeff = y.coeff ∧ x.scale = y.scale := by
  rw [toRat_eq_iff] at h
  have scale : x.scale = y.scale := le_antisymm (scale_le_of_eq h) (scale_le_of_eq h.symm)
  have pos : (tenTo y.scale : Int) ≠ 0 := by exact_mod_cast (tenTo_pos y.scale).ne'
  rw [scale] at h
  exact ⟨mul_right_cancel₀ pos h, scale⟩

/-! ## Divisions without a remainder -/

theorem divRound_mul {den : Nat} (hden : 0 < den) (n : Int) :
    divRound (n * den) den = n := by
  have below : (n * den).fdiv den = n := Int.mul_fdiv_cancel n (by omega)
  unfold divRound
  simp only [below, sub_self, mul_zero]
  exact if_pos (.inl (by exact_mod_cast hden))

/-- Whole numbers with places keep their number where they are within the bounds. -/
theorem ofParts?_eq_some {coeff : Int} {scale : Nat} (hc : coeff.natAbs ≤ maxCoeff)
    (hs : scale ≤ maxScale) :
    ∃ z, ofParts? coeff scale = some z ∧ z.toRat = coeff / tenTo scale :=
  ⟨_, dif_pos ⟨hc, hs⟩, toRat_reduce hc hs⟩

/-- The number of a decimal in whole numbers, written with more places. -/
theorem mul_tenTo_eq {d : Decimal} {num : Int} {den places : Nat}
    (h : d.coeff * den = num * tenTo d.scale) (hplaces : d.scale ≤ places) :
    num * tenTo places = d.coeff * tenTo (places - d.scale) * den := by
  obtain ⟨more, rfl⟩ := Nat.exists_eq_add_of_le hplaces
  rw [Nat.add_sub_cancel_left, tenTo_add]
  push_cast
  rw [← mul_assoc, ← h]
  ring

theorem toRat_eq_of_places {d z : Decimal} {places : Nat} (hplaces : d.scale ≤ places)
    (h : z.toRat = ((d.coeff * tenTo (places - d.scale) : Int) : ℚ) / tenTo places) :
    z.toRat = d.toRat := by
  obtain ⟨more, rfl⟩ := Nat.exists_eq_add_of_le hplaces
  have pos := tenTo_cast_pos more
  have pos' := tenTo_cast_pos d.scale
  rw [h, toRat, Nat.add_sub_cancel_left, tenTo_add]
  push_cast
  field_simp

theorem ofRatioAux_exact {d : Decimal} {num : Int} {den places : Nat} (hden : 0 < den)
    (h : d.coeff * den = num * tenTo d.scale) (hplaces : d.scale ≤ places)
    (hmax : places ≤ maxScale) :
    ∃ z, ofRatioAux num den places = some z ∧ z.toRat = d.toRat := by
  induction places with
  | zero =>
      have whole := mul_tenTo_eq h hplaces
      have none : d.scale = 0 := Nat.le_zero.1 hplaces
      have one : tenTo 0 = 1 := by decide
      simp only [none, one, Nat.sub_zero, Nat.cast_one, mul_one] at whole
      obtain ⟨z, hz, number⟩ := ofParts?_eq_some d.coeff_le (Nat.zero_le maxScale)
      refine ⟨z, by rw [ofRatioAux, whole, divRound_mul hden, hz], ?_⟩
      rw [number, toRat, none]
  | succ places ih =>
      rw [ofRatioAux, mul_tenTo_eq h hplaces, divRound_mul hden]
      by_cases fits : (d.coeff * tenTo (places + 1 - d.scale)).natAbs ≤ maxCoeff
      · obtain ⟨z, hz, number⟩ := ofParts?_eq_some fits hmax
        exact ⟨z, by rw [hz], toRat_eq_of_places hplaces number⟩
      · -- With all of its places the number would fit, so it has fewer.
        have fewer : d.scale ≤ places := by
          by_contra all
          have same : places + 1 = d.scale := by omega
          rw [same, Nat.sub_self] at fits
          refine fits ?_
          have one : tenTo 0 = 1 := by decide
          rw [one, Nat.cast_one, mul_one]
          exact d.coeff_le
        rw [ofParts?, dif_neg (fun within => fits within.1)]
        exact ih fewer (by omega)

/-! ## Additions -/

theorem toRat_of_isZero {x : Decimal} (h : x.isZero = true) : x.toRat = 0 := by
  have coeff : x.coeff = 0 := by simpa [isZero] using h
  rw [toRat, coeff, Int.cast_zero, zero_div]

theorem add?_exact {x y : Decimal} (h : IsDecimal (x.toRat + y.toRat)) :
    ∃ z, x.add? y = some z ∧ z.toRat = x.toRat + y.toRat := by
  obtain ⟨d, hd⟩ := h
  unfold add?
  by_cases hx : x.isZero = true
  · rw [if_pos hx, toRat_of_isZero hx, zero_add]
    exact ⟨y, rfl, rfl⟩
  · rw [if_neg hx]
    by_cases hy : y.isZero = true
    · rw [if_pos hy, toRat_of_isZero hy, add_zero]
      exact ⟨x, rfl, rfl⟩
    · rw [if_neg hy]
      have parts : d.coeff * (tenTo (x.scale + y.scale) : Int) =
          (x.coeff * tenTo y.scale + y.coeff * tenTo x.scale) * tenTo d.scale := by
        have posx := tenTo_cast_pos x.scale
        have posy := tenTo_cast_pos y.scale
        have posd := tenTo_cast_pos d.scale
        simp only [toRat] at hd
        rw [div_add_div _ _ posx.ne' posy.ne', div_eq_div_iff posd.ne' (mul_pos posx posy).ne']
          at hd
        have whole : (d.coeff : ℚ) * (tenTo (x.scale + y.scale) : ℚ) =
            (x.coeff * tenTo y.scale + y.coeff * tenTo x.scale) * tenTo d.scale := by
          rw [tenTo_add]
          push_cast
          rw [hd]
          ring
        exact_mod_cast whole
      obtain ⟨z, hz, number⟩ := ofRatioAux_exact (tenTo_pos _) parts d.scale_le le_rfl
      refine ⟨signZero (x.coeff < 0 && x.isShort) z, ?_, number.trans hd⟩
      rw [addNonzero?, ofRatio?, if_neg (tenTo_pos _).ne', hz]
      rfl

theorem div?_eq_of_toRat_eq {x y : Decimal} (h : x.toRat = y.toRat) (d : Decimal) :
    x.div? d = y.div? d := by
  obtain ⟨coeff, scale⟩ := parts_eq_of_toRat_eq h
  rw [div?, div?, coeff, scale]

/-! ## Sums of many numbers -/

/-- Whether numbers that are added one after the other always come to that of a decimal. -/
def ExactSums (qs : List ℚ) : Prop :=
  ∀ front, front <+: qs → IsDecimal front.sum

/--
Whether numbers can be written with so many places, and their magnitudes, added up without
the point, stay within the bound.
-/
structure FitsTogether (places : Nat) (qs : List ℚ) : Prop where
  places_le : places ≤ maxScale
  whole : ∀ q ∈ qs, ∃ n : Int, q = n / tenTo places
  magnitude : (qs.map abs).sum * tenTo places ≤ maxCoeff

variable {places : Nat} {qs : List ℚ}

theorem FitsTogether.perm (h : FitsTogether places qs) {qs' : List ℚ} (perm : qs.Perm qs') :
    FitsTogether places qs' where
  places_le := h.places_le
  whole q hq := h.whole q (perm.mem_iff.2 hq)
  magnitude := by
    rw [← (perm.map abs).sum_eq]
    exact h.magnitude

theorem FitsTogether.of_prefix (h : FitsTogether places qs) {front : List ℚ}
    (hfront : front <+: qs) :
    FitsTogether places front where
  places_le := h.places_le
  whole q hq := h.whole q (hfront.subset hq)
  magnitude := by
    obtain ⟨back, rfl⟩ := hfront
    have rest : 0 ≤ (back.map abs).sum := by
      refine List.sum_nonneg fun q hq => ?_
      obtain ⟨p, -, rfl⟩ := List.mem_map.1 hq
      exact abs_nonneg p
    have whole := h.magnitude
    rw [List.map_append, List.sum_append] at whole
    refine le_trans (mul_le_mul_of_nonneg_right ?_ (tenTo_cast_pos places).le) whole
    exact le_add_of_nonneg_right rest

theorem abs_sum_le (qs : List ℚ) : |qs.sum| ≤ (qs.map abs).sum := by
  simpa using Multiset.abs_sum_le_sum_abs (s := (qs : Multiset ℚ))

theorem FitsTogether.sum (h : FitsTogether places qs) :
    ∃ n : Int, qs.sum = n / tenTo places := by
  have whole := h.whole
  clear h
  induction qs with
  | nil => exact ⟨0, by simp⟩
  | cons q qs ih =>
      obtain ⟨⟨n, hn⟩, hqs⟩ := List.forall_mem_cons.1 whole
      obtain ⟨m, hm⟩ := ih hqs
      exact ⟨n + m, by rw [List.sum_cons, hn, hm, ← add_div, Int.cast_add]⟩

theorem FitsTogether.isDecimal_sum (h : FitsTogether places qs) : IsDecimal qs.sum := by
  obtain ⟨n, hn⟩ := h.sum
  have pos := tenTo_cast_pos places
  have bound : ((n.natAbs : Nat) : ℚ) ≤ maxCoeff := by
    have size : ((n.natAbs : Nat) : ℚ) = |qs.sum| * tenTo places := by
      rw [hn, abs_div, abs_of_pos pos, div_mul_cancel₀ _ pos.ne', Nat.cast_natAbs, Int.cast_abs]
    rw [size]
    exact (mul_le_mul_of_nonneg_right (abs_sum_le qs) pos.le).trans h.magnitude
  have fits : n.natAbs ≤ maxCoeff := by exact_mod_cast bound
  exact ⟨_, (toRat_reduce fits h.places_le).trans hn.symm⟩

theorem FitsTogether.exactSums (h : FitsTogether places qs) : ExactSums qs :=
  fun _ hfront => (h.of_prefix hfront).isDecimal_sum

end Decimal

end GridSql
