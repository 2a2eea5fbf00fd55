import GridSql.Decimal.Basic
import Mathlib.Algebra.Order.Field.Rat
import Mathlib.Algebra.Order.Field.Basic
import Mathlib.Order.Compare

/-!
# The numbers behind decimals

A decimal stands for a rational number. Its order is the order of these numbers, so
two decimals compare equal exactly if they are the same number.
-/

namespace GridSql

namespace Decimal

def toRat (x : Decimal) : ℚ :=
  (x.coeff : ℚ) / (tenTo x.scale : ℚ)

theorem tenTo_cast_pos (n : Nat) : (0 : ℚ) < (tenTo n : ℚ) :=
  Nat.cast_pos.2 (tenTo_pos n)

theorem toRat_lt_iff (x y : Decimal) :
    x.toRat < y.toRat ↔ x.coeff * tenTo y.scale < y.coeff * tenTo x.scale := by
  unfold toRat
  rw [div_lt_div_iff₀ (tenTo_cast_pos _) (tenTo_cast_pos _)]
  exact_mod_cast Iff.rfl

theorem toRat_eq_iff (x y : Decimal) :
    x.toRat = y.toRat ↔ x.coeff * tenTo y.scale = y.coeff * tenTo x.scale := by
  unfold toRat
  rw [div_eq_div_iff (tenTo_cast_pos _).ne' (tenTo_cast_pos _).ne']
  exact_mod_cast Iff.rfl

/-- Decimals are ordered as the numbers that they stand for. -/
theorem compare_eq (x y : Decimal) :
    compare x y = compare x.toRat y.toRat := by
  change compare (x.coeff * (tenTo y.scale : Int)) (y.coeff * (tenTo x.scale : Int)) = _
  rcases lt_trichotomy x.toRat y.toRat with h | h | h
  · rw [compare_lt_iff_lt.2 h, compare_lt_iff_lt]
    exact (toRat_lt_iff x y).1 h
  · rw [compare_eq_iff_eq.2 h, compare_eq_iff_eq]
    exact (toRat_eq_iff x y).1 h
  · rw [compare_gt_iff_gt.2 h, compare_gt_iff_gt]
    exact (toRat_lt_iff y x).1 h

theorem toRat_ofInt64 (n : Int64) : (ofInt64 n).toRat = n.toInt := by
  have hc : (ofInt64 n).coeff = n.toInt := rfl
  have hs : (ofInt64 n).scale = 0 := rfl
  simp [toRat, hc, hs, tenTo]

end Decimal

end GridSql
