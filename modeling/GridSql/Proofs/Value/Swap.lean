import GridSql.Proofs.Value.Order

/-!
# Comparing cells the other way round

Two cells have an order exactly if they have one the other way round, and then it is the
opposite one, floating-point numbers included. So being the same cell does not depend on
which of the two comes first, though it is neither reflexive, since a double may be no
number, nor transitive, since doubles are compared with numbers by their decimal digits.
-/

namespace GridSql

namespace Value

/-! ## Doubles -/

open Float.Model in
theorem compare_unpacked_swap (x y : UnpackedFloat) :
    y.compare x = (x.compare y).map Ordering.swap := by
  have magnitudes (e f : ℤ) (m n : ℕ) :
      (compare f e).then (compare n m) = ((compare e f).then (compare m n)).swap := by
    rw [Ordering.swap_then, ← Std.OrientedCmp.eq_swap, ← Std.OrientedCmp.eq_swap]
  cases x with
  | notANumber => cases y <;> rfl
  | infinity s => cases s <;> rcases y with ⟨_ | _⟩ | _ | _ | ⟨_ | _, _⟩ <;> rfl
  | zero s => rcases y with ⟨_ | _⟩ | _ | _ | ⟨_ | _, _⟩ <;> rfl
  | finite s m e positive =>
      cases s <;> rcases y with ⟨_ | _⟩ | _ | _ | ⟨_ | _, n, f, _⟩ <;> try rfl
      · exact congrArg (fun o : Ordering => some o.swap) (magnitudes e f m n)
      · exact congrArg some (magnitudes e f m n)

theorem compareFloat_eq (x y : Float) :
    compareFloat x y = x.toModel.compare y.toModel := by
  have swapped : y.toModel.compare x.toModel = (x.toModel.compare y.toModel).map Ordering.swap :=
    compare_unpacked_swap _ _
  have less (a b : Float) : a < b ↔ a.toModel.compare b.toModel = some .lt := by
    have unfolded : a < b ↔ decide (a.toModel.lt b.toModel = true) = true := Iff.rfl
    rw [unfolded, decide_eq_true_iff]
    exact beq_iff_eq
  have equal (a b : Float) : (a == b) = true ↔ a.toModel.compare b.toModel = some .eq := by
    exact beq_iff_eq (a := a.toModel.compare b.toModel)
  simp only [compareFloat, less, equal, swapped]
  rcases x.toModel.compare y.toModel with _ | _ | _ | _ <;> simp

theorem compareFloat_swap (x y : Float) :
    compareFloat y x = (compareFloat x y).map Ordering.swap := by
  rw [compareFloat_eq, compareFloat_eq]
  exact compare_unpacked_swap _ _

/-! ## All cells -/

theorem compareNumeric_swap (v w : Value) :
    w.compareNumeric v = (v.compareNumeric w).map Ordering.swap := by
  unfold compareNumeric
  cases v.asDecimal? <;> cases w.asDecimal? <;> try rfl
  next x y =>
    simp only [Decimal.compare_eq, Option.map_some]
    exact congrArg some Std.OrientedCmp.eq_swap

theorem order?_float_swap (x : Float) (w : Value) :
    w.order? (float x) = ((float x).order? w).map Ordering.swap := by
  cases w with
  | null => rfl
  | float y => exact compareFloat_swap x y
  | _ => simp only [order?, compareNumeric_swap (float x)]

theorem order?_content_swap {v w : Value} {a b : Content} (hv : v.content? = some a)
    (hw : w.content? = some b) :
    w.order? v = (v.order? w).map Ordering.swap := by
  have symmetric : (w.order? v).isSome = (v.order? w).isSome := by
    rw [Bool.eq_iff_iff, order?_isSome_iff hw hv, order?_isSome_iff hv hw]
    tauto
  by_cases comparable : (v.order? w).isSome = true
  · rw [order?_eq_compare hv hw comparable, order?_eq_compare hw hv (symmetric.trans comparable),
      Option.map_some, ← Std.OrientedCmp.eq_swap]
  · rw [Option.not_isSome_iff_eq_none] at comparable
    rw [comparable, Option.isSome_none, Option.isSome_eq_false_iff, Option.isNone_iff_eq_none]
      at symmetric
    rw [comparable, symmetric]
    rfl

/-- The other way round the order of two cells is the opposite one. -/
theorem order?_swap (v w : Value) :
    w.order? v = (v.order? w).map Ordering.swap := by
  cases hv : v.content? with
  | none =>
      obtain ⟨x, rfl⟩ := content?_eq_none_iff.1 hv
      exact order?_float_swap x w
  | some a =>
      cases hw : w.content? with
      | some b => exact order?_content_swap hv hw
      | none =>
          obtain ⟨y, rfl⟩ := content?_eq_none_iff.1 hw
          rw [order?_float_swap y v, Option.map_map]
          simp [Function.comp_def]

theorem same_comm (v w : Value) :
    w.same v = v.same w := by
  unfold same
  rw [order?_swap v w]
  rcases v.order? w with _ | _ | _ | _ <;> rfl

end Value

end GridSql
