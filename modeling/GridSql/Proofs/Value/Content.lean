import GridSql.Proofs.Calendar.Order
import GridSql.Proofs.Decimal.Order
import GridSql.Value.Basic
import Mathlib.Data.String.Basic

/-!
# What a cell holds

The content of a value is what it stands for, apart from how it is written: numbers
are rational numbers and a date is its midnight. Floating-point numbers have no
content here. Values with contents are the same cell exactly if their contents are
equal, so among them being the same is an equivalence.
-/

namespace GridSql

/-- What a value stands for. -/
inductive Content where
  | null
  | bool (b : Bool)
  | number (q : ℚ)
  | text (s : String)
  | moment (t : Timestamp)
deriving DecidableEq

namespace Value

/-- The content of a value that is no floating-point number. -/
def content? : Value → Option Content
  | null => some .null
  | bool b => some (.bool b)
  | int n => some (.number n.toInt)
  | float _ => none
  | decimal d => some (.number d.toRat)
  | text s => some (.text s)
  | date d => some (.moment (Timestamp.atMidnight d))
  | timestamp t => some (.moment t)

theorem isNull_iff (v : Value) :
    v.isNull = true ↔ v = null := by
  cases v <;> simp [isNull]

theorem isNull_eq_false_iff (v : Value) :
    v.isNull = false ↔ v ≠ null := by
  cases v <;> simp [isNull]

theorem content?_eq_null_iff (v : Value) :
    v.content? = some .null ↔ v = null := by
  cases v <;> simp [content?]

/-! ## Comparing numbers -/

def number? (v : Value) : Option ℚ :=
  v.asDecimal?.map Decimal.toRat

theorem compareNumeric_of_asDecimal {v w : Value} {x y : Decimal}
    (hv : v.asDecimal? = some x) (hw : w.asDecimal? = some y) :
    v.compareNumeric w = some (compare x.toRat y.toRat) := by
  simp [compareNumeric, hv, hw, Decimal.compare_eq]

section Numbers

attribute [local simp] order?

theorem order?_number {v w : Value} {p q : ℚ}
    (hv : v.content? = some (.number p)) (hw : w.content? = some (.number q)) :
    v.order? w = some (compare p q) := by
  have compared : v.order? w = v.compareNumeric w := by
    cases v <;> cases w <;> simp_all [content?]
  have number {u : Value} {r : ℚ} (hu : u.content? = some (.number r)) :
      ∃ x, u.asDecimal? = some x ∧ r = x.toRat := by
    cases u <;> simp only [content?, Option.some.injEq, reduceCtorEq, Content.number.injEq] at hu
    · exact ⟨_, rfl, by rw [← hu, Decimal.toRat_ofInt64]⟩
    · exact ⟨_, rfl, hu.symm⟩
  obtain ⟨x, hx, rfl⟩ := number hv
  obtain ⟨y, hy, rfl⟩ := number hw
  rw [compared, compareNumeric_of_asDecimal hx hy]

end Numbers

/-! ## Being the same cell -/

theorem compare_timestamp_eq_iff (t u : Timestamp) :
    compare t u = .eq ↔ t = u := by
  rw [Timestamp.compare_eq, compare_eq_iff_eq]
  exact Timestamp.key_injective.eq_iff

/-- The order of two points in time, dates among them. -/
theorem order?_moment {v w : Value} {t u : Timestamp}
    (hv : v.content? = some (.moment t)) (hw : w.content? = some (.moment u)) :
    v.order? w = some (compare t u) := by
  cases v <;> simp only [content?, Option.some.injEq, reduceCtorEq, Content.moment.injEq] at hv <;>
    cases w <;> simp only [content?, Option.some.injEq, reduceCtorEq, Content.moment.injEq] at hw <;>
    subst hv hw <;> simp [order?, Timestamp.compare_atMidnight]

/-- Values are the same cell exactly if they have the same content. -/
theorem same_iff {v w : Value} {a b : Content}
    (hv : v.content? = some a) (hw : w.content? = some b) :
    v.same w = true ↔ a = b := by
  unfold same
  cases a with
  | null =>
      cases (content?_eq_null_iff v).1 hv
      cases w <;> simp_all [order?, content?] <;> simp [← hw]
  | bool p =>
      cases v <;> simp_all [content?]
      cases w <;> simp_all [order?, compareNumeric, asDecimal?] <;> simp [← hw]
  | number p =>
      cases b with
      | number q => simp [order?_number hv hw]
      | _ =>
          cases v <;> simp_all [content?] <;>
            cases w <;> simp_all [order?, compareNumeric, asDecimal?]
  | text p =>
      cases v <;> simp_all [content?]
      cases w <;> simp_all [order?, compareNumeric, asDecimal?] <;> simp [← hw]
  | moment t =>
      cases b with
      | moment u => simp [order?_moment hv hw, compare_timestamp_eq_iff]
      | _ =>
          cases v <;> simp_all [content?] <;>
            cases w <;> simp_all [order?, compareNumeric, asDecimal?]

/-! ## Cells without content -/

variable {v w : Value} {k : Content}

theorem content?_eq_none_iff :
    v.content? = none ↔ ∃ x, v = .float x := by
  cases v <;> simp [content?]

theorem not_same_float (hv : v.content? = some k) (notNumber : ∀ q, k ≠ .number q) (x : Float) :
    v.same (.float x) = false ∧ (float x).same v = false := by
  cases v with
  | int n => exact absurd (Option.some.inj hv).symm (notNumber _)
  | decimal d => exact absurd (Option.some.inj hv).symm (notNumber _)
  | float y => cases hv
  | _ => simp [same, order?, compareNumeric, asDecimal?]

theorem content?_of_same (same_ : v.same w = true) (notNumber : ∀ q, k ≠ .number q)
    (h : v.content? = some k ∨ w.content? = some k) :
    v.content? = some k ∧ w.content? = some k := by
  cases hv : v.content? with
  | none =>
      obtain ⟨x, rfl⟩ := content?_eq_none_iff.1 hv
      have hw := h.resolve_left (by simp [hv])
      rw [(not_same_float hw notNumber x).2] at same_
      cases same_
  | some a =>
      cases hw : w.content? with
      | none =>
          obtain ⟨x, rfl⟩ := content?_eq_none_iff.1 hw
          have hv := h.resolve_right (by simp [hw])
          rw [(not_same_float hv notNumber x).1] at same_
          cases same_
      | some b =>
          have equal := (same_iff hv hw).1 same_
          simp_all

theorem same_iff_content (hw : w.content? = some k) (notNumber : ∀ q, k ≠ .number q) :
    v.same w = true ↔ v.content? = some k := by
  constructor
  · intro same_
    exact (content?_of_same same_ notNumber (.inr hw)).1
  · intro hv
    exact (same_iff hv hw).2 rfl

end Value

end GridSql
