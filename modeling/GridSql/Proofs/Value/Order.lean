import GridSql.Proofs.Value.Content
import Mathlib.Data.String.Basic
import Mathlib.Data.Sum.Order
import Mathlib.Order.Compare
import Mathlib.Order.CompletePartialOrder

/-!
# The order of what cells hold

Contents have keys in a linear order: null comes first, then the kinds of values one after
the other, each in its own order. Cells that can be compared are in the order of their keys,
and cells with equal keys are the same cell.
-/

namespace GridSql

namespace Content

/-- Null, truth values, numbers, texts and points in time, the former before the latter. -/
abbrev Key := Unit ⊕ₗ Bool ⊕ₗ ℚ ⊕ₗ String ⊕ₗ Timestamp.Key

def key : Content → Key
  | null => Sum.inlₗ ()
  | bool b => Sum.inrₗ (Sum.inlₗ b)
  | number q => Sum.inrₗ (Sum.inrₗ (Sum.inlₗ q))
  | text s => Sum.inrₗ (Sum.inrₗ (Sum.inrₗ (Sum.inlₗ s)))
  | moment t => Sum.inrₗ (Sum.inrₗ (Sum.inrₗ (Sum.inrₗ t.key)))

/-- Cells of one kind can be compared. -/
def kind : Content → Nat
  | null => 0
  | bool _ => 1
  | number _ => 2
  | text _ => 3
  | moment _ => 4

theorem key_injective : Function.Injective key := by
  intro a b h
  cases a <;> cases b <;> simp_all [key, Sum.inlₗ, Sum.inrₗ]
  exact Timestamp.key_injective h

theorem compare_of_strictMono {α β : Type} [LinearOrder α] [LinearOrder β] {f : α → β}
    (h : StrictMono f) (x y : α) :
    compare (f x) (f y) = compare x y := by
  rw [← cmp_eq_compare, ← cmp_eq_compare, h.cmp_map_eq]

theorem compare_inl {α β : Type} [LinearOrder α] [LinearOrder β] (x y : α) :
    compare (Sum.inlₗ x : α ⊕ₗ β) (Sum.inlₗ y) = compare x y :=
  compare_of_strictMono Sum.Lex.inl_strictMono x y

theorem compare_inr {α β : Type} [LinearOrder α] [LinearOrder β] (x y : β) :
    compare (Sum.inrₗ x : α ⊕ₗ β) (Sum.inrₗ y) = compare x y :=
  compare_of_strictMono Sum.Lex.inr_strictMono x y

theorem compare_inl_inr {α β : Type} [LinearOrder α] [LinearOrder β] (x : α) (y : β) :
    compare (Sum.inlₗ x : α ⊕ₗ β) (Sum.inrₗ y) = .lt :=
  compare_lt_iff_lt.2 (Sum.Lex.inl_lt_inr x y)

theorem compare_inr_inl {α β : Type} [LinearOrder α] [LinearOrder β] (x : α) (y : β) :
    compare (Sum.inrₗ y : α ⊕ₗ β) (Sum.inlₗ x) = .gt :=
  compare_gt_iff_gt.2 (Sum.Lex.inl_lt_inr x y)

end Content

namespace Value

variable {v w : Value}

theorem order?_null_left {b : Content} (hw : w.content? = some b) :
    null.order? w = some (compare Content.null.key b.key) := by
  cases w <;> cases hw <;> simp [order?, Content.key, Content.compare_inl_inr]

theorem order?_null_right {a : Content} (hv : v.content? = some a) :
    v.order? null = some (compare a.key Content.null.key) := by
  cases v <;> cases hv <;> simp [order?, Content.key, Content.compare_inr_inl]

theorem order?_bool (p q : Bool) :
    (bool p).order? (bool q) = some (compare (Content.bool p).key (Content.bool q).key) := by
  simp only [order?, Content.key, Content.compare_inr, Content.compare_inl]

theorem order?_text (s u : String) :
    (text s).order? (text u) = some (compare (Content.text s).key (Content.text u).key) := by
  simp only [order?, Content.key, Content.compare_inr, Content.compare_inl]

/-- Null is compared with everything, and other cells with those of their kind. -/
theorem order?_isSome_iff {a b : Content} (hv : v.content? = some a) (hw : w.content? = some b) :
    (v.order? w).isSome = true ↔ a = .null ∨ b = .null ∨ a.kind = b.kind := by
  cases v <;> cases hv <;> cases w <;> cases hw <;>
    simp [order?, compareNumeric, asDecimal?, Content.kind]

theorem order?_eq_compare {a b : Content} (hv : v.content? = some a)
    (hw : w.content? = some b) (comparable : (v.order? w).isSome = true) :
    v.order? w = some (compare a.key b.key) := by
  rcases (order?_isSome_iff hv hw).1 comparable with rfl | rfl | same
  · cases (content?_eq_null_iff v).1 hv
    exact order?_null_left hw
  · cases (content?_eq_null_iff w).1 hw
    exact order?_null_right hv
  · cases a <;> cases b <;> cases same
    case null.null.refl =>
        cases (content?_eq_null_iff v).1 hv
        exact order?_null_left hw
    case bool.bool.refl p q =>
        cases v <;> cases hv
        cases w <;> cases hw
        exact order?_bool p q
    case number.number.refl p q =>
        rw [order?_number hv hw]
        simp only [Content.key, Content.compare_inl, Content.compare_inr]
    case text.text.refl s u =>
        cases v <;> cases hv
        cases w <;> cases hw
        exact order?_text s u
    case moment.moment.refl t u =>
        rw [order?_moment hv hw, Timestamp.compare_eq]
        simp only [Content.key, Content.compare_inr]

end Value

end GridSql
