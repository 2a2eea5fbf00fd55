import GridSql.Calendar.Timestamp
import Mathlib.Data.Prod.Lex
import Mathlib.Data.Int.Order.Basic

/-!
# The order of dates and times

Dates and date-times are ordered as the tuples of their numbers, most significant
first. A date stands for its midnight in this order too.
-/

namespace GridSql

namespace Date

abbrev Key := ℤ ×ₗ ℕ ×ₗ ℕ

def key (d : Date) : Key :=
  toLex (d.year, toLex (d.month, d.day))

theorem compare_eq (a b : Date) :
    compare a b = compare a.key b.key := by
  change (compare a.year b.year).then
    ((compare a.month b.month).then (compare a.day b.day)) = _
  simp only [Prod.Lex.compare_def, compareLex, compareOn, key, ofLex_toLex]

theorem key_injective : Function.Injective key := by
  intro a b h
  simp only [key, toLex_inj, Prod.mk.injEq] at h
  obtain ⟨hyear, hmonth, hday⟩ := h
  cases a
  cases b
  simp_all

end Date

namespace TimeOfDay

abbrev Key := ℕ ×ₗ ℕ

def key (t : TimeOfDay) : Key :=
  toLex (t.second, t.nanos)

theorem compare_eq (a b : TimeOfDay) :
    compare a b = compare a.key b.key := by
  change (compare a.second b.second).then (compare a.nanos b.nanos) = _
  simp only [Prod.Lex.compare_def, compareLex, compareOn, key, ofLex_toLex]

theorem key_injective : Function.Injective key := by
  intro a b h
  simp only [key, toLex_inj, Prod.mk.injEq] at h
  cases a
  cases b
  simp_all

end TimeOfDay

namespace Timestamp

abbrev Key := Date.Key ×ₗ TimeOfDay.Key

def key (t : Timestamp) : Key :=
  toLex (t.date.key, t.time.key)

theorem compare_eq (a b : Timestamp) :
    compare a b = compare a.key b.key := by
  change (compare a.date b.date).then (compare a.time b.time) = _
  rw [Date.compare_eq, TimeOfDay.compare_eq]
  simp only [Prod.Lex.compare_def, compareLex, compareOn, key, ofLex_toLex]

theorem key_injective : Function.Injective key := by
  intro a b h
  simp only [key, toLex_inj, Prod.mk.injEq] at h
  obtain ⟨hdate, htime⟩ := h
  exact congrArg₂ Timestamp.mk (Date.key_injective hdate) (TimeOfDay.key_injective htime)

theorem compare_atMidnight (a b : Date) :
    compare (atMidnight a) (atMidnight b) = compare a b := by
  change (compare a b).then (compare TimeOfDay.midnight TimeOfDay.midnight) = _
  rw [TimeOfDay.compare_eq, compare_eq_iff_eq.2 rfl]
  cases compare a b <;> rfl

end Timestamp

end GridSql
