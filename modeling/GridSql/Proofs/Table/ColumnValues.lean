import GridSql.Proofs.Result
import GridSql.Proofs.Value.Order
import GridSql.Table.Basic
import Mathlib.Data.List.Sort

/-!
# The different cells of a column

Cells that can be compared with each other are sorted by what they hold, so equal ones come
to stand side by side and all but the first of them are dropped. What is left ascends, and
every cell of the column is the same as exactly one value of it.
-/

namespace GridSql

namespace Value

def sortKey (v : Value) : Content.Key :=
  (v.content?.getD .null).key

/-- Whether cells can be compared with each other and none of them is a double. -/
structure AllComparable (values : List Value) : Prop where
  noDoubles : ∀ v ∈ values, ∀ x, v ≠ .float x
  ordered : ∀ v ∈ values, ∀ w ∈ values, (v.order? w).isSome = true

variable {values some_ : List Value} {v w : Value}

theorem AllComparable.of_subset (h : AllComparable values) (subset : some_ ⊆ values) :
    AllComparable some_ where
  noDoubles := fun v hv => h.noDoubles v (subset hv)
  ordered := fun v hv w hw => h.ordered v (subset hv) w (subset hw)

theorem exists_content (h : ∀ x, v ≠ .float x) :
    ∃ c, v.content? = some c := by
  cases v with
  | float x => exact absurd rfl (h x)
  | _ => exact ⟨_, rfl⟩

theorem AllComparable.order?_eq (h : AllComparable values) (hv : v ∈ values) (hw : w ∈ values) :
    v.order? w = some (compare v.sortKey w.sortKey) := by
  obtain ⟨a, ha⟩ := exists_content (h.noDoubles v hv)
  obtain ⟨b, hb⟩ := exists_content (h.noDoubles w hw)
  rw [order?_eq_compare ha hb (h.ordered v hv w hw), sortKey, sortKey, ha, hb]
  rfl

theorem AllComparable.same_iff (h : AllComparable values) (hv : v ∈ values) (hw : w ∈ values) :
    v.same w = true ↔ v.sortKey = w.sortKey := by
  rw [same, h.order?_eq hv hw, beq_iff_eq, Option.some.injEq, compare_eq_iff_eq]

end Value

namespace Table

open Value

variable {t : Table} {field : String} {values rest : List Value} {kept : Value}

/-! ## Sorting -/

theorem map_sortValues (h : AllComparable values) :
    (sortValues values).map sortKey = (values.map sortKey).mergeSort (· ≤ ·) := by
  refine List.map_mergeSort fun v hv w hw => ?_
  rw [h.order?_eq hv hw, Option.getD_some, Bool.eq_iff_iff, bne_iff_ne, decide_eq_true_iff]
  exact compare_le_iff_le

/-- Cells that can be compared are sorted by what they hold. -/
theorem sorted_sortValues (h : AllComparable values) :
    (sortValues values).Pairwise fun v w => v.sortKey ≤ w.sortKey := by
  rw [← List.pairwise_map, map_sortValues h]
  exact List.pairwise_mergeSort' (· ≤ ·) _

/-! ## Dropping repeated cells -/

theorem after_sublist (kept : Value) (rest : List Value) :
    (dropRepeats.after kept rest).Sublist rest := by
  induction rest generalizing kept with
  | nil => exact .refl _
  | cons v rest ih =>
      rw [dropRepeats.after]
      split
      · exact (ih kept).cons v
      · exact (ih v).cons_cons v

theorem dropRepeats_sublist (values : List Value) :
    (dropRepeats values).Sublist values := by
  cases values with
  | nil => exact .refl _
  | cons v rest => exact (after_sublist v rest).cons_cons v

theorem exists_same_of_mem_after {v : Value} (hv : v ∈ rest) :
    ∃ w ∈ kept :: dropRepeats.after kept rest, w = v ∨ w.same v = true := by
  induction rest generalizing kept with
  | nil => cases hv
  | cons first rest ih =>
      rw [dropRepeats.after]
      rcases List.mem_cons.1 hv with rfl | hv
      · split
        · next same_ => exact ⟨kept, List.mem_cons_self, .inr same_⟩
        · exact ⟨v, by simp, .inl rfl⟩
      · split
        · exact ih hv
        · obtain ⟨w, hw, same_⟩ := ih hv
          exact ⟨w, List.mem_cons_of_mem kept hw, same_⟩

/-- Behind a cell that is kept only greater ones are. -/
theorem ascending_after (h : AllComparable (kept :: rest))
    (sorted : (kept :: rest).Pairwise fun v w => v.sortKey ≤ w.sortKey) :
    (kept :: dropRepeats.after kept rest).Pairwise fun v w => v.sortKey < w.sortKey := by
  induction rest generalizing kept with
  | nil => exact List.pairwise_singleton _ _
  | cons v rest ih =>
      obtain ⟨hkept, hrest⟩ := List.pairwise_cons.1 sorted
      rw [dropRepeats.after]
      split
      · refine ih (h.of_subset (List.cons_subset_cons _ (List.subset_cons_self _ _))) ?_
        refine List.pairwise_cons.2 ⟨fun w hw => hkept w (List.mem_cons_of_mem v hw), ?_⟩
        exact (List.pairwise_cons.1 hrest).2
      · next apart =>
          have less : kept.sortKey < v.sortKey := by
            refine lt_of_le_of_ne (hkept v List.mem_cons_self) fun heq => apart ?_
            exact (h.same_iff List.mem_cons_self (by simp)).2 heq
          refine List.pairwise_cons.2 ⟨?_, ih (h.of_subset (List.subset_cons_self _ _)) hrest⟩
          refine List.forall_mem_cons.2 ⟨less, fun w hw => less.trans_le ?_⟩
          exact (List.pairwise_cons.1 hrest).1 w ((after_sublist v rest).subset hw)

theorem mem_map_after (h : AllComparable (kept :: rest)) {k : Content.Key} :
    k ∈ (kept :: dropRepeats.after kept rest).map sortKey ↔ k ∈ (kept :: rest).map sortKey := by
  induction rest generalizing kept with
  | nil => rfl
  | cons v rest ih =>
      rw [dropRepeats.after]
      split
      · next same =>
          have equal := (h.same_iff List.mem_cons_self (by simp)).1 same
          rw [ih (h.of_subset (List.cons_subset_cons _ (List.subset_cons_self _ _)))]
          simp [equal]
      · rw [List.map_cons, List.mem_cons, ih (h.of_subset (List.subset_cons_self _ _)),
          List.map_cons (l := v :: rest), List.mem_cons]

theorem ascending_dropRepeats (h : AllComparable values)
    (sorted : values.Pairwise fun v w => v.sortKey ≤ w.sortKey) :
    (dropRepeats values).Pairwise fun v w => v.sortKey < w.sortKey := by
  cases values with
  | nil => exact .nil
  | cons v rest => exact ascending_after h sorted

theorem mem_map_dropRepeats (h : AllComparable values) {k : Content.Key} :
    k ∈ (dropRepeats values).map sortKey ↔ k ∈ values.map sortKey := by
  cases values with
  | nil => rfl
  | cons v rest => exact mem_map_after h

/-! ## The values of a column -/

theorem countP_eq_one {α : Type} {p : α → Bool} {l : List α} (found : ∃ a ∈ l, p a = true)
    (apart : l.Pairwise fun a b => p a = true → p b = false) :
    l.countP p = 1 := by
  induction l with
  | nil =>
      obtain ⟨a, ha, -⟩ := found
      cases ha
  | cons a l ih =>
      obtain ⟨ha, hl⟩ := List.pairwise_cons.1 apart
      by_cases holds : p a = true
      · have others : l.countP p = 0 :=
          List.countP_eq_zero.2 fun b hb => by simp [ha b hb holds]
        rw [List.countP_cons_of_pos holds, others]
      · obtain ⟨b, hb, hp⟩ := found
        rcases List.mem_cons.1 hb with rfl | hb
        · exact absurd hp holds
        · rw [List.countP_cons_of_neg holds]
          exact ih ⟨b, hb, hp⟩ hl

theorem distinctValues_eq_ok (h : t.distinctValues field = .ok values) :
    (t.typeOf? field).isSome = true ∧
      values = dropRepeats (sortValues (t.rows.map (·.cell field))) := by
  unfold distinctValues at h
  split at h
  · next known => exact ⟨known, (Except.ok.inj h).symm⟩
  · cases h

theorem exists_row_of_mem_distinctValues (h : t.distinctValues field = .ok values) {v : Value}
    (hv : v ∈ values) :
    ∃ row ∈ t.rows, row.cell field = v := by
  obtain ⟨-, rfl⟩ := distinctValues_eq_ok h
  have sorted := (dropRepeats_sublist _).subset hv
  exact List.mem_map.1 ((List.mergeSort_perm _ _).subset sorted)

theorem exists_same_of_mem_rows (h : t.distinctValues field = .ok values) {row : Row}
    (hrow : row ∈ t.rows) :
    ∃ w ∈ values, w = row.cell field ∨ w.same (row.cell field) = true := by
  obtain ⟨-, rfl⟩ := distinctValues_eq_ok h
  have sorted : row.cell field ∈ sortValues (t.rows.map (·.cell field)) :=
    (List.mergeSort_perm _ _).symm.subset (List.mem_map_of_mem hrow)
  cases hsorted : sortValues (t.rows.map (·.cell field)) with
  | nil =>
      rw [hsorted] at sorted
      cases sorted
  | cons first rest =>
      rw [hsorted] at sorted
      rcases List.mem_cons.1 sorted with hfirst | hrest
      · exact ⟨first, List.mem_cons_self, .inl hfirst.symm⟩
      · exact exists_same_of_mem_after hrest

/-- Each value of a column is less than those behind it. -/
theorem ascending_distinctValues (comparable : AllComparable (t.rows.map (·.cell field)))
    (h : t.distinctValues field = .ok values) :
    values.Pairwise fun v w => v.sortKey < w.sortKey := by
  obtain ⟨-, rfl⟩ := distinctValues_eq_ok h
  refine ascending_dropRepeats (comparable.of_subset ?_) (sorted_sortValues comparable)
  exact (List.mergeSort_perm _ _).subset

theorem countP_distinctValues (comparable : AllComparable (t.rows.map (·.cell field)))
    (h : t.distinctValues field = .ok values) {row : Row} (hrow : row ∈ t.rows) :
    values.countP (row.cell field).same = 1 := by
  have ascending := ascending_distinctValues comparable h
  have cells {v : Value} (hv : v ∈ values) : v ∈ t.rows.map (·.cell field) :=
    List.mem_map.2 (exists_row_of_mem_distinctValues h hv)
  have own : row.cell field ∈ t.rows.map (·.cell field) := List.mem_map_of_mem hrow
  refine countP_eq_one ?_ (ascending.imp_of_mem fun {v w} hv hw less same => ?_)
  · have present : (row.cell field).sortKey ∈ values.map sortKey := by
      obtain ⟨-, rfl⟩ := distinctValues_eq_ok h
      have sorted : AllComparable (sortValues (t.rows.map (·.cell field))) :=
        comparable.of_subset (List.mergeSort_perm _ _).subset
      rw [mem_map_dropRepeats sorted]
      exact List.mem_map_of_mem ((List.mergeSort_perm _ _).symm.subset own)
    obtain ⟨v, hv, equal⟩ := List.mem_map.1 present
    exact ⟨v, hv, (comparable.same_iff own (cells hv)).2 equal.symm⟩
  · have equal := (comparable.same_iff own (cells hv)).1 same
    rw [Bool.eq_false_iff, ne_eq, comparable.same_iff own (cells hw), equal]
    exact less.ne

end Table

end GridSql
