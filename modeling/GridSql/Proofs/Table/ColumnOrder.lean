import GridSql.Proofs.Table.ColumnValues
import GridSql.Proofs.Table.Loaded
import GridSql.Proofs.Value.Swap

/-!
# Loaded columns are well ordered

The cells that a data file gives to a column of a declared type are nulls and values of one
kind, so any two of them can be compared and none of them is a double. Their comparison is
that of keys in a linear order, and the values of the column ascend by it.
-/

namespace GridSql

namespace Value

variable {values : List Value} {v w : Value}

/-- Comparing cells is a total preorder on a list of them. -/
structure WellOrdered (values : List Value) : Prop where
  defined : ∀ v ∈ values, ∀ w ∈ values, (v.order? w).isSome = true
  reversed : ∀ v ∈ values, ∀ w ∈ values, w.order? v = (v.order? w).map Ordering.swap
  transitive : ∀ u ∈ values, ∀ v ∈ values, ∀ w ∈ values,
    u.order? v ≠ some .gt → v.order? w ≠ some .gt → u.order? w ≠ some .gt

instance (values : List Value) : Decidable (WellOrdered values) :=
  decidable_of_iff
    ((∀ v ∈ values, ∀ w ∈ values, (v.order? w).isSome = true) ∧
      (∀ v ∈ values, ∀ w ∈ values, w.order? v = (v.order? w).map Ordering.swap) ∧
        ∀ u ∈ values, ∀ v ∈ values, ∀ w ∈ values,
          u.order? v ≠ some .gt → v.order? w ≠ some .gt → u.order? w ≠ some .gt)
    ⟨fun ⟨defined, reversed, transitive⟩ => ⟨defined, reversed, transitive⟩,
      fun h => ⟨h.defined, h.reversed, h.transitive⟩⟩

theorem AllComparable.order?_ne_gt_iff (h : AllComparable values) (hv : v ∈ values)
    (hw : w ∈ values) :
    v.order? w ≠ some .gt ↔ v.sortKey ≤ w.sortKey := by
  rw [h.order?_eq hv hw, ne_eq, Option.some.injEq]
  exact compare_le_iff_le

theorem AllComparable.order?_eq_lt_iff (h : AllComparable values) (hv : v ∈ values)
    (hw : w ∈ values) :
    v.order? w = some .lt ↔ v.sortKey < w.sortKey := by
  rw [h.order?_eq hv hw, Option.some.injEq, compare_lt_iff_lt]

theorem AllComparable.wellOrdered (h : AllComparable values) :
    WellOrdered values where
  defined := h.ordered
  reversed := fun v _ w _ => order?_swap v w
  transitive := by
    intro u hu v hv w hw huv hvw
    rw [h.order?_ne_gt_iff hu hv] at huv
    rw [h.order?_ne_gt_iff hv hw] at hvw
    rw [h.order?_ne_gt_iff hu hw]
    exact huv.trans hvw

/-! ## Cells of one declared type -/

def kindOf : ScalarType → Nat
  | .boolean => 1
  | .integer | .decimal => 2
  | .text => 3
  | .date | .timestamp => 4
  | .other => 0

theorem HasType.exists_kind {type : ScalarType} (h : v.HasType type) (known : type ≠ .other) :
    ∃ c, v.content? = some c ∧ (c = .null ∨ c.kind = kindOf type) := by
  cases h
  case null => exact ⟨_, rfl, .inl rfl⟩
  case any => exact absurd rfl known
  all_goals exact ⟨_, rfl, .inr rfl⟩

theorem allComparable_of_hasType {type : ScalarType} (known : type ≠ .other)
    (h : ∀ v ∈ values, v.HasType type) :
    AllComparable values where
  noDoubles := by
    rintro v hv x rfl
    obtain ⟨c, hc, -⟩ := (h _ hv).exists_kind known
    cases hc
  ordered := by
    intro v hv w hw
    obtain ⟨a, ha, hkind⟩ := (h v hv).exists_kind known
    obtain ⟨b, hb, hkind'⟩ := (h w hw).exists_kind known
    rw [order?_isSome_iff ha hb]
    rcases hkind with rfl | hkind
    · exact .inl rfl
    · rcases hkind' with rfl | hkind'
      · exact .inr (.inl rfl)
      · exact .inr (.inr (hkind.trans hkind'.symm))

end Value

namespace Table

open Value

variable {t : Table} {field : String} {type : ScalarType} {values : List Value}

theorem WellTyped.allComparable (h : t.WellTyped) (declared : t.typeOf? field = some type)
    (known : type ≠ .other) :
    AllComparable (t.rows.map (·.cell field)) := by
  refine allComparable_of_hasType known fun v hv => ?_
  obtain ⟨row, hrow, rfl⟩ := List.mem_map.1 hv
  exact h row hrow field type declared

/-- Values that ascend strictly and are the cells of a column, each cell up to being equal. -/
structure ListsColumn (t : Table) (field : String) (values : List Value) : Prop where
  ascending : values.Pairwise fun v w => v.order? w = some .lt
  nullOnlyFirst : ∀ v ∈ values.tail, v ≠ .null
  complete : ∀ row ∈ t.rows, ∃ v ∈ values, v.order? (row.cell field) = some .eq
  sound : ∀ v ∈ values, ∃ row ∈ t.rows, row.cell field = v

theorem ne_null_of_ascending (ascending : values.Pairwise fun v w => v.order? w = some .lt) :
    ∀ v ∈ values.tail, v ≠ .null := by
  cases values with
  | nil => simp
  | cons first rest =>
      rintro _ hv rfl
      have less := (List.pairwise_cons.1 ascending).1 _ hv
      cases first <;> cases less

theorem listsColumn_distinctValues (comparable : AllComparable (t.rows.map (·.cell field)))
    (h : t.distinctValues field = .ok values) :
    t.ListsColumn field values := by
  have cell {v : Value} (hv : v ∈ values) : v ∈ t.rows.map (·.cell field) :=
    List.mem_map.2 (exists_row_of_mem_distinctValues h hv)
  have ascending : values.Pairwise fun v w => v.order? w = some .lt := by
    refine (ascending_distinctValues comparable h).imp_of_mem fun hv hw less => ?_
    exact (comparable.order?_eq_lt_iff (cell hv) (cell hw)).2 less
  refine ⟨ascending, ne_null_of_ascending ascending, fun row hrow => ?_, fun v hv => ?_⟩
  · obtain ⟨v, hv, same⟩ : ∃ v ∈ values, (row.cell field).same v = true := by
      rw [← List.countP_pos_iff, countP_distinctValues comparable h hrow]
      exact Nat.one_pos
    rw [← same_comm] at same
    exact ⟨v, hv, beq_iff_eq.1 same⟩
  · exact exists_row_of_mem_distinctValues h hv

/--
The cells of a column that a data file declares with a type are well ordered, and the values
of the column are its different cells in strictly ascending order.
-/
theorem wellOrdered_columns_ofText {file : String} (loaded : Table.ofText file = .ok t)
    (declared : t.typeOf? field = some type) (known : type ≠ .other) :
    WellOrdered (t.rows.map (·.cell field)) ∧
      ∃ values, t.distinctValues field = .ok values ∧ t.ListsColumn field values := by
  have comparable := (wellTyped_ofText loaded).allComparable declared known
  refine ⟨comparable.wellOrdered, dropRepeats (sortValues (t.rows.map (·.cell field))), ?_⟩
  have listed : t.distinctValues field =
      .ok (dropRepeats (sortValues (t.rows.map (·.cell field)))) := by
    rw [distinctValues, declared]
    rfl
  exact ⟨listed, listsColumn_distinctValues comparable listed⟩

set_option maxRecDepth 20000 in
/-- A text that stands in two rows, and a cell that is missing. -/
theorem wellOrdered_columns_ofText_shifts :
    let t : Table :=
      ⟨"jobs", [⟨"shift", .text⟩], [[("shift", .text "day")], [("shift", .null)],
        [("shift", .text "day")]]⟩
    WellOrdered (t.rows.map (·.cell "shift")) ∧
      ∃ values, t.distinctValues "shift" = .ok values ∧ t.ListsColumn "shift" values := by
  intro t
  have loaded : Table.ofText "\x7b\"table\":\"jobs\",
      \"columns\":[\x7b\"name\":\"shift\",\"type\":\"text\"\x7d],
      \"rows\":[\x7b\"shift\":\"day\"\x7d,\x7b\x7d,\x7b\"shift\":\"day\"\x7d]\x7d" =
        .ok t := by
    cbv
  exact wellOrdered_columns_ofText loaded rfl (by decide)

end Table

end GridSql
