import GridSql.Proofs.Grid.GroupRows
import GridSql.Proofs.Grid.Pivoted

/-!
# Names that a level of groups shows

A level of groups names its group columns and value columns by their fields and the child
count as the settings say. Nothing keeps a request from using a field twice, or one that has
the name of the child count: then a row object holds only the last of the values that are
selected under the name. Where all names are different, it holds every value.
-/

namespace GridSql

/-! ## The last value of a name -/

theorem Row.get?_append (name : String) (cells : Row) (cell : String × Value) :
    Row.get? name (cells ++ [cell]) = if cell.1 = name then some cell.2 else cells.get? name := by
  induction cells with
  | nil => simp [Row.get?]
  | cons first cells ih =>
      rw [List.cons_append, Row.get?, ih, Row.get?]
      by_cases own : cell.1 = name <;> simp [own]

theorem RowObject.lookup_ofCells_last (cells : List (String × Value)) (name : String) :
    Json.lookup name (ofCells false cells) = (Row.get? name cells).map Value.toJson := by
  induction cells using List.reverseRecOn with
  | nil => rfl
  | append_singleton cells cell ih =>
      have tidy : Tidy (ofCells false cells) := tidy_nil.foldl_addCell cells
      have added : ofCells false (cells ++ [cell]) =
          Json.insert cell.1 cell.2.toJson (ofCells false cells) := by
        rw [ofCells_eq, List.foldl_append]
        rfl
      rw [added, Row.get?_append]
      by_cases own : cell.1 = name
      · rw [if_pos own, ← own, Json.lookup_insert_self tidy.sorted]
        rfl
      · rw [if_neg own, Json.lookup_insert_of_ne own, ih]

/-! ## Objects of selected values -/

/-- Whether an object holds every value of a select list under its name. -/
def HoldsEvery (items : List SelectItem) (values : List Value) (object : RowObject) : Prop :=
  List.Forall₂ (fun item v => Json.lookup item.outputName object = some v.toJson) items values

/-- Whether an object holds, under each name, the last value of a select list that has it. -/
def HoldsLast (items : List SelectItem) (values : List Value) (object : RowObject) : Prop :=
  values.length = items.length ∧ ∀ name, Json.lookup name object =
    (Row.get? name ((items.map (·.outputName)).zip values)).map Value.toJson

theorem holdsEvery_of_nodup {items : List SelectItem} {values : List Value}
    (names : (items.map (·.outputName)).Nodup) (length : values.length = items.length) :
    HoldsEvery items values (.ofCells false ((items.map (·.outputName)).zip values)) := by
  rw [HoldsEvery, List.forall₂_iff_zip]
  refine ⟨length.symm, fun {item v} h => ?_⟩
  have cell : (item.outputName, v) ∈ (items.map (·.outputName)).zip values := by
    rw [List.zip_map_left]
    exact List.mem_map.2 ⟨(item, v), h, rfl⟩
  exact RowObject.lookup_ofCells [] names cell

theorem HoldsEvery.unique {items : List SelectItem} {values : List Value} {object : RowObject}
    (h : HoldsEvery items values object) {name : String} {i j : Nat} {v w : Json}
    (hi : (items.map (·.outputName))[i]? = some name)
    (hj : (items.map (·.outputName))[j]? = some name)
    (hv : (values.map Value.toJson)[i]? = some v) (hw : (values.map Value.toJson)[j]? = some w) :
    v = w := by
  have shown {i : Nat} {v : Json} (hi : (items.map (·.outputName))[i]? = some name)
      (hv : (values.map Value.toJson)[i]? = some v) : Json.lookup name object = some v := by
    rw [List.getElem?_map, Option.map_eq_some_iff] at hi hv
    obtain ⟨item, hitem, rfl⟩ := hi
    obtain ⟨value, hvalue, rfl⟩ := hv
    obtain ⟨value', hvalue', hlookup⟩ := exists_getElem?_of_forall₂ h hitem
    rw [hvalue, Option.some.injEq] at hvalue'
    rw [hlookup, hvalue']
  exact Option.some.inj ((shown hi hv).symm.trans (shown hj hw))

namespace Table

variable {t : Table} {q : Query} {having_ : Option Expr} {kept : List Row} {result : ResultSet}

theorem objects_of_output (grouped : isGrouped q = true) (all : q.distinct = false)
    (plain : ∀ item ∈ q.select, item.expr.isStar = false)
    (h : t.output q having_ kept = .ok result) :
    (∀ values ∈ result.rows, values.length = q.select.length) ∧
      result.rowObjects false = result.rows.map fun values =>
        .ofCells false ((q.select.map (·.outputName)).zip values) := by
  obtain ⟨groups, -, hcolumns, shown⟩ := exists_group_of_output grouped all h
  rw [outputColumns_plain plain] at hcolumns
  refine ⟨fun values hvalues => ?_, by rw [ResultSet.rowObjects, hcolumns]⟩
  obtain ⟨members, -, hcells⟩ := shown values hvalues
  exact ((evalItems_plain_ok_iff plain).1 hcells).length_eq.symm

end Table

namespace Grid

variable {g : Grid} {r : Request} {p : RequestPlan} {q : Query} {pivot : PivotContext}

/-! ## The names of a level -/

theorem map_outputName_valueItems {aggregates : AggregateRegistry} {cols : List ColumnRef}
    {values : List SelectItem} (h : GroupingPlan.valueItems aggregates cols = .ok values) :
    values.map (·.outputName) = cols.map (·.field) := by
  refine map_eq_of_forall₂ ((mapM_ok_iff.1 h).imp fun c item hitem => ?_)
  obtain ⟨e, -, hitem⟩ := bind_ok_iff.1 hitem
  cases hitem
  rfl

theorem map_outputName_of_grouping (grouping : r.isGrouping = true)
    (notPivoting : r.isPivoting = false) (accepted : g.plan r = .ok p) :
    p.select.map (·.outputName) =
      r.groupFields ++ (g.childCountName? r).toList ++ r.valueCols.map (·.field) := by
  obtain ⟨values, hvalues, hselect⟩ := select_of_grouping grouping notPivoting accepted
  rw [hselect, List.map_append, List.map_append, map_outputName_valueItems hvalues,
    Table.map_outputName_cols]
  cases g.childCountName? r <;> rfl

theorem nodup_names_iff {fields values : List String} {name? : Option String} :
    (fields ++ name?.toList ++ values).Nodup ↔ fields.Nodup ∧ values.Nodup ∧
      (∀ f ∈ fields, f ∉ values) ∧ ∀ name ∈ name?, name ∉ fields ∧ name ∉ values := by
  have disjoint (a b : List String) : a.Disjoint b ↔ ∀ f ∈ a, f ∉ b := Iff.rfl
  simp only [List.nodup_append', disjoint, List.mem_append]
  cases name? with
  | none => simp
  | some name =>
      simp only [Option.toList_some, List.nodup_singleton, List.mem_singleton, Option.mem_def,
        Option.some.injEq, forall_eq']
      grind

/--
The names of a level of groups are those of its columns, and each is there once only if no
column is used twice or has the name of the child count. Then every selected value is in the
object of its row, and otherwise the last one of every name is.
-/
theorem outputNames_of_query (accepted : g.query r = .ok (q, pivot))
    (grouping : r.isGrouping = true) (notPivoting : r.isPivoting = false) :
    q.select.map (·.outputName) =
        r.groupFields ++ (g.childCountName? r).toList ++ r.valueCols.map (·.field) ∧
      ((q.select.map (·.outputName)).Nodup ↔
        r.groupFields.Nodup ∧ (r.valueCols.map (·.field)).Nodup ∧
          (∀ f ∈ r.groupFields, f ∉ r.valueCols.map (·.field)) ∧
          ∀ name ∈ g.childCountName? r,
            name ∉ r.groupFields ∧ name ∉ r.valueCols.map (·.field)) ∧
      ∀ result, g.source.run q = .ok result →
        (∀ item ∈ q.select, item.expr.isStar = false) →
          List.Forall₂ (HoldsLast q.select) result.rows (result.rowObjects false) ∧
            ((q.select.map (·.outputName)).Nodup →
              List.Forall₂ (HoldsEvery q.select) result.rows (result.rowObjects false)) := by
  obtain ⟨p, hp, hquery⟩ := bind_ok_iff.1 accepted
  cases hquery
  have names := map_outputName_of_grouping grouping notPivoting hp
  rw [assemble_eq_window]
  refine ⟨names, ?_, fun result answered plain => ?_⟩
  · rw [show ({ g.wholeQuery r p with window := r.window? } : Query).select = p.select from rfl,
      names]
    exact nodup_names_iff
  · obtain ⟨-, kept, having_, -, -, houtput⟩ := Table.runWithin_ok_iff.1 answered
    have nonempty := Request.groupFields_ne_nil grouping
    have grouped : Table.isGrouped { g.wholeQuery r p with window := r.window? } = true := by
      simp [Table.isGrouped, wholeQuery, levelQuery, groupBy_of_grouping grouping hp, nonempty]
    obtain ⟨lengths, objects⟩ := Table.objects_of_output grouped rfl plain houtput
    rw [objects, List.forall₂_map_right_iff, List.forall₂_map_right_iff, List.forall₂_same,
      List.forall₂_same]
    refine ⟨fun values hvalues => ⟨lengths values hvalues, ?_⟩, fun nodup values hvalues => ?_⟩
    · exact RowObject.lookup_ofCells_last _
    · exact holdsEvery_of_nodup nodup (lengths values hvalues)

/-! ## Amounts by country -/

def amountsBy (functions : List String) : Request where
  rowGroupCols := [{ field := "country" }]
  valueCols := functions.map fun f => { field := "amount", aggFunc := some f }

/-- The names and the texts of the cells that are shown for a request. -/
theorem run_amountsBySum :
    ∃ answer, salesByYear.query (amountsBy ["sum"]) = .ok answer ∧
      (answer.1.select.map (·.outputName), answer.1.select.all (!·.expr.isStar),
        (salesByYear.source.run answer.1).toOption.map (·.rows.length)) =
          (["country", "childCount", "amount"], true, some 1) :=
  exists_of_toOption_map (by decide +kernel)

/-- The sum alone is shown beside the country and the number of its sales. -/
theorem outputNames_of_query_amountsBySum :
    ∃ q pivot result, salesByYear.query (amountsBy ["sum"]) = .ok (q, pivot) ∧
      (amountsBy ["sum"]).isGrouping = true ∧ (amountsBy ["sum"]).isPivoting = false ∧
      salesByYear.source.run q = .ok result ∧ result.rows.length = 1 ∧
      (∀ item ∈ q.select, item.expr.isStar = false) ∧ (q.select.map (·.outputName)).Nodup ∧
      List.Forall₂ (HoldsEvery q.select) result.rows (result.rowObjects false) := by
  obtain ⟨⟨q, pivot⟩, accepted, shown⟩ := run_amountsBySum
  obtain ⟨names, shown⟩ := Prod.mk.inj shown
  obtain ⟨plain, length⟩ := Prod.mk.inj shown
  obtain ⟨result, answered, length⟩ := exists_of_toOption_map length
  have plain : ∀ item ∈ q.select, item.expr.isStar = false := by simpa using plain
  have nodup : (q.select.map (·.outputName)).Nodup := by
    rw [names]
    decide
  obtain ⟨-, -, objects⟩ := outputNames_of_query accepted rfl rfl
  exact ⟨q, pivot, result, accepted, rfl, rfl, answered, length, plain, nodup,
    (objects result answered plain).2 nodup⟩

/-- The greatest amount is shown instead of the sum, for both are named by their field. -/
theorem not_holdsEvery_amountsBy :
    ∃ q pivot result, salesByYear.query (amountsBy ["sum", "max"]) = .ok (q, pivot) ∧
      (amountsBy ["sum", "max"]).isGrouping = true ∧
      (amountsBy ["sum", "max"]).isPivoting = false ∧ salesByYear.source.run q = .ok result ∧
      ¬ (q.select.map (·.outputName)).Nodup ∧
      ¬ List.Forall₂ (HoldsEvery q.select) result.rows (result.rowObjects false) := by
  obtain ⟨⟨q, pivot⟩, accepted, shown⟩ : ∃ answer,
      salesByYear.query (amountsBy ["sum", "max"]) = .ok answer ∧
        (answer.1.select.map (·.outputName), (salesByYear.source.run answer.1).toOption.map
          fun result => result.rows.map fun values =>
            (values.map Value.toJson).map Json.compact) =
              (["country", "childCount", "amount", "amount"],
                some [["\"US\"", "3", "35", "20"]]) :=
    exists_of_toOption_map (by decide +kernel)
  obtain ⟨names, shown⟩ := Prod.mk.inj shown
  obtain ⟨result, answered, cells⟩ := exists_of_toOption_map shown
  refine ⟨q, pivot, result, accepted, rfl, rfl, answered, ?_, fun every => ?_⟩
  · rw [names]
    decide
  · obtain ⟨values, hrows, cells⟩ := List.map_eq_singleton_iff.1 cells
    obtain ⟨object, -, hobject⟩ :=
      exists_of_mem_left every (by rw [hrows]; exact List.mem_singleton_self values)
    have text {i : Nat} {s : String} (h : ["\"US\"", "3", "35", "20"][i]? = some s) :
        ∃ v, (values.map Value.toJson)[i]? = some v ∧ v.compact = s := by
      rwa [← cells, List.getElem?_map, Option.map_eq_some_iff] at h
    obtain ⟨sum, hsum, sumText⟩ := text (i := 2) rfl
    obtain ⟨max, hmax, maxText⟩ := text (i := 3) rfl
    have same := hobject.unique (by rw [names]; rfl) (by rw [names]; rfl) hsum hmax
    rw [same, maxText] at sumText
    exact absurd sumText (by decide)

end Grid

end GridSql
