import GridSql.Proofs.Filter.ExactSets
import GridSql.Proofs.Grid.DrillDown
import GridSql.Proofs.Table.ColumnValues

/-!
# Values that a set filter offers

The values of a column are offered as JSON and come back as the members of a set filter.
A value that is read back selects the rows that have the same cell, and all values together
select every row. The others are lost: decimals that are no 64-bit integers, fractions of
a second, and in a column of any kind everything that is neither a text nor null.
-/

namespace GridSql

open Recognizers (literalText)

/-- The request for the rows whose cell in a column is among the members of a set. -/
def Request.selecting (field : String) (members : List Json) : Request where
  filterModel := some (.object
    [(field, .object [("filterType", .string "set"), ("values", .array members)])])

namespace Value

variable {cell v : Value} {type : ScalarType}

theorem ReadsBack.exists_content (back : v.ReadsBack type) (htype : v.HasType type) :
    ∃ k, keyContent? type v.toJson = some k ∧ v.content? = some k := by
  by_cases known : type = .other
  · subst known
    rcases readsBack_other_iff.1 back with rfl | ⟨s, rfl⟩
    · exact ⟨.null, rfl, rfl⟩
    · exact ⟨.text s, back, rfl⟩
  · obtain ⟨k, hk⟩ := htype.exists_content known
    exact ⟨k, back.trans hk, hk⟩

/-- The contents of a column decide which cells are the same as a value that is read back. -/
theorem ReadsBack.content?_of_same (back : v.ReadsBack type) (htype : v.HasType type)
    (hcell : cell.HasType type) (same_ : v.same cell = true ∨ cell.same v = true) :
    cell.content? = v.content? := by
  by_cases known : type = .other
  · subst known
    obtain ⟨k, hk, hv⟩ := back.exists_content htype
    have notNumber : ∀ q, k ≠ .number q := by
      rintro q rfl
      rcases readsBack_other_iff.1 back with rfl | ⟨s, rfl⟩ <;> cases hv
    rcases same_ with same_ | same_
    · exact (Value.content?_of_same same_ notNumber (.inl hv)).2.trans hv.symm
    · exact (Value.content?_of_same same_ notNumber (.inr hv)).1.trans hv.symm
  · obtain ⟨a, ha⟩ := hcell.exists_content known
    obtain ⟨b, hb⟩ := htype.exists_content known
    rcases same_ with same_ | same_
    · rw [ha, hb, (same_iff hb ha).1 same_]
    · rw [ha, hb, (same_iff ha hb).1 same_]

theorem ReadsBack.same_iff (back : v.ReadsBack type) (htype : v.HasType type)
    (hcell : cell.HasType type) :
    cell.same v = true ↔ cell.content? = v.content? := by
  refine ⟨fun same_ => back.content?_of_same htype hcell (.inr same_), fun held => ?_⟩
  obtain ⟨k, -, hv⟩ := back.exists_content htype
  exact (Value.same_iff (held.trans hv) hv).2 rfl

theorem readsBack_of_same (htype : v.HasType type) (same_ : cell.same v = true)
    {k : Content} (hk : keyContent? type v.toJson = some k) (held : cell.content? = some k) :
    v.ReadsBack type := by
  by_cases known : type = .other
  · subst known
    have notNumber : ∀ q, k ≠ .number q := by
      rintro q rfl
      cases hnull : v.toJson.isNull with
      | true =>
          rw [keyContent?, if_pos hnull] at hk
          cases hk
      | false =>
          rw [keyContent?_other hnull] at hk
          cases hk
    exact hk.trans (content?_of_same same_ notNumber (.inl held)).2.symm
  · obtain ⟨a, ha⟩ := htype.exists_content known
    rw [ReadsBack, hk, ha, (Value.same_iff held ha).1 same_]

end Value

namespace Grid

variable {g : Grid} {field : String} {values : List Value} {members : List Json}

/--
A grid over the table of a data file that offers the values of a column, whose set filter
has default rules. The columns that the grid shows are in the table.
-/
structure OffersValues (g : Grid) (field : String) (values : List Value) : Prop where
  loaded : ∃ file, Table.ofText file = .ok g.source
  source : g.source.checkSource (some g.table) = .ok ()
  shown : ∀ f ∈ g.columns.fields, (g.source.typeOf? f).isSome = true
  exact : ((g.columns.rulesFor field).bind FilterRules.setForm?).getD FilterRules.defaultSet =
    FilterRules.defaultSet
  offered : g.filterValues field = .ok values

theorem filterValues_ok_iff :
    g.filterValues field = .ok values ↔ g.columns.knows field = true ∧
      g.columns.disablesFilter field = false ∧ g.source.distinctValues field = .ok values := by
  unfold filterValues
  cases g.columns.knows field <;> cases g.columns.disablesFilter field <;>
    simp [mapError_ok_iff]

theorem OffersValues.hasType (offers : g.OffersValues field values) {row : Row}
    (hrow : row ∈ g.source.rows) :
    (row.cell field).HasType (g.source.fieldType field) := by
  by_cases known : g.source.fieldType field = .other
  · rw [known]
    exact .any _
  · obtain ⟨file, loaded⟩ := offers.loaded
    exact (Table.wellTyped_ofText loaded).hasType hrow known

theorem OffersValues.hasType_value (offers : g.OffersValues field values) {v : Value}
    (hv : v ∈ values) :
    v.HasType (g.source.fieldType field) := by
  obtain ⟨-, -, distinct⟩ := filterValues_ok_iff.1 offers.offered
  obtain ⟨row, hrow, rfl⟩ := Table.exists_row_of_mem_distinctValues distinct hv
  exact offers.hasType hrow

/-! ## The filter of a set -/

def compiledSet (g : Grid) (field : String) (members : List Json) : Except QueryError Expr :=
  g.filterContext.compileColumn field (.set (members.map literalText))

theorem filterModel_selecting :
    g.filterModel (.selecting field members) =
      .ok (some (.columns [(field, .set (members.map literalText))])) := by
  have recognized : g.recognizers.columnFilter field
      [("filterType", .string "set"), ("values", .array members)] =
        .ok (.set (members.map literalText)) := by
    have family : Recognizers.ScalarFamily.ofName? "set" = none := by cbv
    rw [Recognizers.columnFilter, Recognizers.builtinColumn]
    simp [Payload.requiredString, Json.lookup, family, Recognizers.setValues, Payload.member,
      Recognizers.rescue, bind, Except.bind]
  simp [filterModel, Request.selecting, Request.hasFilterModel, Recognizers.recognize,
    Recognizers.isColumnKeyed, Recognizers.columnFilters, Json.asObject?, recognized,
    Violations.take, Violations.finish, bind, Except.bind, Except.map]

theorem validate_selecting (offers : g.OffersValues field values) :
    g.validate (.selecting field members) = .ok () := by
  obtain ⟨known, enabled, -⟩ := filterValues_ok_iff.1 offers.offered
  have use : g.filterUse (.selecting field members) field = [] := by
    simp [filterUse, namesPivotColumn, Request.selecting, Request.isPivoting, known, enabled]
  have uses : g.filterUses (.selecting field members) = [] := by
    simp only [filterUses, Request.selecting, Recognizers.isColumnKeyed, Json.asObject?,
      List.all_cons, List.all_nil, Option.isSome_some, Bool.and_self, if_true,
      List.flatMap_singleton]
    exact use
  rw [validate, violations, uses]
  rfl

theorem plan_selecting_iff (offers : g.OffersValues field values) {rows : List Expr} :
    (∃ p, g.plan (.selecting field members) = .ok p ∧ p.rows = rows) ↔
      ∃ e, g.compiledSet field members = .ok e ∧ rows = [e] := by
  have notNamed : g.namesPivotColumn (.selecting field members) field = false := by
    simp [namesPivotColumn, Request.selecting, Request.isPivoting]
  have free : g.freePredicates (.selecting field members) = [] := by
    cases hook : g.externalFilter <;> simp [freePredicates, Request.selecting, hook]
  constructor
  · rintro ⟨p, hp, rfl⟩
    obtain ⟨filters, _, hfilters, -, -, -, -, -, hrows⟩ := plan_ok hp
    obtain ⟨-, -, model, keys, hmodel, hkeys, restricts⟩ := levelFilters_ok hfilters
    rw [filterModel_selecting, Except.ok.injEq] at hmodel
    subst hmodel
    cases hkeys
    cases restricts with
    | suppressed level => cases level
    | aggregated level => cases level
    | columns level compiled =>
        rw [List.filter_cons_of_pos (by simp [notNamed]), List.filter_nil] at compiled
        obtain ⟨e, _, he, hnil, rfl⟩ := List.forall₂_cons_left_iff.1 compiled
        cases hnil
        exact ⟨e, he, by rw [hrows, free]; rfl⟩
  · rintro ⟨e, he, rfl⟩
    have level : g.levelFiltering (.selecting field members)
        (some (.columns [(field, .set (members.map literalText))])) = .direct := rfl
    have keys : groupKeyPredicates (.selecting field members) g.source.fieldType = .ok [] := rfl
    have filters : g.levelFilters (.selecting field members) = .ok { rows := [e] } := by
      rw [levelFilters_of_level level (validate_selecting offers) filterModel_selecting keys,
        directFilters, free]
      have compiled : g.filterContext.compileColumn field (.set (members.map literalText)) =
        .ok e := he
      simp [List.partition_eq_filter_filter, notNamed, Violations.takeAll, compiled,
        Violations.take, Violations.finish, bind, Except.bind]
    exact ⟨_, plan_of_not rfl filters rfl, rfl⟩

/-! ## The rows of a set -/

/-- The rows whose cell in a column holds what a member of a set is read as. -/
def rowsHolding (g : Grid) (field : String) (members : List Json) : List Row :=
  g.source.rows.filter fun row =>
    ∃ k ∈ setContents (g.source.fieldType field) members, (row.cell field).content? = some k

theorem compiledSet_eq (offers : g.OffersValues field values) :
    g.compiledSet field members =
      Predicate.set (g.filterContext.columnTarget field) (members.map literalText)
        FilterRules.defaultSet := by
  rw [← offers.exact]
  rfl

theorem compiledSet_isOk_iff (offers : g.OffersValues field values) :
    (∃ e, g.compiledSet field members = .ok e) ↔
      ∀ j ∈ members, ∃ k, keyContent? (g.source.fieldType field) j = some k := by
  rw [compiledSet_eq offers]
  exact Predicate.set_isOk_iff

theorem matched_compiledSet (offers : g.OffersValues field values) {e : Expr}
    (compiled : g.compiledSet field members = .ok e) :
    g.source.matched (Table.whereClause [e]) = .ok (g.rowsHolding field members) := by
  rw [compiledSet_eq offers] at compiled
  obtain ⟨-, -, distinct⟩ := filterValues_ok_iff.1 offers.offered
  have known := (Table.distinctValues_eq_ok distinct).1
  have noFormatter : ∀ f, FilterRules.defaultSet.formatter = some f →
      ∀ e, Expr.IsOwn e → (f e).IsOwn := by
    intro f hf
    cases hf
  have isOwn : e.IsOwn := Expr.filterClosed_isOwn.set (Expr.isOwn_col field) noFormatter compiled
  have all : g.source.matched (Table.whereClause ([] ++ [])) = .ok g.source.rows := rfl
  have alone : ∀ f, ([] : List Expr) ++ [] = [f] → g.source.Truthful f := by simp
  refine Table.matched_insert alone (isOwn.plain _ none) (fun row hrow => ?_) all
  exact Predicate.decides_exactSet (Table.eval_col known) (offers.hasType hrow) compiled

/-- A set selects the rows that hold a member of it, once all members can be read. -/
theorem selected_selecting_iff (offers : g.OffersValues field values) {kept : List Row} :
    g.selected (.selecting field members) = .ok kept ↔
      (∀ j ∈ members, ∃ k, keyContent? (g.source.fieldType field) j = some k) ∧
        kept = g.rowsHolding field members := by
  rw [selected_ok_iff, ← compiledSet_isOk_iff offers]
  constructor
  · rintro ⟨p, hp, hkept⟩
    obtain ⟨e, he, hrows⟩ := (plan_selecting_iff offers).1 ⟨p, hp, rfl⟩
    rw [hrows, matched_compiledSet offers he, Except.ok.injEq] at hkept
    exact ⟨⟨e, he⟩, hkept.symm⟩
  · rintro ⟨⟨e, he⟩, rfl⟩
    obtain ⟨p, hp, hrows⟩ := (plan_selecting_iff offers).2 ⟨e, he, rfl⟩
    exact ⟨p, hp, by rw [hrows, matched_compiledSet offers he]⟩

theorem rows_selecting_iff (offers : g.OffersValues field values) {objects : List RowObject} :
    (∃ block, g.rows (.selecting field members) = .ok block ∧ block.rows = objects) ↔
      (∀ j ∈ members, ∃ k, keyContent? (g.source.fieldType field) j = some k) ∧
        objects = (g.rowsHolding field members).map g.leafObject := by
  have leaf : (Request.selecting field members).isGrouping = false := rfl
  rw [rows_leaf_ok_iff rfl ⟨rfl, rfl⟩ leaf rfl offers.source offers.shown]
  simp only [selected_selecting_iff offers]
  constructor
  · rintro ⟨_, ⟨readable, rfl⟩, rfl⟩
    exact ⟨readable, rfl⟩
  · rintro ⟨readable, rfl⟩
    exact ⟨_, ⟨readable, rfl⟩, rfl⟩

theorem rowsHolding_of_readsBack (offers : g.OffersValues field values) {v : Value}
    (hv : v ∈ values) (back : v.ReadsBack (g.source.fieldType field)) :
    g.rowsHolding field [v.toJson] =
      g.source.rows.filter fun row => (row.cell field).same v := by
  obtain ⟨k, hk, held⟩ := back.exists_content (offers.hasType_value hv)
  refine List.filter_congr fun row hrow => ?_
  rw [Bool.eq_iff_iff, decide_eq_true_iff,
    back.same_iff (offers.hasType_value hv) (offers.hasType hrow), held]
  simp [mem_setContents_singleton, hk]

theorem not_same_of_mem_rowsHolding (offers : g.OffersValues field values) {v : Value}
    (hv : v ∈ values) (lost : ¬ v.ReadsBack (g.source.fieldType field)) {row : Row}
    (hrow : row ∈ g.rowsHolding field [v.toJson]) :
    (row.cell field).same v = false := by
  obtain ⟨-, holds⟩ := List.mem_filter.1 hrow
  obtain ⟨k, hk, held⟩ := of_decide_eq_true holds
  rw [mem_setContents_singleton] at hk
  rw [Bool.eq_false_iff]
  exact fun same_ => lost (Value.readsBack_of_same (offers.hasType_value hv) same_ hk held)

theorem rowsHolding_of_all (offers : g.OffersValues field values)
    (back : ∀ v ∈ values, v.ReadsBack (g.source.fieldType field)) :
    g.rowsHolding field (values.map Value.toJson) = g.source.rows := by
  refine List.filter_eq_self.2 fun row hrow => ?_
  obtain ⟨-, -, distinct⟩ := filterValues_ok_iff.1 offers.offered
  obtain ⟨v, hv, near⟩ := Table.exists_same_of_mem_rows distinct hrow
  have htype := offers.hasType_value hv
  obtain ⟨k, hk, held⟩ := (back v hv).exists_content htype
  refine decide_eq_true ⟨k, mem_setContents.2 ⟨_, List.mem_map_of_mem hv, hk⟩, ?_⟩
  rw [← held]
  rcases near with rfl | same_
  · rfl
  · exact (back v hv).content?_of_same htype (offers.hasType hrow) (.inl same_)

/-! ## Offered values -/

/--
What comes of selecting a value by its JSON form. If the form is read back, exactly the
rows with the same cell are shown, and otherwise none of them.
-/
structure SelectsValue (g : Grid) (field : String) (v : Value) : Prop where
  answered : (∃ block, g.rows (.selecting field [v.toJson]) = .ok block) ↔
    ∃ k, keyContent? (g.source.fieldType field) v.toJson = some k
  same : v.ReadsBack (g.source.fieldType field) →
    ∃ block, g.rows (.selecting field [v.toJson]) = .ok block ∧
      block.rows = (g.source.rows.filter fun row => (row.cell field).same v).map g.leafObject
  lost : ¬ v.ReadsBack (g.source.fieldType field) →
    ∀ block, g.rows (.selecting field [v.toJson]) = .ok block →
      ∃ kept : List Row, kept.Sublist g.source.rows ∧ block.rows = kept.map g.leafObject ∧
        ∀ row ∈ kept, (row.cell field).same v = false
  exact : g.source.fieldType field ≠ .other → v.IsExact →
    v.ReadsBack (g.source.fieldType field)
  other : g.source.fieldType field = .other →
    (v.ReadsBack (g.source.fieldType field) ↔ v = .null ∨ ∃ s, v = .text s)

/--
Every value that is offered selects its rows as far as it is read back, and if all of them
are, all values together select every row.
-/
theorem selectsValue_of_offers (offers : g.OffersValues field values) :
    (∀ v ∈ values, g.SelectsValue field v) ∧
      ((∀ v ∈ values, v.ReadsBack (g.source.fieldType field)) →
        ∃ block, g.rows (.selecting field (values.map Value.toJson)) = .ok block ∧
          block.rows = g.source.rows.map g.leafObject) := by
  refine ⟨fun v hv => ?_, fun back => ?_⟩
  · have htype := offers.hasType_value hv
    have single : (∀ j ∈ [v.toJson], ∃ k, keyContent? (g.source.fieldType field) j = some k) ↔
        ∃ k, keyContent? (g.source.fieldType field) v.toJson = some k := by
      simp
    constructor
    · rw [← single]
      constructor
      · rintro ⟨block, h⟩
        exact ((rows_selecting_iff offers).1 ⟨block, h, rfl⟩).1
      · intro readable
        obtain ⟨block, h, -⟩ := (rows_selecting_iff offers).2 ⟨readable, rfl⟩
        exact ⟨block, h⟩
    · intro back
      obtain ⟨k, hk, -⟩ := back.exists_content htype
      rw [← rowsHolding_of_readsBack offers hv back]
      exact (rows_selecting_iff offers).2 ⟨single.2 ⟨k, hk⟩, rfl⟩
    · intro lost block h
      obtain ⟨-, hrows⟩ := (rows_selecting_iff offers).1 ⟨block, h, rfl⟩
      exact ⟨_, List.filter_sublist, hrows, fun row => not_same_of_mem_rowsHolding offers hv lost⟩
    · exact Value.readsBack_of_isExact htype
    · intro other
      rw [other]
      exact Value.readsBack_other_iff
  · rw [← rowsHolding_of_all offers back]
    refine (rows_selecting_iff offers).2 ⟨fun j hj => ?_, rfl⟩
    obtain ⟨v, hv, rfl⟩ := List.mem_map.1 hj
    obtain ⟨k, hk, -⟩ := (back v hv).exists_content (offers.hasType_value hv)
    exact ⟨k, hk⟩

/-! ## A stay that is paid -/

/-- A grid over a column of any kind, with a truth value and a blank cell. -/
def stays : Grid where
  source := ⟨"stays", [⟨"paid", .other⟩], [[("paid", .bool true)], [("paid", .null)]]⟩
  table := { table := "stays" }
  isValid := Settings.fault?_default

set_option maxRecDepth 20000 in
theorem offersValues_stays : stays.OffersValues "paid" [.null, .bool true] where
  loaded := by
    refine ⟨"\x7b\"table\":\"stays\",\"columns\":[\x7b\"name\":\"paid\",\"type\":\"other\"\x7d],
      \"rows\":[\x7b\"paid\":true\x7d,\x7b\x7d]\x7d", ?_⟩
    cbv
  source := by cbv
  shown := by decide
  exact := rfl
  offered := by cbv

/-- The blank cell is read back, and the truth value is not. -/
theorem selectsValue_of_offers_stays :
    stays.OffersValues "paid" [.null, .bool true] ∧
      (∀ v ∈ [Value.null, .bool true], stays.SelectsValue "paid" v) ∧
      Value.null.ReadsBack .other ∧ ¬ (Value.bool true).ReadsBack .other := by
  refine ⟨offersValues_stays, (selectsValue_of_offers offersValues_stays).1, ?_, ?_⟩
  · decide +kernel
  · decide +kernel

set_option maxRecDepth 20000 in
theorem offersValues_visits : visits.OffersValues "at" [.timestamp arrival] where
  loaded := loaded_visits
  source := by cbv
  shown := by decide
  exact := rfl
  offered := by cbv

set_option maxRecDepth 20000 in
/--
The stay that is paid is not among those that hold the text, and the visit between two
seconds is not at the first of them.
-/
theorem not_selectsValue_of_offers :
    (¬ ∀ (g : Grid) (field : String) (values : List Value), g.OffersValues field values →
      ∀ v ∈ values, ∃ block, g.rows (.selecting field [v.toJson]) = .ok block ∧ block.rows =
        (g.source.rows.filter fun row => (row.cell field).same v).map g.leafObject) ∧
    ¬ ∀ (g : Grid) (field : String) (values : List Value), g.OffersValues field values →
      g.source.fieldType field ≠ .other →
      ∀ v ∈ values, ∃ block, g.rows (.selecting field [v.toJson]) = .ok block ∧ block.rows =
        (g.source.rows.filter fun row => (row.cell field).same v).map g.leafObject := by
  constructor
  · intro selects
    have found := selects stays "paid" _ offersValues_stays (.bool true) (by simp)
    have objects := ((rows_selecting_iff offersValues_stays).1 found).2
    have lost : stays.rowsHolding "paid" [(Value.bool true).toJson] = [] := by
      cbv
    rw [lost] at objects
    cases objects
  · intro selects
    have found := selects visits "at" _ offersValues_visits (by decide) (.timestamp arrival) (by simp)
    have objects := ((rows_selecting_iff offersValues_visits).1 found).2
    have lost : visits.rowsHolding "at" [(Value.timestamp arrival).toJson] = [] := by
      refine List.filter_eq_nil_iff.2 fun row hrow holds => ?_
      cases List.mem_singleton.1 hrow
      obtain ⟨k, hk, held⟩ := of_decide_eq_true holds
      have type : visits.source.fieldType "at" = .timestamp := by decide
      rw [mem_setContents_singleton, type] at hk
      exact not_readsBack_arrival (hk.trans held.symm)
    rw [lost] at objects
    cases objects

end Grid

end GridSql
