import GridSql.Proofs.Grid.Levels

/-!
# Expanding groups

A group row is expanded by a request for one more level, whose last key is what the row
shows. It comes back as JSON, so it has to be read as what the cells of the group hold:
then the rows that were counted in the group are selected, and no others.
-/

namespace GridSql

namespace Grid

variable {g : Grid} {r : Request} {c : ColumnRef}

/-! ## Rows of a group -/

theorem groupFields_eq (hc : r.rowGroupCols[r.groupKeys.length]? = some c) :
    r.groupFields = (r.rowGroupCols.take r.groupKeys.length).map (·.field) ++ [c.field] := by
  unfold Request.groupFields Request.activeGroupCols
  rw [List.take_add_one, hc]
  simp

theorem field_mem_groupFields (hc : r.rowGroupCols[r.groupKeys.length]? = some c) :
    c.field ∈ r.groupFields := by
  rw [groupFields_eq hc]
  simp

/-- The columns above the requested level are expanded. -/
theorem exists_keyedGroup {d : ColumnRef}
    (hd : d ∈ r.rowGroupCols.take r.groupKeys.length) :
    ∃ group ∈ r.keyedGroups, group.1.1 = d := by
  obtain ⟨i, hi⟩ := List.mem_iff_getElem?.1 hd
  rw [List.getElem?_take] at hi
  split at hi
  · next hlt =>
      have hkey : r.groupKeys[i]? = some r.groupKeys[i] := List.getElem?_eq_getElem hlt
      refine ⟨((d, r.groupKeys[i]), i), List.mk_mem_zipIdx_iff_getElem?.2 ?_, rfl⟩
      exact List.getElem?_zip_eq_some.2 ⟨hi, hkey⟩
  · cases hi

/-- Rows that hold the same above the level are in one group if they agree in its column. -/
theorem contents_groupFields_iff (hc : r.rowGroupCols[r.groupKeys.length]? = some c) {a b : Row}
    (above : ∀ d ∈ r.rowGroupCols.take r.groupKeys.length,
      (a.cell d.field).content? = (b.cell d.field).content?) :
    Table.contents (Table.cells r.groupFields a) = Table.contents (Table.cells r.groupFields b) ↔
      (a.cell c.field).content? = (b.cell c.field).content? := by
  have front : (r.rowGroupCols.take r.groupKeys.length).map (fun d => (a.cell d.field).content?) =
      (r.rowGroupCols.take r.groupKeys.length).map fun d => (b.cell d.field).content? :=
    List.map_congr_left above
  rw [groupFields_eq hc]
  generalize r.rowGroupCols.take r.groupKeys.length = expanded at front
  simp [Table.contents, Table.cells, Function.comp_def, front]

/-- Selected rows are in one group if they agree in the column of the level. -/
theorem sameGroup_iff (direct : g.Direct r)
    (hc : r.rowGroupCols[r.groupKeys.length]? = some c) {kept : List Row}
    (h : g.selected r = .ok kept) {a b : Row} (ha : a ∈ kept) (hb : b ∈ kept) :
    Table.contents (Table.cells r.groupFields a) = Table.contents (Table.cells r.groupFields b) ↔
      (a.cell c.field).content? = (b.cell c.field).content? := by
  -- Above the level every selected row holds the keys of the request.
  refine contents_groupFields_iff hc fun d hd => ?_
  obtain ⟨group, hgroup, rfl⟩ := exists_keyedGroup hd
  rw [(content_of_selected direct h ha).2 group hgroup,
    (content_of_selected direct h hb).2 group hgroup]

theorem members_eq_filter (direct : g.Direct r)
    (hc : r.rowGroupCols[r.groupKeys.length]? = some c) {kept : List Row}
    (h : g.selected r = .ok kept) {groups : List Table.Group}
    (grouped : Table.Grouped (Table.cells r.groupFields) kept groups) {group : Table.Group}
    (hgroup : group ∈ groups) :
    ∃ first ∈ kept, (Scope.group group.rows).cell c.field = first.cell c.field ∧
      group.rows = kept.filter fun row =>
        (row.cell c.field).content? = (first.cell c.field).content? := by
  obtain ⟨first, rest, hrows, hfirst, hkey⟩ := grouped.first group hgroup
  refine ⟨first, hfirst, by rw [hrows]; rfl, ?_⟩
  rw [grouped.complete group hgroup, hkey]
  refine List.filter_congr fun row hrow => ?_
  rw [decide_eq_decide]
  exact sameGroup_iff direct hc h hrow hfirst

/--
Expanding a group selects its rows exactly if what its row shows is read as what its
cells hold.
-/
theorem selected_expand_group_iff (direct : g.Direct r)
    (hc : r.rowGroupCols[r.groupKeys.length]? = some c) {kept : List Row}
    (h : g.selected r = .ok kept) {groups : List Table.Group}
    (grouped : Table.Grouped (Table.cells r.groupFields) kept groups) {group : Table.Group}
    (hgroup : group ∈ groups) :
    g.selected (r.expand ((Scope.group group.rows).cell c.field).toJson) = .ok group.rows ↔
      ((Scope.group group.rows).cell c.field).ReadsBack (g.source.fieldType c.field) := by
  obtain ⟨first, hfirst, hcell, hrows⟩ :=
    members_eq_filter direct hc h grouped hgroup
  rw [hcell, selected_expand_iff direct hc h]
  constructor
  · rintro ⟨k, hk, hselected⟩
    -- The first row is selected itself, so the key is read as what it holds.
    have member : first ∈ group.rows := by
      rw [hrows]
      exact List.mem_filter.2 ⟨hfirst, by simp⟩
    rw [hselected] at member
    have held : (first.cell c.field).content? = some k := by
      simpa using (List.mem_filter.1 member).2
    exact hk.trans held.symm
  · intro readsBack
    have hrow := (content_of_selected direct h hfirst).1
    have hknown := direct.known c (List.mem_of_getElem? hc)
    have htype := direct.typed.hasType hrow hknown
    obtain ⟨k, hk⟩ := htype.exists_content hknown
    refine ⟨k, Eq.trans readsBack hk, ?_⟩
    rw [← hk]
    exact hrows

/-! ## Drilling down -/

/--
A level of counted groups without pivots and window, which all filters restrict. The
group columns have a known type, and every column that is shown has a name of its own.
-/
structure GroupLevel (g : Grid) (r : Request) (c : ColumnRef) : Prop where
  loaded : ∃ file, Table.ofText file = .ok g.source
  known : ∀ c ∈ r.rowGroupCols, g.source.fieldType c.field ≠ .other
  direct : g.settings.grid.suppressesGroupFilters = false
  hooks : g.HooksTruthful
  counted : g.settings.grid.countChildren = true
  flat : g.settings.grid.suppressDotNotation = true
  notPivoting : r.isPivoting = false
  whole : r.IsWhole
  /-- The column of the level. -/
  column : r.rowGroupCols[r.groupKeys.length]? = some c
  names : ∀ names, g.outputNames r = .ok names → names.Nodup

theorem GroupLevel.countedLevel (level : g.GroupLevel r c) : g.CountedLevel r where
  typed := by
    obtain ⟨file, loaded⟩ := level.loaded
    exact Table.wellTyped_ofText loaded
  known := level.known
  filtered := level.direct
  hooks := level.hooks
  notPivoting := level.notPivoting
  counted := level.counted
  flat := level.flat
  whole := level.whole

structure ShowsGroup (g : Grid) (c : ColumnRef) (members : List Row) (row : RowObject) :
    Prop where
  key : Json.lookup c.field row = some ((Scope.group members).cell c.field).toJson
  count : Json.lookup g.settings.grid.childCountName row = some (countJson members.length)

/-- What comes of expanding a group by the JSON form of its cell. -/
structure Expands (g : Grid) (r : Request) (c : ColumnRef) (members : List Row) (v : Value) :
    Prop where
  exact : v.IsExact → v.ReadsBack (g.source.fieldType c.field)
  selects : g.selected (r.expand v.toJson) = .ok members ↔
    v.ReadsBack (g.source.fieldType c.field)
  addsUp : v.ReadsBack (g.source.fieldType c.field) → ∀ inside,
    g.rows (r.expand v.toJson) = .ok inside → g.AddsUp (r.expand v.toJson) inside members.length
  answered : v.ReadsBack (g.source.fieldType c.field) → g.Answerable (r.expand v.toJson) →
    ∃ inside, g.rows (r.expand v.toJson) = .ok inside

/--
Every row of a level of groups shows one of the groups. Expanding it selects the rows of
the group exactly if its key is read back, and then the inside of the group adds up to
the number that the row shows.
-/
theorem expands_groups (level : g.GroupLevel r c) {block : RowBlock} (h : g.rows r = .ok block) :
    ∃ groups sorted, g.groups r = .ok groups ∧ sorted.Perm groups ∧
      List.Forall₂ (fun members row => g.ShowsGroup c members row ∧
        g.Expands r c members ((Scope.group members).cell c.field)) sorted block.rows := by
  have counted := level.countedLevel
  have direct := counted.toDirect
  have hc := level.column
  have grouping := Request.isGrouping_of_column hc
  have hknown := direct.known c (List.mem_of_getElem? hc)
  obtain ⟨kept, groups, values, sorted, hselected, grouped, hgroups, hvalues, perm, objects⟩ :=
    groupObjects_of_rows counted grouping h
  have distinct : (r.groupFields ++
      g.settings.grid.childCountName :: g.source.outputColumns values).Nodup :=
    level.names _ (outputNames_groups counted grouping hselected hvalues)
  have distinctValues := (List.nodup_append.1 distinct).2.1
  refine ⟨_, sorted, hgroups, perm, forall₂_imp_of_mem objects fun members hmembers row _ hrow => ?_⟩
  obtain ⟨vs, rfl⟩ := hrow
  obtain ⟨group, hgroup, rfl⟩ := List.mem_map.1 (perm.mem_iff.1 hmembers)
  have shown := field_mem_groupFields hc
  have selects := selected_expand_group_iff direct hc hselected grouped hgroup
  refine ⟨⟨lookup_groupObject_key distinct shown, lookup_groupObject_count distinctValues⟩,
    ?_, selects, ?_, ?_⟩
  · obtain ⟨first, hfirst, hcell, -⟩ := members_eq_filter direct hc hselected grouped hgroup
    have hrow := (content_of_selected direct hselected hfirst).1
    rw [hcell]
    exact Value.readsBack_of_isExact
      (direct.typed.hasType hrow hknown) hknown
  · intro readsBack inside hinside
    refine addsUp_of_rows (counted.expand _) (fun others hothers => ?_) hinside
      (selects.2 readsBack)
    have same : others = values := Except.ok.inj (hothers.symm.trans hvalues)
    rw [same]
    exact distinctValues
  · intro readsBack answerable
    obtain ⟨hsource, -⟩ := (rows_ok_iff direct.notPivoting level.whole).1 ⟨block, h, rfl⟩
    exact rows_isOk (counted.expand _) answerable hsource (selects.2 readsBack)

/-! ## Guests of an inn -/

def guests : Grid where
  source := ⟨"guests", [⟨"place", .text⟩], [[("place", .text "inn")], [("place", .null)]]⟩
  settings := { grid := { countChildren := true, suppressDotNotation := true } }
  table := { table := "guests" }
  isValid := by decide

def groupedBy (field : String) (sort : List SortItem) : Request where
  rowGroupCols := [{ field := field }]
  sortModel := sort

def countedPlan (field : String) : RequestPlan where
  select := [⟨.col field, none⟩, ⟨.countRows, some "childCount"⟩]
  groupBy := [.col field]
  rows := []
  having := []
  pivot := {}

theorem groupLevel_of_plan {field : String} {sort : List SortItem}
    (loaded : ∃ file, Table.ofText file = .ok g.source)
    (known : g.source.fieldType field ≠ .other)
    (direct : g.settings.grid.suppressesGroupFilters = false) (hooks : g.HooksTruthful)
    (counted : g.settings.grid.countChildren = true)
    (flat : g.settings.grid.suppressDotNotation = true) (other : field ≠ "childCount")
    (planned : g.plan (groupedBy field sort) = .ok (countedPlan field)) :
    g.GroupLevel (groupedBy field sort) { field := field } where
  loaded := loaded
  known := by
    intro c hc
    cases List.mem_singleton.1 hc
    exact known
  direct := direct
  hooks := hooks
  counted := counted
  flat := flat
  notPivoting := rfl
  whole := ⟨rfl, rfl⟩
  column := rfl
  names := by
    intro names h
    obtain ⟨p, hp, hnames⟩ := bind_ok_iff.1 h
    rw [planned, Except.ok.injEq] at hp
    cases hp
    cases hnames
    show [field, "childCount"].Nodup
    simp [other]

/-- The first row of a level that is planned so, from the cells of its groups. -/
theorem rows_of_plan {field : String} {sort : List SortItem}
    (flat : g.settings.grid.suppressDotNotation = true) (other : field ≠ "childCount")
    (planned : g.plan (groupedBy field sort) = .ok (countedPlan field)) {v : Value} {n : Nat}
    {rest : List (List Value)}
    (ran : g.source.run (g.assemble (groupedBy field sort) (countedPlan field)) =
      .ok ⟨[field, "childCount"], [v, .int (Int64.ofNat n)] :: rest⟩) :
    ∃ block row, g.rows (groupedBy field sort) = .ok block ∧ row ∈ block.rows ∧
      Json.lookup field row = some v.toJson ∧
      Json.lookup "childCount" row = some (countJson n) := by
  have distinct : [field, "childCount"].Nodup := by simp [other]
  have key : (field, v) ∈ [field, "childCount"].zip [v, .int (Int64.ofNat n)] :=
    List.mem_cons_self
  have count : ("childCount", .int (Int64.ofNat n)) ∈
      [field, "childCount"].zip [v, .int (Int64.ofNat n)] :=
    List.mem_cons_of_mem _ List.mem_cons_self
  refine ⟨_, _, bind_ok_iff.2 ⟨_, bind_ok_iff.2 ⟨_, planned, rfl⟩,
    bind_ok_iff.2 ⟨_, mapError_ok_iff.2 ran, rfl⟩⟩, List.mem_cons_self, ?_, ?_⟩
  · rw [flat]
    exact RowObject.lookup_ofCells [] distinct key
  · rw [flat]
    exact RowObject.lookup_ofCells [] distinct count

set_option maxRecDepth 20000 in
theorem groupLevel_guests {sort : List SortItem}
    (planned : guests.plan (groupedBy "place" sort) = .ok (countedPlan "place")) :
    guests.GroupLevel (groupedBy "place" sort) { field := "place" } := by
  have loaded : Table.ofText "\x7b\"table\":\"guests\",
      \"columns\":[\x7b\"name\":\"place\",\"type\":\"text\"\x7d],
      \"rows\":[\x7b\"place\":\"inn\"\x7d,\x7b\x7d]\x7d" = .ok guests.source := by
    cbv
  have hooks : guests.HooksTruthful := hooksTruthful_of_none rfl rfl (by simp [guests,
    ColumnRegistry.rulesFor, ColumnRegistry.get?])
  exact groupLevel_of_plan ⟨_, loaded⟩ (by decide) rfl hooks rfl rfl (by decide) planned

set_option maxRecDepth 20000 in
/-- The guests of an inn and the one without a place, each in a group. -/
theorem expands_groups_guests :
    guests.GroupLevel (groupedBy "place" []) { field := "place" } ∧
      ∃ block, guests.rows (groupedBy "place" []) = .ok block ∧ ∃ groups sorted,
        guests.groups (groupedBy "place" []) = .ok groups ∧ sorted.Perm groups ∧
          List.Forall₂ (fun members row => guests.ShowsGroup { field := "place" } members row ∧
            guests.Expands (groupedBy "place" []) { field := "place" } members
              ((Scope.group members).cell "place")) sorted block.rows := by
  have planned : guests.plan (groupedBy "place" []) = .ok (countedPlan "place") := by
    cbv
  have ran : guests.source.run (guests.assemble (groupedBy "place" []) (countedPlan "place")) =
      .ok ⟨["place", "childCount"],
        [[.text "inn", .int (Int64.ofNat 1)], [.null, .int (Int64.ofNat 1)]]⟩ := by
    cbv
  have level := groupLevel_guests planned
  obtain ⟨block, -, h, -⟩ := rows_of_plan rfl (by decide) planned ran
  exact ⟨level, block, h, expands_groups level h⟩

/-! ## Visits between two seconds -/

/-- Half a second behind ten twenty thirty. -/
def arrival : Timestamp :=
  ⟨⟨2024, 1, 15, by decide⟩, ⟨37230, 500000000, by decide, by decide⟩⟩

def visits : Grid where
  source := ⟨"visits", [⟨"at", .timestamp⟩], [[("at", .timestamp arrival)]]⟩
  settings := { grid := { countChildren := true, suppressDotNotation := true } }
  table := { table := "visits" }
  isValid := by decide

set_option maxRecDepth 20000 in
theorem loaded_visits :
    ∃ file, Table.ofText file = .ok visits.source := by
  let record : List (String × Json) := [("at", .string "2024-01-15T10:20:30.5")]
  let file : DataFile := ⟨"visits", [⟨"at", .timestamp⟩], [record]⟩
  let text : String := "\x7b\"table\":\"visits\",
    \"columns\":[\x7b\"name\":\"at\",\"type\":\"timestamp\"\x7d],
    \"rows\":[\x7b\"at\":\"2024-01-15T10:20:30.5\"\x7d]\x7d"
  have parsed : (Json.parseFast? text).bind DataFile.ofJson? = some file := by
    cbv
  have read : Literal.timestamp "2024-01-15T10:20:30.5" = .ok arrival := by rfl
  have cell : Value.ofCell .timestamp (.string "2024-01-15T10:20:30.5") =
      .ok (.timestamp arrival) := by
    simp [Value.ofCell, Json.isNull, Value.jsonText, read, Except.map]
  have row : Table.readRow file.columns 0 record = .ok [("at", .timestamp arrival)] := by
    simp [Table.readRow, file, record, Json.lookup, cell, bind, Except.bind, pure, Except.pure]
  refine ⟨text, ?_⟩
  rw [Table.ofText, parsed]
  simp [Table.ofFile, Table.readRows, file, row, visits, bind, Except.bind]

theorem groupLevel_visits
    (planned : visits.plan (groupedBy "at" []) = .ok (countedPlan "at")) :
    visits.GroupLevel (groupedBy "at" []) { field := "at" } := by
  have hooks : visits.HooksTruthful := hooksTruthful_of_none rfl rfl (by simp [visits,
    ColumnRegistry.rulesFor, ColumnRegistry.get?])
  exact groupLevel_of_plan loaded_visits (by decide) rfl hooks rfl rfl (by decide) planned

set_option maxRecDepth 20000 in
/-- A point in time comes back without its half second. -/
theorem not_readsBack_arrival : ¬ (Value.timestamp arrival).ReadsBack .timestamp := by
  decide

set_option maxRecDepth 20000 in
/-- The key comes back as another time, and no visit is at that time. -/
theorem selected_expand_visits (level : visits.GroupLevel (groupedBy "at" []) { field := "at" })
    {members : List Row}
    (h : visits.selected ((groupedBy "at" []).expand (Value.timestamp arrival).toJson) =
      .ok members) :
    members = [] := by
  have kept : visits.selected (groupedBy "at" []) = .ok visits.source.rows := by
    cbv
  obtain ⟨k, hk, rfl⟩ :=
    (selected_expand_iff level.countedLevel.toDirect level.column kept).1 h
  refine List.filter_eq_nil_iff.2 fun row hrow => ?_
  cases List.mem_singleton.1 hrow
  intro held
  have same : some (Content.moment arrival) = some k := of_decide_eq_true held
  exact not_readsBack_arrival (hk.trans same.symm)

set_option maxRecDepth 20000 in
/--
A group of visits may be lost when it is expanded, since fractions of a second are not
sent, and a leaf level that is sorted by an unknown column is refused.
-/
theorem not_expands_groups :
    (¬ ∀ (g : Grid) (r : Request) (c : ColumnRef) (block : RowBlock), g.GroupLevel r c →
      g.rows r = .ok block → ∀ row ∈ block.rows, ∀ key, Json.lookup c.field row = some key →
        ∃ members, g.selected (r.expand key) = .ok members ∧
          Json.lookup g.settings.grid.childCountName row = some (countJson members.length)) ∧
    ¬ ∀ (g : Grid) (r : Request) (c : ColumnRef) (block : RowBlock), g.GroupLevel r c →
      g.rows r = .ok block → ∀ row ∈ block.rows, ∀ key, Json.lookup c.field row = some key →
        (∃ members, g.selected (r.expand key) = .ok members) →
          ∃ inside, g.rows (r.expand key) = .ok inside := by
  constructor
  · intro selects
    have planned : visits.plan (groupedBy "at" []) = .ok (countedPlan "at") := by
      cbv
    have ran : visits.source.run (visits.assemble (groupedBy "at" []) (countedPlan "at")) =
        .ok ⟨["at", "childCount"], [[.timestamp arrival, .int (Int64.ofNat 1)]]⟩ := by
      cbv
    obtain ⟨block, row, h, hrow, key, count⟩ := rows_of_plan rfl (by decide) planned ran
    have level := groupLevel_visits planned
    obtain ⟨members, hmembers, hcount⟩ := selects visits _ _ block level h row hrow _ key
    rw [selected_expand_visits level hmembers] at hcount
    have counts : countJson 1 = countJson 0 := Option.some.inj (count.symm.trans hcount)
    cases counts
  · intro opens
    let byName : List SortItem := [⟨"name", .asc⟩]
    have planned : guests.plan (groupedBy "place" byName) = .ok (countedPlan "place") := by
      cbv
    have ran : guests.source.run (guests.assemble (groupedBy "place" byName)
        (countedPlan "place")) =
        .ok ⟨["place", "childCount"],
          [[.text "inn", .int (Int64.ofNat 1)], [.null, .int (Int64.ofNat 1)]]⟩ := by
      cbv
    obtain ⟨block, row, h, hrow, key, -⟩ := rows_of_plan rfl (by decide) planned ran
    have selected : guests.selected ((groupedBy "place" byName).expand (.string "inn")) =
        .ok [[("place", .text "inn")]] := by
      cbv
    -- Groups are not sorted by a column that they do not show, leaves are.
    have refused : guests.rows ((groupedBy "place" byName).expand (.string "inn")) =
        .error (.source (.unknownColumn "name")) := by
      cbv
    obtain ⟨inside, hinside⟩ := opens guests _ _ block (groupLevel_guests planned) h row hrow _
      key ⟨_, selected⟩
    cases refused.symm.trans hinside

end Grid

end GridSql
