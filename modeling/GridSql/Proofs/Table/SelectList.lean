import GridSql.Proofs.Result
import GridSql.Proofs.Table.Truth
import GridSql.Table.Run

/-!
# Values of select lists

The items of a select list are evaluated one behind the other. Columns of the table
never fail, and neither do the number of the rows of a group, the number of values in
it and its least and greatest value; sums may overflow and stars stand for all columns.
-/

namespace GridSql

theorem Aggregate.ofName?_name (a : Aggregate) : Aggregate.ofName? a.name = some a := by
  cases a <;> decide +kernel

namespace Table

variable {t : Table} {s : Scope}

def evalItem (t : Table) (s : Scope) (item : SelectItem) : Except SourceError (List Value) :=
  if item.expr.isStar then t.evalAll s (t.columns.map fun c => .col c.name)
  else (t.eval s item.expr).map ([·])

theorem evalItems_cons_ok_iff {item : SelectItem} {items : List SelectItem}
    {values : List Value} :
    t.evalItems s (item :: items) = .ok values ↔
      ∃ vs ws, t.evalItem s item = .ok vs ∧ t.evalItems s items = .ok ws ∧ values = vs ++ ws := by
  have unfolded : t.evalItems s (item :: items) =
      (t.evalItem s item >>= fun vs => t.evalItems s items >>= fun ws => .ok (vs ++ ws)) := by
    rw [evalItems, evalItem]
    split <;> rfl
  simp only [unfolded, bind_ok_iff, Except.ok.injEq]
  constructor
  · rintro ⟨vs, hvs, ws, hws, rfl⟩
    exact ⟨vs, ws, hvs, hws, rfl⟩
  · rintro ⟨vs, ws, hvs, hws, rfl⟩
    exact ⟨vs, hvs, ws, hws, rfl⟩

theorem evalItems_append_ok_iff {items others : List SelectItem} {values : List Value} :
    t.evalItems s (items ++ others) = .ok values ↔
      ∃ vs ws, t.evalItems s items = .ok vs ∧ t.evalItems s others = .ok ws ∧
        values = vs ++ ws := by
  induction items generalizing values with
  | nil =>
      constructor
      · intro h
        exact ⟨[], values, rfl, h, rfl⟩
      · rintro ⟨_, ws, ⟨⟩, h, rfl⟩
        exact h
  | cons item items ih =>
      rw [List.cons_append, evalItems_cons_ok_iff]
      constructor
      · rintro ⟨first, _, hfirst, hrest, rfl⟩
        obtain ⟨vs, ws, hvs, hws, rfl⟩ := ih.1 hrest
        refine ⟨first ++ vs, ws, ?_, hws, (List.append_assoc ..).symm⟩
        exact evalItems_cons_ok_iff.2 ⟨first, vs, hfirst, hvs, rfl⟩
      · rintro ⟨_, ws, hitems, hws, rfl⟩
        obtain ⟨first, vs, hfirst, hvs, rfl⟩ := evalItems_cons_ok_iff.1 hitems
        exact ⟨first, vs ++ ws, hfirst, ih.2 ⟨vs, ws, hvs, hws, rfl⟩, List.append_assoc ..⟩

theorem evalItem_col {field : String} (known : (t.typeOf? field).isSome = true) :
    t.evalItem s ⟨.col field, none⟩ = .ok [s.cell field] := by
  have cell : t.eval s (.col field) = .ok (s.cell field) := eval_col known
  change (t.eval s (.col field)).map ([·]) = _
  rw [cell]
  rfl

theorem evalItems_cols {fields : List String}
    (known : ∀ f ∈ fields, (t.typeOf? f).isSome = true) :
    t.evalItems s (fields.map fun f => ⟨.col f, none⟩) = .ok (fields.map s.cell) := by
  induction fields with
  | nil => rfl
  | cons f fields ih =>
      obtain ⟨hf, hfields⟩ := List.forall_mem_cons.1 known
      exact evalItems_cons_ok_iff.2 ⟨_, _, evalItem_col hf, ih hfields, rfl⟩

theorem evalAll_cols {fields : List String}
    (known : ∀ f ∈ fields, (t.typeOf? f).isSome = true) :
    t.evalAll s (fields.map .col) = .ok (fields.map s.cell) := by
  induction fields with
  | nil => rfl
  | cons f fields ih =>
      obtain ⟨hf, hfields⟩ := List.forall_mem_cons.1 known
      simp [evalAll, eval_col hf, ih hfields, bind, Except.bind]

theorem known_of_evalAll {fields : List String} {vs : List Value}
    (h : t.evalAll s (fields.map .col) = .ok vs) :
    ∀ f ∈ fields, (t.typeOf? f).isSome = true := by
  induction fields generalizing vs with
  | nil => simp
  | cons f fields ih =>
      obtain ⟨v, hv, h⟩ := bind_ok_iff.1 h
      obtain ⟨others, hothers, -⟩ := bind_ok_iff.1 h
      refine List.forall_mem_cons.2 ⟨?_, ih hothers⟩
      rw [Expr.col, eval] at hv
      split at hv
      · assumption
      · cases hv

theorem evalItems_isOk {items : List SelectItem}
    (h : ∀ item ∈ items, ∃ values, t.evalItem s item = .ok values) :
    ∃ values, t.evalItems s items = .ok values := by
  induction items with
  | nil => exact ⟨[], rfl⟩
  | cons item items ih =>
      obtain ⟨⟨first, hfirst⟩, hitems⟩ := List.forall_mem_cons.1 h
      obtain ⟨rest, hrest⟩ := ih hitems
      exact ⟨first ++ rest, evalItems_cons_ok_iff.2 ⟨first, rest, hfirst, hrest, rfl⟩⟩

theorem evalAll_isOk {es : List Expr} (h : ∀ e ∈ es, ∃ v, t.eval s e = .ok v) :
    ∃ vs, t.evalAll s es = .ok vs := by
  induction es with
  | nil => exact ⟨[], rfl⟩
  | cons e es ih =>
      obtain ⟨⟨v, hv⟩, hes⟩ := List.forall_mem_cons.1 h
      obtain ⟨vs, hvs⟩ := ih hes
      exact ⟨v :: vs, bind_ok_iff.2 ⟨v, hv, bind_ok_iff.2 ⟨vs, hvs, rfl⟩⟩⟩

theorem eval_countRows (rows : List Row) :
    t.eval (.group rows) Expr.countRows = .ok (.int (Int64.ofNat rows.length)) := by
  have count : Aggregate.ofName? "COUNT" = some .count := Aggregate.ofName?_name .count
  simp [Expr.countRows, Expr.count, Expr.fn, eval, count, Expr.isStar]

def levelItems (fields : List String) (name : String) (values : List SelectItem) :
    List SelectItem :=
  fields.map (fun f => ⟨.col f, none⟩) ++ ⟨Expr.countRows, some name⟩ :: values

theorem evalItems_level_ok_iff {fields : List String}
    (known : ∀ f ∈ fields, (t.typeOf? f).isSome = true) {name : String}
    {values : List SelectItem} {rows : List Row} {vs : List Value} :
    t.evalItems (.group rows) (levelItems fields name values) = .ok vs ↔
      ∃ ws, t.evalItems (.group rows) values = .ok ws ∧
        vs = fields.map (Scope.group rows).cell ++ .int (Int64.ofNat rows.length) :: ws := by
  have counted : t.evalItem (.group rows) ⟨Expr.countRows, some name⟩ =
      .ok [.int (Int64.ofNat rows.length)] := by
    change (t.eval (.group rows) Expr.countRows).map ([·]) = _
    rw [eval_countRows]
    rfl
  unfold levelItems
  rw [evalItems_append_ok_iff]
  constructor
  · rintro ⟨cells, _, hcells, hrest, rfl⟩
    obtain ⟨count, ws, hcount, hws, rfl⟩ := evalItems_cons_ok_iff.1 hrest
    rw [evalItems_cols known, Except.ok.injEq] at hcells
    rw [counted, Except.ok.injEq] at hcount
    subst hcells hcount
    exact ⟨ws, hws, rfl⟩
  · rintro ⟨ws, hws, rfl⟩
    exact ⟨_, _, evalItems_cols known, evalItems_cons_ok_iff.2 ⟨_, ws, counted, hws, rfl⟩, rfl⟩

theorem evalItems_of_project {q : Query} {p : Projected} (h : t.project q s = .ok p) :
    t.evalItems s q.select = .ok p.values := by
  obtain ⟨values, hvalues, hkeys⟩ := bind_ok_iff.1 h
  obtain ⟨keys, -, hprojected⟩ := bind_ok_iff.1 hkeys
  cases hprojected
  exact hvalues

/-- The output of a group: its cells, the number of its rows, and further values. -/
theorem values_of_project {q : Query} {fields : List String}
    (known : ∀ f ∈ fields, (t.typeOf? f).isSome = true) {name : String}
    {values : List SelectItem} (hselect : q.select = levelItems fields name values)
    {rows : List Row} {p : Projected} (h : t.project q (.group rows) = .ok p) :
    ∃ ws, p.values =
      fields.map (Scope.group rows).cell ++ .int (Int64.ofNat rows.length) :: ws := by
  have hitems := evalItems_of_project h
  rw [hselect] at hitems
  obtain ⟨ws, -, heq⟩ := (evalItems_level_ok_iff known).1 hitems
  exact ⟨ws, heq⟩

theorem outputColumns_level (fields : List String) (name : String) (values : List SelectItem) :
    t.outputColumns (levelItems fields name values) =
      fields ++ name :: t.outputColumns values := by
  induction fields with
  | nil => rfl
  | cons f fields ih =>
      rw [List.cons_append, ← ih]
      rfl

/-! ## Items that cannot fail -/

theorem evalItem_isOk {item : SelectItem} (h : ∃ v, t.eval s item.expr = .ok v) :
    ∃ values, t.evalItem s item = .ok values := by
  obtain ⟨v, hv⟩ := h
  have notStar : item.expr.isStar = false := by
    cases hitem : item.expr with
    | star table =>
        rw [hitem, eval] at hv
        cases hv
    | _ => rfl
  refine ⟨[v], ?_⟩
  rw [evalItem, notStar, hv]
  rfl

theorem evalItem_star (t : Table) (s : Scope) :
    t.evalItem s ⟨.star none, none⟩ = .ok ((t.columns.map (·.name)).map s.cell) := by
  have present : ∀ f ∈ t.columns.map (·.name), (t.typeOf? f).isSome = true := by
    intro f hf
    obtain ⟨c, hc, rfl⟩ := List.mem_map.1 hf
    simp only [typeOf?, Option.isSome_map, List.find?_isSome, List.mem_reverse]
    exact ⟨c, hc, by simp⟩
  have all := evalAll_cols (s := s) present
  rw [List.map_map] at all
  exact all

/-- A column of rows is evaluated to their cells. No rows need no column. -/
theorem mapM_col {field : String} {rows : List Row}
    (known : rows ≠ [] → (t.typeOf? field).isSome = true) :
    rows.mapM (fun row => t.eval (.row row) (.col field)) = .ok (rows.map (·.cell field)) := by
  refine mapM_ok_iff.2 (List.forall₂_map_right_iff.2 (List.forall₂_same.2 fun row hrow => ?_))
  exact eval_col (known (List.ne_nil_of_mem hrow))

def totalFunctions : List String := ["COUNT", "MIN", "MAX"]

theorem eval_totalFunction {name : String} (total : name ∈ totalFunctions) {field : String}
    (known : (t.typeOf? field).isSome = true) (rows : List Row) :
    ∃ v, t.eval (.group rows) (.fn name [.col field]) = .ok v := by
  have aggregate : ∃ a : Aggregate, Aggregate.ofName? name = some a ∧
      ∀ values, ∃ v, a.apply values = .ok v := by
    rcases List.mem_cons.1 total with rfl | total
    · exact ⟨.count, Aggregate.ofName?_name .count, fun values => ⟨_, rfl⟩⟩
    · rcases List.mem_cons.1 total with rfl | total
      · exact ⟨.min, Aggregate.ofName?_name .min, fun values => ⟨_, rfl⟩⟩
      · cases List.mem_singleton.1 total
        exact ⟨.max, Aggregate.ofName?_name .max, fun values => ⟨_, rfl⟩⟩
  obtain ⟨a, ha, applies⟩ := aggregate
  obtain ⟨v, hv⟩ := applies ((rows.map fun row => row.cell field).filter fun v => !v.isNull)
  refine ⟨v, ?_⟩
  have notStar : (Expr.col field).isStar = false := rfl
  simp [Expr.fn, eval, ha, notStar, mapM_col fun _ => known, bind, Except.bind, hv, lift,
    Except.mapError]

theorem project_isOk {q : Query}
    (items : ∀ item ∈ q.select, ∃ values, t.evalItem s item = .ok values)
    (keys : ∀ key ∈ q.orderBy, ∃ v, t.eval s key.expr = .ok v) :
    ∃ p, t.project q s = .ok p := by
  obtain ⟨values, hvalues⟩ := evalItems_isOk items
  obtain ⟨sorted, hsorted⟩ := evalAll_isOk (List.forall_mem_map.2 keys)
  exact ⟨_, bind_ok_iff.2 ⟨values, hvalues, bind_ok_iff.2 ⟨sorted, hsorted, rfl⟩⟩⟩

end Table

end GridSql
