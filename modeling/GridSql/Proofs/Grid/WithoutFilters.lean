import GridSql.Proofs.Grid.FilterAccess
import GridSql.Proofs.Grid.Rejection

/-!
# Requests without some filters

A request without some members of its filter model is recognized and validated as before, and
has the same plan but for the conditions that these filters make.
-/

namespace GridSql

/-! ## Filter models without some of their members -/

def withoutMembers (names : List String) : Json → Json
  | .object members => .object (members.filter (·.1 ∉ names))
  | j => j

def Request.withoutFilters (r : Request) (names : List String) : Request :=
  { r with filterModel := r.filterModel.map (withoutMembers names) }

theorem Request.filterModel_of_members {r : Request} {members : Payload}
    (h : r.filterModel = some (.object members)) (names : List String) :
    (r.withoutFilters names).filterModel = some (.object (members.filter (·.1 ∉ names))) := by
  rw [withoutFilters, h]
  rfl

theorem Recognizers.isColumnKeyed_filter {payload : Payload} (h : isColumnKeyed payload = true)
    (keep : String × Json → Bool) :
    isColumnKeyed (payload.filter keep) = true := by
  unfold isColumnKeyed at h ⊢
  rw [List.all_eq_true] at h ⊢
  exact fun member hmember => h member (List.mem_of_mem_filter hmember)

theorem Recognizers.columnFilters_filter {rs : Recognizers} (keep : String → Bool)
    {vs : Violations} {payload : Payload} {entries : ColumnFilters}
    (h : rs.columnFilters vs payload = .ok (entries, [])) :
    vs = [] ∧ rs.columnFilters [] (payload.filter (keep ·.1)) =
      .ok (entries.filter (keep ·.1), []) := by
  induction payload generalizing vs entries with
  | nil =>
      cases h
      exact ⟨rfl, rfl⟩
  | cons member rest ih =>
      unfold Recognizers.columnFilters at h
      split at h
      · next heq => cases heq
      · next id payload rest' heq =>
          cases heq
          obtain ⟨⟨filter?, vs'⟩, htake, h⟩ := bind_ok_iff.1 h
          obtain ⟨⟨others, vs''⟩, hrest, h⟩ := bind_ok_iff.1 h
          cases h
          obtain ⟨rfl, hothers⟩ := ih hrest
          obtain ⟨hvs, f, hf, rfl⟩ :=
            Violations.take_ok (Recognizers.explained_columnFilter rs id payload) htake
          refine ⟨hvs, ?_⟩
          cases kept : keep id with
          | true =>
              simp [kept, Recognizers.columnFilters, hf, hothers,
                Violations.take, bind, Except.bind]
          | false => simp [kept, hothers]
      · next other heq =>
          cases heq
          obtain ⟨hvs, hothers⟩ := ih h
          refine ⟨hvs, ?_⟩
          rw [List.filter_cons]
          split
          · rw [Recognizers.columnFilters]
            · exact hothers
            · exact other
          · exact hothers

theorem Violations.takeAll_of_forall₂ {α β : Type} {step : α → Except QueryError β} {l : List α}
    {bs : List β} (h : List.Forall₂ (fun a b => step a = .ok b) l bs) :
    takeAll step [] l = .ok (bs, []) := by
  induction h with
  | nil => rfl
  | cons hb _ ih => simp [takeAll, take, hb, ih, bind, Except.bind]

namespace Grid

variable {g : Grid} {r : Request} {p : RequestPlan} {pivot : PivotContext}
  {entries : ColumnFilters} {names : List String}

/-! ## The same request without some filters -/

theorem filterModel_withoutFilters (names : List String)
    (recognized : g.filterModel r = .ok (some (.columns entries))) :
    ∃ model, g.filterModel (r.withoutFilters names) = .ok model ∧
      (model = some (.columns (entries.filter (·.1 ∉ names))) ∨
        model = none ∧ entries.filter (·.1 ∉ names) = []) := by
  obtain ⟨members, hmembers, keyed, hcolumns⟩ := exists_members_of_columns recognized
  obtain ⟨-, rest⟩ := Recognizers.columnFilters_filter (· ∉ names) hcolumns
  have own := Request.filterModel_of_members hmembers names
  have keyed' := Recognizers.isColumnKeyed_filter keyed (·.1 ∉ names)
  by_cases empty : members.filter (·.1 ∉ names) = []
  · rw [empty] at own rest
    refine ⟨none, ?_, .inr ⟨rfl, (congrArg Prod.fst (Except.ok.inj rest)).symm⟩⟩
    simp only [filterModel, Request.hasFilterModel, own]
    rfl
  · refine ⟨_, ?_, .inl rfl⟩
    have kept : (r.withoutFilters names).hasFilterModel = true := by
      simpa [Request.hasFilterModel, own] using empty
    simp only [filterModel, own, kept, if_true, Recognizers.recognize, keyed', rest, bind,
      Except.bind, Violations.finish]
    rfl

theorem validate_withoutFilters (names : List String)
    (recognized : g.filterModel r = .ok (some (.columns entries))) (h : g.validate r = .ok ()) :
    g.validate (r.withoutFilters names) = .ok () := by
  obtain ⟨known, valid⟩ := validate_ok_iff.1 h
  obtain ⟨members, hmembers, keyed, -⟩ := exists_members_of_columns recognized
  have filtered : g.filterUses (r.withoutFilters names) = [] := by
    have uses := (filterUses_of_violations valid).1
    simp only [filterUses, hmembers, keyed, if_true, List.flatMap_eq_nil_iff] at uses
    simp only [filterUses, Request.filterModel_of_members hmembers names,
      Recognizers.isColumnKeyed_filter keyed, if_true, List.flatMap_eq_nil_iff]
    exact fun member hmember => uses member (List.mem_of_mem_filter hmember)
  have valid' : g.violations (r.withoutFilters names) = [] := by
    simp only [violations, List.append_eq_nil_iff] at valid ⊢
    exact ⟨valid.1, filtered⟩
  exact validate_ok_iff.2 ⟨known, valid'⟩

theorem levelFilters_withoutFilters {filters : LevelFilters} (pivoting : r.isPivoting = true)
    (recognized : g.filterModel r = .ok (some (.columns entries)))
    (named : ∀ name ∈ names, g.namesPivotColumn r name = true)
    (h : g.levelFilters r = .ok filters) :
    g.levelFilters (r.withoutFilters names) =
      .ok { filters with pivots := filters.pivots.filter (·.1 ∉ names) } := by
  obtain ⟨known, valid, model, keys, hmodel, hkeys, restricts⟩ := levelFilters_ok h
  obtain rfl := Except.ok.inj (recognized.symm.trans hmodel)
  have validated : g.validate r = .ok () := validate_ok_iff.2 ⟨known, valid⟩
  obtain ⟨model', hmodel', rest⟩ := filterModel_withoutFilters names recognized
  have own : (entries.filter (·.1 ∉ names)).filter (fun entry => !g.namesPivotColumn r entry.1) =
      entries.filter fun entry => !g.namesPivotColumn r entry.1 := by
    rw [List.filter_filter]
    refine List.filter_congr fun entry _ => ?_
    by_cases dropped : entry.1 ∈ names
    · simp [named entry.1 dropped]
    · simp [dropped]
  obtain ⟨predicates, compiled, rfl⟩ := restricts.of_pivoting pivoting
  rw [← own] at compiled
  rw [levelFilters_of_level (r := r.withoutFilters names)
    (levelFiltering_of_pivoting pivoting model')
    (validate_withoutFilters names recognized validated) hmodel' hkeys, List.filter_comm]
  rcases rest with rfl | ⟨rfl, empty⟩
  · rw [directFilters, List.partition_eq_filter_filter]
    exact bind_ok_iff.2 ⟨_, Violations.takeAll_of_forall₂ compiled, rfl⟩
  · rw [empty] at compiled ⊢
    cases compiled
    rw [List.append_nil]
    rfl

theorem pivotPredicates_eq_nil {pivots : ColumnFilters}
    (h : ∀ entry ∈ pivots, pivot.expression? entry.1 = none) :
    g.pivotPredicates pivot pivots = .ok [] := by
  induction pivots with
  | nil => rfl
  | cons entry rest ih =>
      obtain ⟨hentry, hrest⟩ := List.forall_mem_cons.1 h
      unfold pivotPredicates
      rw [hentry]
      exact ih hrest

theorem plan_withoutFilters (pivoting : r.isPivoting = true)
    (recognized : g.filterModel r = .ok (some (.columns entries)))
    (named : ∀ name ∈ p.pivot.resultFields, g.namesPivotColumn r name = true)
    (accepted : g.plan r = .ok p) :
    g.plan (r.withoutFilters p.pivot.resultFields) = .ok { p with having := [] } := by
  obtain ⟨filters, level, hfilters, hpivot, hlevel, hhaving, hselect, hgroupBy, hrows⟩ :=
    plan_ok accepted
  have none (pivots : ColumnFilters) :
      g.pivotPredicates p.pivot (pivots.filter (·.1 ∉ p.pivot.resultFields)) = .ok [] := by
    refine pivotPredicates_eq_nil fun entry hentry => ?_
    simpa [← PivotContext.expression?_isSome_iff] using (List.mem_filter.1 hentry).2
  unfold plan
  rw [levelFilters_withoutFilters pivoting recognized named hfilters]
  refine bind_ok_iff.2 ⟨_, rfl, bind_ok_iff.2 ⟨p.pivot, hpivot, bind_ok_iff.2 ⟨level, hlevel,
    bind_ok_iff.2 ⟨[], none _, ?_⟩⟩⟩⟩
  rw [hselect, hgroupBy, hrows]
  rfl

end Grid

end GridSql
