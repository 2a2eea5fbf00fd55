import GridSql.Proofs.Table.SelectList
import GridSql.Table.Run
import Mathlib.Data.List.Perm.Basic

/-!
# Groups of rows

Rows are in one group exactly if the contents of their keys are equal: adding a row
keeps every group complete and the keys of the groups apart. So each group holds all
rows with the keys of its first row, in their order, and every row is in one group.
-/

namespace GridSql

namespace Table

/-! ## Keys -/

def contents (vs : List Value) : List (Option Content) :=
  vs.map Value.content?

def HasContents (vs : List Value) : Prop :=
  ∀ v ∈ vs, ∃ c, v.content? = some c

theorem sameValues_iff {vs ws : List Value} (hv : HasContents vs) (hw : HasContents ws) :
    sameValues vs ws = true ↔ contents vs = contents ws := by
  induction vs generalizing ws with
  | nil => cases ws <;> simp [sameValues, contents]
  | cons v vs ih =>
      cases ws with
      | nil => simp [sameValues, contents]
      | cons w ws =>
          obtain ⟨⟨a, ha⟩, hvs⟩ := List.forall_mem_cons.1 hv
          obtain ⟨⟨b, hb⟩, hws⟩ := List.forall_mem_cons.1 hw
          have tail := ih hvs hws
          simp only [contents] at tail
          simp [sameValues, contents, Value.same_iff ha hb, tail, ha, hb]

/-! ## Adding a row -/

variable {key : List Value} {row : Row} {groups : List Group}

theorem sum_length_addToGroup (key : List Value) (row : Row) (groups : List Group) :
    ((addToGroup key row groups).map (·.rows.length)).sum =
      (groups.map (·.rows.length)).sum + 1 := by
  induction groups with
  | nil => rfl
  | cons g rest ih =>
      unfold addToGroup
      split
      · simp
        omega
      · simp [ih]
        omega

/-- A row goes to the group with its key, or it opens a group behind the others. -/
theorem keys_addToGroup (row : Row)
    (agree : ∀ g ∈ groups, sameValues g.key key = true ↔ contents g.key = contents key) :
    (addToGroup key row groups).map (fun g => contents g.key) =
      if contents key ∈ groups.map (fun g => contents g.key) then
        groups.map fun g => contents g.key
      else groups.map (fun g => contents g.key) ++ [contents key] := by
  induction groups with
  | nil => simp [addToGroup]
  | cons g rest ih =>
      obtain ⟨first, others⟩ := List.forall_mem_cons.1 agree
      unfold addToGroup
      by_cases hsame : contents g.key = contents key
      · rw [if_pos (first.2 hsame)]
        simp [hsame]
      · rw [if_neg (first.not.2 hsame), List.map_cons, ih others]
        by_cases hmem : contents key ∈ rest.map fun g => contents g.key
        · have present : contents key ∈ (g :: rest).map fun g => contents g.key :=
            List.mem_cons_of_mem _ hmem
          rw [if_pos hmem, if_pos present]
          rfl
        · have absent : contents key ∉ (g :: rest).map fun g => contents g.key := by
            simpa [Ne.symm hsame] using hmem
          rw [if_neg hmem, if_neg absent]
          rfl

theorem mem_addToGroup (nodup : (groups.map fun g => contents g.key).Nodup)
    (agree : ∀ g ∈ groups, sameValues g.key key = true ↔ contents g.key = contents key)
    {g : Group} (h : g ∈ addToGroup key row groups) :
    (g ∈ groups ∧ contents g.key ≠ contents key) ∨
      (∃ old ∈ groups, contents old.key = contents key ∧ g = ⟨old.key, old.rows ++ [row]⟩) ∨
      (g = ⟨key, [row]⟩ ∧ ∀ old ∈ groups, contents old.key ≠ contents key) := by
  induction groups with
  | nil =>
      refine .inr (.inr ⟨?_, by simp⟩)
      simpa [addToGroup] using h
  | cons first rest ih =>
      obtain ⟨hfirst, hrest⟩ := List.forall_mem_cons.1 agree
      obtain ⟨absent, nodup⟩ := List.nodup_cons.1 nodup
      unfold addToGroup at h
      by_cases hsame : contents first.key = contents key
      · rw [if_pos (hfirst.2 hsame)] at h
        rcases List.mem_cons.1 h with rfl | h
        · exact .inr (.inl ⟨first, List.mem_cons_self, hsame, rfl⟩)
        · refine .inl ⟨List.mem_cons_of_mem first h, fun heq => absent ?_⟩
          exact List.mem_map.2 ⟨g, h, heq.trans hsame.symm⟩
      · rw [if_neg (hfirst.not.2 hsame)] at h
        rcases List.mem_cons.1 h with rfl | h
        · exact .inl ⟨List.mem_cons_self, hsame⟩
        · rcases ih nodup hrest h with ⟨hg, hne⟩ | ⟨old, hold, heq, rfl⟩ | ⟨rfl, hnew⟩
          · exact .inl ⟨List.mem_cons_of_mem first hg, hne⟩
          · exact .inr (.inl ⟨old, List.mem_cons_of_mem first hold, heq, rfl⟩)
          · exact .inr (.inr ⟨rfl, List.forall_mem_cons.2 ⟨hsame, hnew⟩⟩)

/-! ## Complete groups -/

/-- Groups that hold all of some rows, those with equal keys together. -/
structure Grouped (key : Row → List Value) (rows : List Row) (groups : List Group) : Prop where
  nodup : (groups.map fun g => contents g.key).Nodup
  covers : ∀ row ∈ rows, contents (key row) ∈ groups.map fun g => contents g.key
  first : ∀ g ∈ groups, ∃ row rest, g.rows = row :: rest ∧ row ∈ rows ∧ g.key = key row
  complete : ∀ g ∈ groups, g.rows = rows.filter fun row => contents (key row) = contents g.key
  total : (groups.map (·.rows.length)).sum = rows.length

theorem grouped_nil (key : Row → List Value) : Grouped key [] [] where
  nodup := .nil
  covers := by simp
  first := by simp
  complete := by simp
  total := rfl

theorem Grouped.add {key : Row → List Value} {rows : List Row} (h : Grouped key rows groups)
    (exact : ∀ r ∈ rows, HasContents (key r)) (hrow : HasContents (key row)) :
    Grouped key (rows ++ [row]) (addToGroup (key row) row groups) := by
  have agree : ∀ g ∈ groups,
      sameValues g.key (key row) = true ↔ contents g.key = contents (key row) := by
    intro g hg
    obtain ⟨r, _, -, hr, hkey⟩ := h.first g hg
    rw [hkey]
    exact sameValues_iff (exact r hr) hrow
  have keys := keys_addToGroup row agree
  constructor
  case nodup =>
    rw [keys]
    split
    · exact h.nodup
    · next absent =>
        refine List.nodup_append.2 ⟨h.nodup, List.pairwise_singleton _ _, ?_⟩
        intro a ha b hb heq
        rw [heq, List.mem_singleton.1 hb] at ha
        exact absent ha
  case covers =>
    intro r hr
    rw [keys]
    split
    · next present =>
        rcases List.mem_append.1 hr with hr | hr
        · exact h.covers r hr
        · cases List.mem_singleton.1 hr
          exact present
    · rcases List.mem_append.1 hr with hr | hr
      · exact List.mem_append_left _ (h.covers r hr)
      · cases List.mem_singleton.1 hr
        exact List.mem_append_right _ (List.mem_singleton_self _)
  case first =>
    intro g hg
    rcases mem_addToGroup h.nodup agree hg with ⟨hold, -⟩ | ⟨old, hold, -, rfl⟩ | ⟨rfl, -⟩
    · obtain ⟨r, rest, hrows, hr, hkey⟩ := h.first g hold
      exact ⟨r, rest, hrows, List.mem_append_left _ hr, hkey⟩
    · obtain ⟨r, rest, hrows, hr, hkey⟩ := h.first old hold
      exact ⟨r, rest ++ [row], by simp [hrows], List.mem_append_left _ hr, hkey⟩
    · exact ⟨row, [], rfl, by simp, rfl⟩
  case complete =>
    intro g hg
    rcases mem_addToGroup h.nodup agree hg with ⟨hold, hne⟩ | ⟨old, hold, heq, rfl⟩ | ⟨rfl, hnew⟩
    · rw [List.filter_append, ← h.complete g hold]
      simp [Ne.symm hne]
    · rw [List.filter_append, ← h.complete old hold]
      simp [heq]
    · have none_before : rows.filter (fun r => contents (key r) = contents (key row)) = [] := by
        refine List.filter_eq_nil_iff.2 fun r hr => ?_
        obtain ⟨old, hold, heq⟩ := List.mem_map.1 (h.covers r hr)
        simpa [← heq] using hnew old hold
      rw [List.filter_append, none_before]
      simp
  case total =>
    rw [sum_length_addToGroup, h.total]
    simp

/-! ## Grouping by columns -/

variable {t : Table} {fields : List String}

def cells (fields : List String) (row : Row) : List Value :=
  fields.map row.cell

theorem groupRows_cols (nonempty : fields ≠ [])
    (known : ∀ f ∈ fields, (t.typeOf? f).isSome = true) {rows : List Row}
    (exact : ∀ row ∈ rows, HasContents (cells fields row)) :
    ∃ groups, Grouped (cells fields) rows groups ∧
      t.groupRows (fields.map .col) rows = .ok (groups.map (·.rows)) := by
  let step (groups : List Group) (row : Row) : Except SourceError (List Group) := do
    let key ← t.evalAll (.row row) (fields.map .col)
    pure (addToGroup key row groups)
  have run (rest : List Row) : ∀ (before : List Row) (groups : List Group),
      Grouped (cells fields) before groups →
        (∀ row ∈ before ++ rest, HasContents (cells fields row)) →
          ∃ final, Grouped (cells fields) (before ++ rest) final ∧
            rest.foldlM step groups = .ok final := by
    induction rest with
    | nil =>
        intro before groups h _
        exact ⟨groups, by simpa using h, rfl⟩
    | cons row rest ih =>
        intro before groups h exact
        have added : Grouped (cells fields) (before ++ [row])
            (addToGroup (cells fields row) row groups) :=
          h.add (fun r hr => exact r (List.mem_append_left _ hr)) (exact row (by simp))
        obtain ⟨final, hfinal, hrun⟩ := ih (before ++ [row]) _ added (by simpa using exact)
        refine ⟨final, by simpa using hfinal, ?_⟩
        rw [List.foldlM_cons]
        refine bind_ok_iff.2 ⟨_, bind_ok_iff.2 ⟨_, evalAll_cols known, rfl⟩, hrun⟩
  obtain ⟨groups, hgroups, hrun⟩ := run rows [] [] (grouped_nil _) (by simpa using exact)
  refine ⟨groups, hgroups, ?_⟩
  have notEmpty : (fields.map Expr.col).isEmpty = false := by
    cases fields with
    | nil => exact absurd rfl nonempty
    | cons f fields => rfl
  rw [groupRows, notEmpty]
  exact bind_ok_iff.2 ⟨groups, hrun, rfl⟩

theorem known_of_groupRows (nonempty : fields ≠ []) {rows : List Row} {groups : List (List Row)}
    (h : t.groupRows (fields.map .col) rows = .ok groups) (some_ : rows ≠ []) :
    ∀ f ∈ fields, (t.typeOf? f).isSome = true := by
  have notEmpty : (fields.map Expr.col).isEmpty = false := by simpa using nonempty
  obtain ⟨row, rest, rfl⟩ := List.exists_cons_of_ne_nil some_
  rw [groupRows, notEmpty] at h
  obtain ⟨final, h, -⟩ := bind_ok_iff.1 h
  rw [List.foldlM_cons] at h
  obtain ⟨first, hfirst, -⟩ := bind_ok_iff.1 h
  obtain ⟨key, hkey, -⟩ := bind_ok_iff.1 hfirst
  exact known_of_evalAll hkey

/--
Without keys all rows are one group. Otherwise what holds before the first row, and is kept
whenever a row is added under its key, holds of the groups.
-/
theorem groupRows_induction {keys : List Expr} {rows : List Row} {groups : List (List Row)}
    {motive : List Row → List Group → Prop} (h : t.groupRows keys rows = .ok groups)
    (start : motive [] [])
    (add : ∀ before groups key row, t.evalAll (.row row) keys = .ok key →
      motive before groups → motive (before ++ [row]) (addToGroup key row groups)) :
    (keys = [] ∧ groups = [rows]) ∨ ∃ final, motive rows final ∧ groups = final.map (·.rows) := by
  have run (rest : List Row) : ∀ (before : List Row) (groups final : List Group),
      motive before groups →
        rest.foldlM (fun groups row => do
          let key ← t.evalAll (.row row) keys
          pure (addToGroup key row groups)) groups = .ok final →
            motive (before ++ rest) final := by
    induction rest with
    | nil =>
        intro before groups final holds hrun
        cases hrun
        simpa using holds
    | cons row rest ih =>
        intro before groups final holds hrun
        rw [List.foldlM_cons] at hrun
        obtain ⟨next, hnext, hrun⟩ := bind_ok_iff.1 hrun
        obtain ⟨key, hkey, added⟩ := bind_ok_iff.1 hnext
        cases added
        simpa using ih _ _ final (add before groups key row hkey holds) hrun
  unfold groupRows at h
  split at h
  · next empty =>
      cases h
      exact .inl ⟨List.isEmpty_iff.1 empty, rfl⟩
  · obtain ⟨final, hrun, h⟩ := bind_ok_iff.1 h
    cases h
    exact .inr ⟨final, run rows [] [] final start hrun, rfl⟩

/-! ## Output of groups -/

def passesHaving (t : Table) (having_ : Option Expr) (rows : List Row) : Bool :=
  match having_ with
  | some e => isTrue (t.test (.group rows) e)
  | none => true

/-- The groups that pass are projected, once the HAVING clause is tested on all of them. -/
theorem projectGroups_ok_iff {q : Query} {having_ : Option Expr} {groups : List (List Row)}
    {ps : List Projected} :
    t.projectGroups q having_ groups = .ok ps ↔
      (∀ rows ∈ groups, ∀ e ∈ having_, ∃ b, t.test (.group rows) e = .ok b) ∧
        List.Forall₂ (fun rows p => t.project q (.group rows) = .ok p)
          (groups.filter (t.passesHaving having_)) ps := by
  induction groups generalizing ps with
  | nil =>
      rw [projectGroups]
      cases ps <;> simp
  | cons rows groups ih =>
      have next {ps : List Projected} :
          (do
            let p ← t.project q (.group rows)
            let ps ← t.projectGroups q having_ groups
            .ok (p :: ps)) = Except.ok ps ↔
          (∀ rows ∈ groups, ∀ e ∈ having_, ∃ b, t.test (.group rows) e = .ok b) ∧
            List.Forall₂ (fun rows p => t.project q (.group rows) = .ok p)
              (rows :: groups.filter (t.passesHaving having_)) ps := by
        simp only [bind_ok_iff, ih, List.forall₂_cons_left_iff]
        constructor
        · rintro ⟨p, hp, others, ⟨tested, hothers⟩, heq⟩
          exact ⟨tested, p, others, hp, hothers, (Except.ok.inj heq).symm⟩
        · rintro ⟨tested, p, others, hp, hothers, rfl⟩
          exact ⟨p, hp, others, ⟨tested, hothers⟩, rfl⟩
      rw [List.forall_mem_cons, List.filter_cons]
      cases having_ with
      | none =>
          refine next.trans ?_
          simp [passesHaving]
      | some e =>
          rw [projectGroups, bind_ok_iff]
          cases htest : t.test (.group rows) e with
          | error fault => simp [htest]
          | ok b => cases b <;> simp [htest, passesHaving, isTrue, next, ih]

@[simp] theorem filter_passesHaving_none (groups : List (List Row)) :
    groups.filter (t.passesHaving none) = groups :=
  List.filter_eq_self.2 fun _ _ => rfl

theorem sortRows_perm (keys : List OrderKey) (ps : List Projected) :
    (sortRows keys ps).Perm ps := by
  unfold sortRows
  split
  · exact .refl _
  · exact List.mergeSort_perm _ _

theorem output_groups_isOk {q : Query} {kept : List Row} {groups : List (List Row)}
    (grouped : isGrouped q = true) (hgroups : t.groupRows q.groupBy kept = .ok groups)
    (projects : ∀ rows ∈ groups, ∃ p, t.project q (.group rows) = .ok p) :
    ∃ result, t.output q none kept = .ok result := by
  obtain ⟨ps, hps⟩ := exists_forall₂ projects
  unfold output
  rw [if_pos grouped]
  exact ⟨_, bind_ok_iff.2 ⟨groups, hgroups, bind_ok_iff.2
    ⟨ps, projectGroups_ok_iff.2 ⟨by simp, by simpa using hps⟩, rfl⟩⟩⟩

theorem output_grouped_ok {q : Query} {having_ : Option Expr} {kept : List Row}
    {result : ResultSet} (grouped : isGrouped q = true)
    (h : t.output q having_ kept = .ok result) :
    ∃ groups projected, t.groupRows q.groupBy kept = .ok groups ∧
      t.projectGroups q having_ groups = .ok projected ∧ result =
        { columns := t.outputColumns q.select
          rows := (cut q.window (sortRows q.orderBy
            (if q.distinct then dropDuplicates [] projected else projected))).map (·.values) } := by
  unfold output at h
  rw [if_pos grouped] at h
  obtain ⟨groups, hgroups, h⟩ := bind_ok_iff.1 h
  obtain ⟨projected, hprojected, h⟩ := bind_ok_iff.1 h
  exact ⟨groups, projected, hgroups, hprojected, (Except.ok.inj h).symm⟩

/--
The output of a query by groups without a window: one row for each group that passes, in
some order.
-/
theorem output_groups {q : Query} {having_ : Option Expr} {kept : List Row} {result : ResultSet}
    (grouped : isGrouped q = true) (all : q.distinct = false ∧ q.window = none)
    (h : t.output q having_ kept = .ok result) :
    ∃ groups, t.groupRows q.groupBy kept = .ok groups ∧
      result.columns = t.outputColumns q.select ∧
      (∀ rows ∈ groups, ∀ e ∈ having_, ∃ b, t.test (.group rows) e = .ok b) ∧
        ∃ sorted, sorted.Perm (groups.filter (t.passesHaving having_)) ∧ List.Forall₂
          (fun rows values => ∃ p, t.project q (.group rows) = .ok p ∧ p.values = values)
          sorted result.rows := by
  obtain ⟨groups, projected, hgroups, hprojected, rfl⟩ := output_grouped_ok grouped h
  obtain ⟨tested, outputs⟩ := projectGroups_ok_iff.1 hprojected
  refine ⟨groups, hgroups, rfl, tested, ?_⟩
  obtain ⟨inOrder, hinOrder, hperm⟩ :=
    List.perm_comp_forall₂ (sortRows_perm q.orderBy projected) outputs.flip
  refine ⟨inOrder, hperm, ?_⟩
  simp only [all.1, all.2, cut, Bool.false_eq_true, if_false]
  exact List.forall₂_map_right_iff.2 (hinOrder.flip.imp fun rows p hp => ⟨p, hp, rfl⟩)

/-! ## Output of rows -/

/-- The output of a query by rows that neither drops nor sorts any. -/
theorem output_rows {q : Query} {kept : List Row} {cells : Row → List Value}
    (plain : isGrouped q = false) (all : q.distinct = false ∧ q.window = none)
    (unsorted : q.orderBy = [])
    (shows : ∀ row, t.evalItems (.row row) q.select = .ok (cells row)) :
    t.output q none kept = .ok ⟨t.outputColumns q.select, kept.map cells⟩ := by
  have projected : kept.mapM (fun row => t.project q (.row row)) =
      .ok (kept.map fun row => ⟨cells row, []⟩) := by
    refine mapM_ok_iff.2 (List.forall₂_map_right_iff.2 (List.forall₂_same.2 fun row _ => ?_))
    rw [project, shows, unsorted]
    rfl
  unfold output
  rw [if_neg (by simp [plain]), projected]
  simp [bind, Except.bind, all.1, all.2, cut, sortRows, unsorted, Function.comp_def]

theorem length_output {q : Query} {kept : List Row} {result : ResultSet}
    (plain : isGrouped q = false) (all : q.distinct = false ∧ q.window = none)
    (h : t.output q none kept = .ok result) :
    result.rows.length = kept.length := by
  unfold output at h
  rw [if_neg (by simp [plain])] at h
  obtain ⟨projected, hprojected, h⟩ := bind_ok_iff.1 h
  cases h
  have outputs := mapM_ok_iff.1 hprojected
  simp only [all.1, all.2, cut, Bool.false_eq_true, if_false]
  rw [List.length_map, (sortRows_perm q.orderBy projected).length_eq, outputs.length_eq]

theorem output_rows_isOk {q : Query} {kept : List Row} (plain : isGrouped q = false)
    (projects : ∀ row ∈ kept, ∃ p, t.project q (.row row) = .ok p) :
    ∃ result, t.output q none kept = .ok result := by
  obtain ⟨ps, hps⟩ := exists_forall₂ projects
  unfold output
  rw [if_neg (by simp [plain])]
  exact ⟨_, bind_ok_iff.2 ⟨ps, mapM_ok_iff.2 hps, rfl⟩⟩

end Table

end GridSql
