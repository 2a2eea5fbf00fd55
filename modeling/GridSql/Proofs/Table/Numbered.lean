import GridSql.Proofs.Table.Grouped
import GridSql.Proofs.Value.Swap
import Mathlib.Algebra.BigOperators.Group.Finset.Basic

/-!
# Which group a row is in

A row goes to the first group with its key. Its number is what is kept of that here: the
numbers of all rows tell how many rows each group has and which row is its first. This holds
of all cells, whether or not they have a content: where cells are the same without being
equal, or a double is not the same as itself, a row is still in one group only.
-/

namespace GridSql

/-! ## Numbers that change with the order -/

section

variable {owners order : List Nat} {n i j : Nat}

theorem idxOf_eq_iff (perm : order.Perm (List.range n)) (h : order[j]? = some i) {o : Nat}
    (ho : o < n) :
    order.idxOf o = j ↔ o = i := by
  have nodup : order.Nodup := perm.nodup_iff.2 List.nodup_range
  obtain ⟨hj, rfl⟩ := List.getElem?_eq_some_iff.1 h
  constructor
  · rintro rfl
    exact (List.getElem_idxOf (List.idxOf_lt_length_iff.2 (perm.mem_iff.2 (List.mem_range.2 ho)))).symm
  · rintro rfl
    exact nodup.idxOf_getElem j hj

theorem count_renumbered (perm : order.Perm (List.range n)) (h : order[j]? = some i)
    (small : ∀ o ∈ owners, o < n) :
    (owners.map order.idxOf).count j = owners.count i := by
  induction owners with
  | nil => rfl
  | cons o owners ih =>
      obtain ⟨ho, small⟩ := List.forall_mem_cons.1 small
      have own := idxOf_eq_iff perm h ho
      simp only [List.map_cons, List.count_cons, ih small, beq_iff_eq, own]

theorem idxOf_renumbered (perm : order.Perm (List.range n)) (h : order[j]? = some i)
    (small : ∀ o ∈ owners, o < n) :
    (owners.map order.idxOf).idxOf j = owners.idxOf i := by
  induction owners with
  | nil => rfl
  | cons o owners ih =>
      obtain ⟨ho, small⟩ := List.forall_mem_cons.1 small
      have own := idxOf_eq_iff perm h ho
      simp only [List.map_cons, List.idxOf_cons, ih small, Bool.cond_eq_ite, beq_iff_eq, own]

theorem forall₂_range {α : Type} (l : List α) :
    List.Forall₂ (fun i a => l[i]? = some a) (List.range l.length) l := by
  rw [List.forall₂_iff_get]
  refine ⟨List.length_range, fun i _ hi => ?_⟩
  simp

end

namespace Table

/-! ## Keys that are the same -/

theorem sameValues_comm (vs ws : List Value) :
    sameValues ws vs = sameValues vs ws := by
  induction vs generalizing ws with
  | nil => cases ws <;> rfl
  | cons v vs ih =>
      cases ws with
      | nil => rfl
      | cons w ws => rw [sameValues, sameValues, ih ws, Value.same_comm]

theorem exists_not_same_of_cells {fields : List String} {x y : Row}
    (h : sameValues (fields.map x.cell) (fields.map y.cell) = false) :
    ∃ f ∈ fields, (x.cell f).same (y.cell f) = false := by
  induction fields with
  | nil => cases h
  | cons f fields ih =>
      rw [List.map_cons, List.map_cons, sameValues, Bool.and_eq_false_iff] at h
      rcases h with first | others
      · exact ⟨f, List.mem_cons_self, first⟩
      · obtain ⟨d, hd, apart⟩ := ih others
        exact ⟨d, List.mem_cons_of_mem f hd, apart⟩

theorem same_of_sameValues_cells {fields : List String} {x y : Row}
    (h : sameValues (fields.map x.cell) (fields.map y.cell) = true) {f : String}
    (hf : f ∈ fields) :
    (x.cell f).same (y.cell f) = true := by
  induction fields with
  | nil => cases hf
  | cons d fields ih =>
      rw [List.map_cons, List.map_cons, sameValues, Bool.and_eq_true] at h
      rcases List.mem_cons.1 hf with rfl | hf
      · exact h.1
      · exact ih h.2 hf

/-! ## The place of a row -/

variable {key : Row → List Value} {row : Row} {rows : List Row} {owners : List Nat}
  {groups : List Group} {k : List Value} {i j : Nat} {g : Group}

/-- The number of the first group with a key, or that of a group behind all others. -/
def place (k : List Value) (groups : List Group) : Nat :=
  groups.findIdx (sameValues ·.key k)

theorem length_addToGroup :
    (addToGroup k row groups).length = max groups.length (place k groups + 1) := by
  induction groups with
  | nil => rfl
  | cons g rest ih =>
      unfold addToGroup place
      rw [List.findIdx_cons]
      by_cases hsame : sameValues g.key k = true
      · rw [if_pos hsame, hsame]
        simp
      · rw [if_neg hsame, eq_false_of_ne_true hsame]
        simp only [List.length_cons, ih, cond_false]
        exact (Nat.succ_max_succ _ _).symm

theorem getElem?_addToGroup_of_ne (other : i ≠ place k groups) :
    (addToGroup k row groups)[i]? = groups[i]? := by
  induction groups generalizing i with
  | nil =>
      have other : i ≠ 0 := other
      simp [addToGroup, other]
  | cons g rest ih =>
      unfold addToGroup
      unfold place at other
      rw [List.findIdx_cons] at other
      by_cases hsame : sameValues g.key k = true
      · rw [hsame, cond_true] at other
        obtain ⟨i, rfl⟩ := Nat.exists_eq_succ_of_ne_zero other
        rw [if_pos hsame]
        rfl
      · rw [eq_false_of_ne_true hsame, cond_false] at other
        rw [if_neg hsame]
        cases i with
        | zero => rfl
        | succ i => exact ih fun h => other (congrArg (· + 1) h)

theorem getElem?_addToGroup_place (h : groups[place k groups]? = some g) :
    (addToGroup k row groups)[place k groups]? = some { g with rows := g.rows ++ [row] } := by
  induction groups with
  | nil => cases h
  | cons first rest ih =>
      unfold addToGroup
      unfold place at h ⊢
      rw [List.findIdx_cons] at h ⊢
      by_cases hsame : sameValues first.key k = true
      · rw [hsame] at h ⊢
        rw [if_pos rfl]
        cases h
        rfl
      · rw [eq_false_of_ne_true hsame] at h ⊢
        rw [if_neg Bool.false_ne_true]
        exact ih h

theorem getElem?_addToGroup_new (h : place k groups = groups.length) :
    (addToGroup k row groups)[place k groups]? = some ⟨k, [row]⟩ := by
  induction groups with
  | nil => rfl
  | cons first rest ih =>
      unfold addToGroup
      unfold place at h ⊢
      rw [List.findIdx_cons] at h ⊢
      by_cases hsame : sameValues first.key k = true
      · rw [hsame] at h
        cases h
      · rw [eq_false_of_ne_true hsame] at h ⊢
        rw [if_neg Bool.false_ne_true]
        exact ih (Nat.succ.inj h)

theorem sameValues_of_place (h : groups[place k groups]? = some g) :
    sameValues g.key k = true :=
  List.findIdx_of_getElem?_eq_some (p := fun g : Group => sameValues g.key k) h

theorem cases_getElem?_addToGroup (h : (addToGroup k row groups)[i]? = some g) :
    (i ≠ place k groups ∧ groups[i]? = some g) ∨
      (i = place k groups ∧ ∃ old, groups[i]? = some old ∧
        g = { old with rows := old.rows ++ [row] }) ∨
      (i = place k groups ∧ place k groups = groups.length ∧ g = ⟨k, [row]⟩) := by
  by_cases own : i = place k groups
  · subst own
    rcases (List.findIdx_le_length : place k groups ≤ groups.length).lt_or_eq with old | new
    · have hold := List.getElem?_eq_getElem old
      rw [getElem?_addToGroup_place hold, Option.some.injEq] at h
      exact .inr (.inl ⟨rfl, _, hold, h.symm⟩)
    · rw [getElem?_addToGroup_new new, Option.some.injEq] at h
      exact .inr (.inr ⟨rfl, new, h.symm⟩)
  · rw [getElem?_addToGroup_of_ne own] at h
    exact .inl ⟨own, h⟩

theorem exists_key_addToGroup (row : Row) (h : groups[i]? = some g) :
    ∃ g', (addToGroup k row groups)[i]? = some g' ∧ g'.key = g.key := by
  by_cases own : i = place k groups
  · subst own
    exact ⟨_, getElem?_addToGroup_place h, rfl⟩
  · exact ⟨g, (getElem?_addToGroup_of_ne own).trans h, rfl⟩

theorem key_of_addToGroup (h : (addToGroup k row groups)[i]? = some g) :
    (∃ old, groups[i]? = some old ∧ g.key = old.key) ∨
      (i = groups.length ∧ place k groups = groups.length ∧ g.key = k) := by
  rcases cases_getElem?_addToGroup h with ⟨-, hg⟩ | ⟨-, old, hold, rfl⟩ | ⟨rfl, new, rfl⟩
  · exact .inl ⟨g, hg, rfl⟩
  · exact .inl ⟨old, hold, rfl⟩
  · exact .inr ⟨new, new, rfl⟩

theorem not_sameValues_of_new (new : place k groups = groups.length) (h : groups[i]? = some g) :
    sameValues g.key k = false :=
  (List.findIdx_eq_length (p := fun g : Group => sameValues g.key k)).1 new g
    (List.mem_of_getElem? h)

/-! ## Numbered groups -/

/-- Groups of some rows, where `owners` has the number of each row's group. -/
structure Numbered (key : Row → List Value) (rows : List Row) (owners : List Nat)
    (groups : List Group) : Prop where
  length : owners.length = rows.length
  mem_iff : ∀ i, i ∈ owners ↔ i < groups.length
  count : ∀ i g, groups[i]? = some g → g.rows.length = owners.count i
  /-- A group has the key of its first row. -/
  first : ∀ i g, groups[i]? = some g → ∃ row rest, g.rows = row :: rest ∧
    rows[owners.idxOf i]? = some row ∧ g.key = key row
  /-- The other rows of a group have a key that is the same. -/
  same : ∀ n row i, rows[n]? = some row → owners[n]? = some i → n = owners.idxOf i ∨
    ∃ g, groups[i]? = some g ∧ sameValues g.key (key row) = true
  apart : ∀ (i j : Nat) (g h : Group), groups[i]? = some g → groups[j]? = some h → i ≠ j →
    sameValues g.key h.key = false
  /-- Groups stand in the order of their first rows. -/
  ordered : ∀ i j, i < j → j < groups.length → owners.idxOf i < owners.idxOf j

theorem numbered_nil (key : Row → List Value) : Numbered key [] [] [] where
  length := rfl
  mem_iff := by simp
  count := by simp
  first := by simp
  same := by simp
  apart := by simp
  ordered := by simp

section

variable (h : Numbered key rows owners groups)

include h

theorem Numbered.idxOf_lt (hi : i < groups.length) : owners.idxOf i < rows.length := by
  rw [← h.length]
  exact List.idxOf_lt_length_iff.2 ((h.mem_iff i).2 hi)

theorem Numbered.idxOf_append (hi : i < groups.length) (others : List Nat) :
    (owners ++ others).idxOf i = owners.idxOf i := by
  rw [List.idxOf_append, if_pos ((h.mem_iff i).2 hi)]

theorem Numbered.not_mem_new (new : i = groups.length) : i ∉ owners := by
  rw [h.mem_iff, new]
  exact lt_irrefl _

theorem Numbered.idxOf_new (new : i = groups.length) : (owners ++ [i]).idxOf i = rows.length := by
  rw [List.idxOf_append, if_neg (h.not_mem_new new)]
  simp [h.length]

/-! ## A further row -/

theorem Numbered.count_add (hg : (addToGroup k row groups)[i]? = some g) :
    g.rows.length = (owners ++ [place k groups]).count i := by
  rw [List.count_append, List.count_singleton]
  rcases cases_getElem?_addToGroup hg with ⟨other, hg⟩ | ⟨rfl, old, hold, rfl⟩ | ⟨rfl, new, rfl⟩
  · simp [h.count i g hg, other.symm]
  · simp [h.count _ old hold]
  · simp [List.count_eq_zero.2 (h.not_mem_new new)]

theorem Numbered.first_add (hg : (addToGroup (key row) row groups)[i]? = some g) :
    ∃ x rest, g.rows = x :: rest ∧
      (rows ++ [row])[(owners ++ [place (key row) groups]).idxOf i]? = some x ∧ g.key = key x := by
  have before {n : Nat} {x : Row} (hx : rows[n]? = some x) : (rows ++ [row])[n]? = some x := by
    rw [List.getElem?_append_left (List.getElem?_eq_some_iff.1 hx).1, hx]
  have lt {i : Nat} {g : Group} (hg : groups[i]? = some g) : i < groups.length :=
    (List.getElem?_eq_some_iff.1 hg).1
  rcases cases_getElem?_addToGroup hg with ⟨-, hg⟩ | ⟨rfl, old, hold, rfl⟩ | ⟨rfl, new, rfl⟩
  · obtain ⟨x, rest, hrows, hx, hkey⟩ := h.first i g hg
    rw [h.idxOf_append (lt hg)]
    exact ⟨x, rest, hrows, before hx, hkey⟩
  · obtain ⟨x, rest, hrows, hx, hkey⟩ := h.first _ old hold
    rw [h.idxOf_append (lt hold)]
    exact ⟨x, rest ++ [row], by simp [hrows], before hx, hkey⟩
  · rw [h.idxOf_new new]
    exact ⟨row, [], rfl, by simp, rfl⟩

theorem Numbered.same_add {n : Nat} {x : Row} (hx : (rows ++ [row])[n]? = some x)
    (hi : (owners ++ [place (key row) groups])[n]? = some i) :
    n = (owners ++ [place (key row) groups]).idxOf i ∨
      ∃ g, (addToGroup (key row) row groups)[i]? = some g ∧ sameValues g.key (key x) = true := by
  rcases Nat.lt_or_ge n rows.length with old | last
  · rw [List.getElem?_append_left old] at hx
    rw [List.getElem?_append_left (h.length ▸ old)] at hi
    rw [h.idxOf_append ((h.mem_iff i).1 (List.mem_of_getElem? hi))]
    refine (h.same n x i hx hi).imp_right fun ⟨g, hg, hsame⟩ => ?_
    obtain ⟨g', hg', hkey⟩ := exists_key_addToGroup row hg
    exact ⟨g', hg', hkey ▸ hsame⟩
  · -- The row itself is the first one of its group, or it was put into an older one.
    obtain rfl : n = rows.length := by
      have := (List.getElem?_eq_some_iff.1 hx).1
      simp only [List.length_append, List.length_singleton] at this
      omega
    rw [List.getElem?_concat_length, Option.some.injEq] at hx
    rw [← h.length, List.getElem?_concat_length, Option.some.injEq] at hi
    subst hx hi
    rcases (List.findIdx_le_length : place (key row) groups ≤ groups.length).lt_or_eq
      with old | new
    · obtain ⟨g', hg', hkey⟩ := exists_key_addToGroup row (List.getElem?_eq_getElem old)
      exact .inr ⟨g', hg', hkey ▸ sameValues_of_place (List.getElem?_eq_getElem old)⟩
    · exact .inl (h.idxOf_new new).symm

theorem Numbered.apart_add {g' : Group} (hg : (addToGroup k row groups)[i]? = some g)
    (hg' : (addToGroup k row groups)[j]? = some g') (hne : i ≠ j) :
    sameValues g.key g'.key = false := by
  rcases key_of_addToGroup hg with ⟨old, hold, hkey⟩ | ⟨hi, new, hkey⟩ <;>
    rcases key_of_addToGroup hg' with ⟨old', hold', hkey'⟩ | ⟨hj, new', hkey'⟩
  · rw [hkey, hkey']
    exact h.apart i j old old' hold hold' hne
  · rw [hkey, hkey']
    exact not_sameValues_of_new new' hold
  · rw [hkey, hkey', sameValues_comm]
    exact not_sameValues_of_new new hold'
  · exact absurd (hi.trans hj.symm) hne

theorem Numbered.ordered_add (row : Row) (hij : i < j)
    (hj : j < (addToGroup k row groups).length) :
    (owners ++ [place k groups]).idxOf i < (owners ++ [place k groups]).idxOf j := by
  have le : place k groups ≤ groups.length := List.findIdx_le_length
  rw [length_addToGroup] at hj
  rcases Nat.lt_or_ge j groups.length with old | last
  · rw [h.idxOf_append (hij.trans old), h.idxOf_append old]
    exact h.ordered i j hij old
  · have new : j = place k groups := by omega
    have hi : i < groups.length := by omega
    rw [h.idxOf_append hi, ← new, h.idxOf_new (by omega)]
    exact h.idxOf_lt hi

theorem Numbered.add (row : Row) :
    Numbered key (rows ++ [row]) (owners ++ [place (key row) groups])
      (addToGroup (key row) row groups) where
  length := by simp [h.length]
  mem_iff i := by
    have le : place (key row) groups ≤ groups.length := List.findIdx_le_length
    rw [List.mem_append, List.mem_singleton, h.mem_iff, length_addToGroup]
    omega
  count _ _ := h.count_add
  first _ _ := h.first_add
  same _ _ _ := h.same_add
  apart _ _ _ _ := h.apart_add
  ordered _ _ := h.ordered_add row

end

variable {t : Table} {fields : List String} {members : List (List Row)}

theorem numbered_of_groupRows (nonempty : fields ≠ [])
    (h : t.groupRows (fields.map .col) rows = .ok members) :
    ∃ owners groups, Numbered (cells fields) rows owners groups ∧
      members = groups.map (·.rows) := by
  have added (before : List Row) (groups : List Group) (k : List Value) (row : Row)
      (hk : t.evalAll (.row row) (fields.map .col) = .ok k) :
      (∃ owners, Numbered (cells fields) before owners groups) →
        ∃ owners, Numbered (cells fields) (before ++ [row]) owners (addToGroup k row groups) := by
    rintro ⟨owners, numbered⟩
    rw [evalAll_cols (known_of_evalAll hk), Except.ok.injEq] at hk
    subst hk
    exact ⟨_, numbered.add row⟩
  rcases groupRows_induction h ⟨[], numbered_nil _⟩ added with ⟨empty, -⟩ |
    ⟨groups, ⟨owners, numbered⟩, rfl⟩
  · exact absurd (List.map_eq_nil_iff.1 empty) nonempty
  · exact ⟨owners, groups, numbered, rfl⟩

/-! ## Output of numbered groups -/

/-- Sorting puts rows into another order, and without keys it leaves them in theirs. -/
theorem exists_order (keys : List OrderKey) (ps : List Projected) :
    ∃ order : List Nat, order.Perm (List.range ps.length) ∧
      (keys = [] → order = List.range ps.length) ∧
      List.Forall₂ (fun i p => ps[i]? = some p) order (sortRows keys ps) := by
  by_cases unsorted : keys = []
  · refine ⟨_, .refl _, fun _ => rfl, ?_⟩
    rw [unsorted]
    exact forall₂_range ps
  · obtain ⟨order, hshown, perm⟩ :=
      List.perm_comp_forall₂ (sortRows_perm keys ps) (forall₂_range ps).flip
    exact ⟨order, perm, fun h => absurd h unsorted, hshown.flip⟩

/--
Whether each of some rows is counted in one row of an answer, whose number `owners` has in
its place, and in no other.
-/
structure CountsOnce (result : ResultSet) (fields : List String) (name : String)
    (rows : List Row) (owners : List Nat) : Prop where
  length : owners.length = rows.length
  mem_iff : ∀ k, k ∈ owners ↔ k < result.rows.length
  count : ∀ k < result.rows.length,
    result.get? k name = some (.int (Int64.ofNat (owners.count k)))
  total : ∑ k ∈ Finset.range result.rows.length, owners.count k = rows.length
  /-- A row of the answer shows the cells of the first row that it counts. -/
  first : ∀ k < result.rows.length, ∃ row, rows[owners.idxOf k]? = some row ∧
    ∀ f ∈ fields, result.get? k f = some (row.cell f)
  /-- The cells of the others compare as equal to what it shows. -/
  same : ∀ n row k, rows[n]? = some row → owners[n]? = some k → n = owners.idxOf k ∨
    ∀ f ∈ fields, ∃ v, result.get? k f = some v ∧ v.order? (row.cell f) = some .eq
  apart : ∀ j k, j < result.rows.length → k < result.rows.length → j ≠ k → ∃ f ∈ fields, ∃ v w,
    result.get? j f = some v ∧ result.get? k f = some w ∧ v.order? w ≠ some .eq

variable {q : Query} {kept : List Row} {result : ResultSet} {name : String}
  {values : List SelectItem}

theorem get?_of_first {pre post : List String} {f : String} {vs ws : List Value} {v : Value}
    {n : Nat} (columns : result.columns = pre ++ f :: post) (first : f ∉ pre)
    (row : result.rows[n]? = some (vs ++ v :: ws)) (length : vs.length = pre.length) :
    result.get? n f = some v := by
  have index : result.columns.idxOf? f = some pre.length := by
    rw [columns]
    refine List.idxOf?_eq_some_iff.2 ⟨by simp, by simp, fun j hj => ?_⟩
    rw [List.getElem_append_left hj]
    exact fun h => first (h ▸ List.getElem_mem hj)
  simp [ResultSet.get?, index, row, ← length]

theorem get?_level {names : List String} {s : Scope} {count : Value} {others : List Value}
    {n : Nat} (columns : result.columns = fields ++ name :: names) (apart : name ∉ fields)
    (row : result.rows[n]? = some (fields.map s.cell ++ count :: others)) :
    result.get? n name = some count ∧ ∀ f ∈ fields, result.get? n f = some (s.cell f) := by
  refine ⟨get?_of_first columns apart row (List.length_map _), fun f hf => ?_⟩
  obtain ⟨pre, post, rfl, first⟩ := List.eq_append_cons_of_mem hf
  rw [List.append_assoc] at columns
  rw [List.map_append, List.map_cons, List.append_assoc] at row
  exact get?_of_first columns first row (List.length_map _)

theorem exists_order_of_output (grouped : isGrouped q = true)
    (all : q.distinct = false ∧ q.window = none) (h : t.output q none kept = .ok result) :
    ∃ members order, result.columns = t.outputColumns q.select ∧
      t.groupRows q.groupBy kept = .ok members ∧ order.Perm (List.range members.length) ∧
      (q.orderBy = [] → order = List.range members.length) ∧
      List.Forall₂ (fun i values => ∃ rows p, members[i]? = some rows ∧
        t.project q (.group rows) = .ok p ∧ p.values = values) order result.rows := by
  obtain ⟨members, projected, hmembers, hprojected, rfl⟩ := output_grouped_ok grouped h
  obtain ⟨-, outputs⟩ := projectGroups_ok_iff.1 hprojected
  rw [filter_passesHaving_none] at outputs
  obtain ⟨order, perm, unsorted, shown⟩ := exists_order q.orderBy projected
  rw [← outputs.length_eq] at perm unsorted
  refine ⟨members, order, rfl, hmembers, perm, unsorted, ?_⟩
  simp only [all.1, all.2, cut, Bool.false_eq_true, if_false]
  refine List.forall₂_map_right_iff.2 (shown.imp fun i p hp => ?_)
  obtain ⟨rows, hrows, hproject⟩ := exists_getElem?_of_forall₂ outputs.flip hp
  exact ⟨rows, p, hrows, hproject, rfl⟩

/--
Whether the rows of an answer are numbered groups in some order, each shown by the number of
its rows and the cells of its first row.
-/
structure ShowsGroups (result : ResultSet) (fields : List String) (name : String)
    (rows : List Row) (owners : List Nat) (groups : List Group) (order : List Nat) : Prop where
  numbered : Numbered (cells fields) rows owners groups
  perm : order.Perm (List.range groups.length)
  length : order.length = result.rows.length
  shown : ∀ n i, order[n]? = some i → ∃ g x, groups[i]? = some g ∧
    rows[owners.idxOf i]? = some x ∧ g.key = cells fields x ∧
    result.get? n name = some (.int (Int64.ofNat (owners.count i))) ∧
    ∀ f ∈ fields, result.get? n f = some (x.cell f)

theorem showsGroups_of_output (nonempty : fields ≠ [])
    (hselect : q.select = levelItems fields name values) (hgroupBy : q.groupBy = fields.map .col)
    (apart : name ∉ fields) (all : q.distinct = false ∧ q.window = none)
    (h : t.output q none kept = .ok result) :
    ∃ owners groups order, ShowsGroups result fields name kept owners groups order ∧
      (q.orderBy = [] → order = List.range groups.length) := by
  have grouped : isGrouped q = true := by simp [isGrouped, hgroupBy, nonempty]
  obtain ⟨members, order, columns, hmembers, perm, unsorted, shown⟩ :=
    exists_order_of_output grouped all h
  rw [hselect, outputColumns_level] at columns
  rw [hgroupBy] at hmembers
  obtain ⟨owners, groups, numbered, rfl⟩ := numbered_of_groupRows nonempty hmembers
  rw [List.length_map] at perm unsorted
  refine ⟨owners, groups, order, ⟨numbered, perm, shown.length_eq, fun n i hi => ?_⟩, unsorted⟩
  obtain ⟨values, hvalues, rows, p, hrows, hproject, rfl⟩ := exists_getElem?_of_forall₂ shown hi
  rw [List.getElem?_map, Option.map_eq_some_iff] at hrows
  obtain ⟨g, hg, rfl⟩ := hrows
  obtain ⟨x, rest, hmembers', hx, hkey⟩ := numbered.first i g hg
  have known := known_of_groupRows nonempty hmembers (List.ne_nil_of_mem (List.mem_of_getElem? hx))
  obtain ⟨others, hcells⟩ := values_of_project known hselect hproject
  rw [hcells, numbered.count i g hg] at hvalues
  obtain ⟨counted, keys⟩ := get?_level columns apart hvalues
  refine ⟨g, x, hg, hx, hkey, counted, fun f hf => ?_⟩
  rw [keys f hf, hmembers']
  rfl

section

variable {order : List Nat} {n m : Nat}

variable (h : ShowsGroups result fields name rows owners groups order)

include h

theorem ShowsGroups.lt_of_mem : ∀ o ∈ owners, o < groups.length :=
  fun o ho => (h.numbered.mem_iff o).1 ho

theorem ShowsGroups.exists_number (hn : n < result.rows.length) : ∃ i, order[n]? = some i := by
  rw [← h.length] at hn
  exact ⟨_, List.getElem?_eq_getElem hn⟩

theorem ShowsGroups.mem_iff (n : Nat) :
    n ∈ owners.map order.idxOf ↔ n < result.rows.length := by
  rw [List.mem_map]
  constructor
  · rintro ⟨o, ho, rfl⟩
    rw [← h.length, List.idxOf_lt_length_iff, h.perm.mem_iff, List.mem_range]
    exact h.lt_of_mem o ho
  · intro hn
    obtain ⟨i, hi⟩ := h.exists_number hn
    have hmem : i < groups.length := by
      simpa using h.perm.mem_iff.1 (List.mem_of_getElem? hi)
    exact ⟨i, (h.numbered.mem_iff i).2 hmem, (idxOf_eq_iff h.perm hi hmem).2 rfl⟩

theorem ShowsGroups.total :
    ∑ n ∈ Finset.range result.rows.length, (owners.map order.idxOf).count n = rows.length := by
  have total := Multiset.sum_count_eq_card (s := Finset.range result.rows.length)
    (m := (owners.map order.idxOf : Multiset Nat)) fun n hn =>
      Finset.mem_range.2 ((h.mem_iff n).1 hn)
  simpa only [Multiset.coe_count, Multiset.coe_card, List.length_map, h.numbered.length] using total

theorem ShowsGroups.same {row : Row} (hrow : rows[i]? = some row)
    (hn : (owners.map order.idxOf)[i]? = some n) :
    i = (owners.map order.idxOf).idxOf n ∨
      ∀ f ∈ fields, ∃ v, result.get? n f = some v ∧ v.order? (row.cell f) = some .eq := by
  rw [List.getElem?_map, Option.map_eq_some_iff] at hn
  obtain ⟨o, ho, rfl⟩ := hn
  have hmem := h.lt_of_mem o (List.mem_of_getElem? ho)
  have place : order[order.idxOf o]? = some o :=
    List.getElem?_idxOf (h.perm.mem_iff.2 (List.mem_range.2 hmem))
  obtain ⟨g, x, hg, -, hkey, -, keys⟩ := h.shown _ o place
  rw [idxOf_renumbered h.perm place h.lt_of_mem]
  refine (h.numbered.same i row o hrow ho).imp_right fun ⟨g', hg', hsame⟩ f hf => ?_
  rw [hg, Option.some.injEq] at hg'
  subst hg'
  rw [hkey] at hsame
  exact ⟨_, keys f hf, beq_iff_eq.1 (same_of_sameValues_cells hsame hf)⟩

theorem ShowsGroups.apart (hn : n < result.rows.length) (hm : m < result.rows.length)
    (hne : n ≠ m) :
    ∃ f ∈ fields, ∃ v w, result.get? n f = some v ∧ result.get? m f = some w ∧
      v.order? w ≠ some .eq := by
  obtain ⟨i, hi⟩ := h.exists_number hn
  obtain ⟨j, hj⟩ := h.exists_number hm
  obtain ⟨g, x, hg, -, hkey, -, keys⟩ := h.shown n i hi
  obtain ⟨g', y, hg', -, hkey', -, keys'⟩ := h.shown m j hj
  have other : i ≠ j := by
    rintro rfl
    have bound : i < groups.length := (List.getElem?_eq_some_iff.1 hg).1
    rw [← (idxOf_eq_iff h.perm hi bound).2 rfl] at hne
    exact hne ((idxOf_eq_iff h.perm hj bound).2 rfl)
  have different := h.numbered.apart i j g g' hg hg' other
  rw [hkey, hkey'] at different
  obtain ⟨f, hf, notSame⟩ := exists_not_same_of_cells different
  refine ⟨f, hf, _, _, keys f hf, keys' f hf, fun same => ?_⟩
  rw [Value.same, same] at notSame
  cases notSame

theorem ShowsGroups.countsOnce :
    CountsOnce result fields name rows (owners.map order.idxOf) where
  length := by rw [List.length_map, h.numbered.length]
  mem_iff := h.mem_iff
  count n hn := by
    obtain ⟨i, hi⟩ := h.exists_number hn
    obtain ⟨-, -, -, -, -, counted, -⟩ := h.shown n i hi
    rw [counted, count_renumbered h.perm hi h.lt_of_mem]
  total := h.total
  first n hn := by
    obtain ⟨i, hi⟩ := h.exists_number hn
    obtain ⟨-, x, -, hx, -, -, keys⟩ := h.shown n i hi
    rw [idxOf_renumbered h.perm hi h.lt_of_mem]
    exact ⟨x, hx, keys⟩
  same _ _ _ := h.same
  apart _ _ := h.apart

/-- Without sort keys the groups stand in the order of their first rows. -/
theorem ShowsGroups.ordered (unsorted : order = List.range groups.length) (hnm : n < m)
    (hm : m < result.rows.length) :
    (owners.map order.idxOf).idxOf n < (owners.map order.idxOf).idxOf m := by
  have length : result.rows.length = groups.length := by
    rw [← h.length, h.perm.length_eq, List.length_range]
  have own {n : Nat} (hn : n < groups.length) : order[n]? = some n := by
    rw [unsorted, List.getElem?_range hn]
  rw [idxOf_renumbered h.perm (own (by omega)) h.lt_of_mem,
    idxOf_renumbered h.perm (own (by omega)) h.lt_of_mem]
  exact h.numbered.ordered n m hnm (by omega)

end

theorem countsOnce_of_output (nonempty : fields ≠ [])
    (hselect : q.select = levelItems fields name values) (hgroupBy : q.groupBy = fields.map .col)
    (apart : name ∉ fields) (all : q.distinct = false ∧ q.window = none)
    (h : t.output q none kept = .ok result) :
    ∃ owners, CountsOnce result fields name kept owners ∧ (q.orderBy = [] →
      ∀ j k, j < k → k < result.rows.length → owners.idxOf j < owners.idxOf k) := by
  obtain ⟨owners, groups, order, answer, unsorted⟩ :=
    showsGroups_of_output nonempty hselect hgroupBy apart all h
  exact ⟨_, answer.countsOnce, fun noKeys _ _ => answer.ordered (unsorted noKeys)⟩

end Table

end GridSql
