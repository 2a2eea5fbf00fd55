import GridSql.Proofs.Table.ColumnOrder
import GridSql.Proofs.Table.Numbered

/-!
# Sorting some of the rows

Rows that are left out do not change the order of the others, as long as the sort keys are
compared transitively, and those that compare as equal keep the order they had. Keys are
compared transitively where the values in each position are well ordered, as they are if each
key is null or of one kind of contents in all rows.
-/

namespace GridSql

/-! ## Sorting what passes a test -/

section

variable {α : Type} {le : α → α → Bool}

/-- Lists with a test that all items of the front fail and all behind pass are cut where it changes. -/
theorem append_inj_of_test {p : α → Bool} {front front' back back' : List α}
    (h : front ++ back = front' ++ back') (hfront : ∀ a ∈ front, p a = false)
    (hfront' : ∀ a ∈ front', p a = false) (hback : ∀ a ∈ back, p a = true)
    (hback' : ∀ a ∈ back', p a = true) :
    front = front' ∧ back = back' := by
  have cut {l m : List α} (hl : ∀ a ∈ l, p a = false) (hm : ∀ a ∈ m, p a = true) :
      (l ++ m).filter p = m := by
    rw [List.filter_append, List.filter_eq_self.2 hm, List.filter_eq_nil_iff.2 (by simpa using hl),
      List.nil_append]
  have same : back = back' := by
    rw [← cut hfront hback, h, cut hfront' hback']
  subst same
  exact ⟨List.append_cancel_right h, rfl⟩

/-- An item is put behind those that it does not have to stand before. -/
theorem mergeSort_cons_split (trans : ∀ a b c, le a b → le b c → le a c)
    (total : ∀ a b, le a b || le b a) (a : α) (l : List α) :
    ∃ front back, (a :: l).mergeSort le = front ++ a :: back ∧ l.mergeSort le = front ++ back ∧
      (∀ b ∈ front, le a b = false) ∧ ∀ b ∈ back, le a b = true := by
  obtain ⟨front, back, h, h', before⟩ := List.mergeSort_cons trans total a l
  have sorted := List.pairwise_mergeSort trans total (a :: l)
  rw [h, List.pairwise_append] at sorted
  refine ⟨front, back, h, h', fun b hb => ?_, fun b hb => List.rel_of_pairwise_cons sorted.2.1 hb⟩
  simpa using before b hb

/-- What is sorted ascends, and where it compares as equal it stands as it did before. -/
theorem pairwise_mergeSort_stable (trans : ∀ a b c, le a b → le b c → le a c)
    (total : ∀ a b, le a b || le b a) {R : α → α → Prop} {l : List α} (before : l.Pairwise R) :
    (l.mergeSort le).Pairwise fun a b => le a b = true ∧ (le b a = true → R a b) := by
  induction before with
  | nil => simp
  | @cons a l first _ ih =>
      obtain ⟨front, back, h, h', hfront, hback⟩ := mergeSort_cons_split trans total a l
      have member {b : α} (hb : b ∈ front ++ back) : b ∈ l := by
        rw [← h'] at hb
        exact (List.mergeSort_perm l le).subset hb
      rw [h', List.pairwise_append] at ih
      rw [h, List.pairwise_append, List.pairwise_cons]
      refine ⟨ih.1, ⟨fun b hb => ?_, ih.2.1⟩, fun b hb c hc => ?_⟩
      · exact ⟨hback b hb, fun _ => first b (member (List.mem_append_right _ hb))⟩
      · rcases List.mem_cons.1 hc with rfl | hc
        · have least := total c b
          rw [hfront b hb, Bool.false_or] at least
          exact ⟨least, fun h => by rw [hfront b hb] at h; cases h⟩
        · exact ih.2.2 b hb c hc

theorem mergeSort_filter (trans : ∀ a b c, le a b → le b c → le a c)
    (total : ∀ a b, le a b || le b a) (keep : α → Bool) (l : List α) :
    (l.filter keep).mergeSort le = (l.mergeSort le).filter keep := by
  induction l with
  | nil => simp
  | cons a l ih =>
      obtain ⟨front, back, h, h', hfront, hback⟩ := mergeSort_cons_split trans total a l
      rw [h', List.filter_append] at ih
      rw [h, List.filter_append, List.filter_cons, List.filter_cons]
      by_cases kept : keep a = true
      · rw [if_pos kept, if_pos kept]
        obtain ⟨front', back', i, i', hfront', hback'⟩ :=
          mergeSort_cons_split trans total a (l.filter keep)
        obtain ⟨rfl, rfl⟩ := append_inj_of_test (i'.symm.trans ih) hfront'
          (fun b hb => hfront b (List.mem_of_mem_filter hb)) hback'
          (fun b hb => hback b (List.mem_of_mem_filter hb))
        exact i
      · rw [if_neg kept, if_neg kept]
        exact ih

/-- For the rows of one list the comparison has to be transitive on them only. -/
theorem mergeSort_filter_of_mem {l : List α}
    (trans : ∀ a ∈ l, ∀ b ∈ l, ∀ c ∈ l, le a b → le b c → le a c)
    (total : ∀ a b, le a b || le b a) (keep : α → Bool) :
    (l.filter keep).mergeSort le = (l.mergeSort le).filter keep := by
  let own (a b : {a // a ∈ l}) : Bool := le a.1 b.1
  have plain (m : List {a // a ∈ l}) :
      (m.mergeSort own).map Subtype.val = (m.map Subtype.val).mergeSort le :=
    List.map_mergeSort fun _ _ _ _ => rfl
  have own_trans (a b c : {a // a ∈ l}) : own a b → own b c → own a c :=
    trans a a.2 b b.2 c c.2
  have sorted := mergeSort_filter own_trans (fun a b => total a b) (fun a => keep a.1) l.attach
  have kept (m : List {a // a ∈ l}) :
      (m.filter fun a => keep a.1).map Subtype.val = (m.map Subtype.val).filter keep := by
    rw [List.filter_map]
    rfl
  have values := congrArg (List.map Subtype.val) sorted
  rw [plain, kept, kept, plain, List.attach_map_subtype_val] at values
  exact values

theorem pairwise_mergeSort_of_mem {R : α → α → Prop} {l : List α}
    (trans : ∀ a ∈ l, ∀ b ∈ l, ∀ c ∈ l, le a b → le b c → le a c)
    (total : ∀ a b, le a b || le b a) (before : l.Pairwise R) :
    (l.mergeSort le).Pairwise fun a b => le a b = true ∧ (le b a = true → R a b) := by
  let own (a b : {a // a ∈ l}) : Bool := le a.1 b.1
  have own_trans (a b c : {a // a ∈ l}) : own a b → own b c → own a c :=
    trans a a.2 b b.2 c c.2
  have before' : l.attach.Pairwise fun a b => R a.1 b.1 := by
    rwa [← List.pairwise_map, List.attach_map_subtype_val]
  have sorted := pairwise_mergeSort_stable own_trans (fun a b => total a b) before'
  have values : (l.attach.mergeSort own).map Subtype.val = (l.attach.map Subtype.val).mergeSort le :=
    List.map_mergeSort fun _ _ _ _ => rfl
  rw [List.attach_map_subtype_val] at values
  rw [← values, List.pairwise_map]
  exact sorted

end

namespace Table

/-! ## Comparing sort keys -/

variable {key : OrderKey} {keys : List OrderKey} {v w u : Value} {vs ws us : List Value}

theorem compareKey_swap (key : OrderKey) (v w : Value) :
    compareKey key w v = (compareKey key v w).swap := by
  have either (first : Bool) (o : Ordering) :
      (if first then o else o.swap) = (if first then o.swap else o).swap := by
    cases first <;> cases o <;> rfl
  unfold compareKey
  rw [Value.order?_swap v w]
  cases v.isNull <;> cases w.isNull <;> dsimp only
  · rcases v.order? w with _ | _ | _ | _ <;> split <;> rfl
  · exact either _ .lt
  · exact either _ .gt
  · rfl

theorem compareKeys_swap (keys : List OrderKey) (vs ws : List Value) :
    compareKeys keys ws vs = (compareKeys keys vs ws).swap := by
  induction keys generalizing vs ws with
  | nil => cases vs <;> cases ws <;> rfl
  | cons key keys ih =>
      cases vs with
      | nil => cases ws <;> rfl
      | cons v vs =>
          cases ws with
          | nil => rfl
          | cons w ws =>
              rw [compareKeys, compareKeys, Ordering.swap_then, ih vs ws, compareKey_swap key v w]

theorem compareKeys_total (keys : List OrderKey) (vs ws : List Value) :
    (compareKeys keys vs ws != .gt || compareKeys keys ws vs != .gt) = true := by
  rw [compareKeys_swap keys vs ws]
  cases compareKeys keys vs ws <;> rfl

/-- Whether the sort keys of some rows are compared transitively. -/
def SortsConsistently (keys : List OrderKey) (rows : List (List Value)) : Prop :=
  ∀ a ∈ rows, ∀ b ∈ rows, ∀ c ∈ rows, compareKeys keys a b ≠ .gt →
    compareKeys keys b c ≠ .gt → compareKeys keys a c ≠ .gt

theorem SortsConsistently.of_perm {rows rows' : List (List Value)}
    (h : SortsConsistently keys rows) (perm : rows'.Perm rows) : SortsConsistently keys rows' :=
  fun a ha b hb c hc => h a (perm.subset ha) b (perm.subset hb) c (perm.subset hc)

/-! ## Output rows that are sorted -/

def sortBeside {α : Type} (keys : List OrderKey) (rows : List (α × Projected)) :
    List (α × Projected) :=
  if keys.isEmpty then rows
  else rows.mergeSort fun a b => compareKeys keys a.2.keys b.2.keys != .gt

variable {α : Type} {rows : List (α × Projected)}

theorem sortRows_map_snd (keys : List OrderKey) (rows : List (α × Projected)) :
    sortRows keys (rows.map Prod.snd) = (sortBeside keys rows).map Prod.snd := by
  unfold sortRows sortBeside
  split
  · rfl
  · exact (List.map_mergeSort (f := Prod.snd) fun _ _ _ _ => rfl).symm

theorem sortBeside_perm (keys : List OrderKey) (rows : List (α × Projected)) :
    (sortBeside keys rows).Perm rows := by
  unfold sortBeside
  split
  · exact .refl _
  · exact List.mergeSort_perm _ _

theorem SortsConsistently.trans (consistent : SortsConsistently keys (rows.map (·.2.keys))) :
    ∀ a ∈ rows, ∀ b ∈ rows, ∀ c ∈ rows, (compareKeys keys a.2.keys b.2.keys != .gt) = true →
      (compareKeys keys b.2.keys c.2.keys != .gt) = true →
        (compareKeys keys a.2.keys c.2.keys != .gt) = true := by
  simp only [bne_iff_ne]
  exact fun a ha b hb c hc => consistent _ (List.mem_map_of_mem ha) _ (List.mem_map_of_mem hb) _
    (List.mem_map_of_mem hc)

theorem sortBeside_filter (consistent : SortsConsistently keys (rows.map (·.2.keys)))
    (keep : α × Projected → Bool) :
    sortBeside keys (rows.filter keep) = (sortBeside keys rows).filter keep := by
  unfold sortBeside
  split
  · rfl
  · exact mergeSort_filter_of_mem consistent.trans (fun _ _ => compareKeys_total _ _ _) keep

/-- Sorted rows ascend, and those with keys that compare as equal stand as they did before. -/
theorem sortBeside_stable (consistent : SortsConsistently keys (rows.map (·.2.keys)))
    {R : α × Projected → α × Projected → Prop} (before : rows.Pairwise R) :
    (sortBeside keys rows).Pairwise fun a b =>
      compareKeys keys a.2.keys b.2.keys = .lt ∨
        compareKeys keys a.2.keys b.2.keys = .eq ∧ R a b := by
  unfold sortBeside
  split
  · next unsorted =>
      obtain rfl := List.isEmpty_iff.1 unsorted
      exact before.imp fun h => .inr ⟨by simp [compareKeys], h⟩
  · refine (pairwise_mergeSort_of_mem consistent.trans (fun _ _ => compareKeys_total _ _ _)
      before).imp fun {a b} h => ?_
    rw [compareKeys_swap keys a.2.keys b.2.keys] at h
    revert h
    cases compareKeys keys a.2.keys b.2.keys <;> simp

/-! ## Groups that pass among all groups -/

theorem exists_pairs_of_forall₂ {β γ : Type} {R : β → γ → Prop} {bs : List β} {cs : List γ}
    (h : List.Forall₂ R bs cs) :
    ∃ pairs : List (β × γ), bs = pairs.map Prod.fst ∧ cs = pairs.map Prod.snd ∧
      ∀ pair ∈ pairs, R pair.1 pair.2 := by
  induction h with
  | nil => exact ⟨[], rfl, rfl, by simp⟩
  | @cons b c bs cs hbc _ ih =>
      obtain ⟨pairs, rfl, rfl, hpairs⟩ := ih
      exact ⟨(b, c) :: pairs, rfl, rfl, List.forall_mem_cons.2 ⟨hbc, hpairs⟩⟩

variable {t : Table} {q : Query} {having_ : Option Expr} {kept : List Row}
  {result all : ResultSet}

/-- The groups that pass a HAVING clause are projected as they are among all groups. -/
theorem projectGroups_passing {groups : List (List Row)} {ps all : List Projected}
    (h : t.projectGroups q having_ groups = .ok ps)
    (h' : t.projectGroups { q with having := none } none groups = .ok all) :
    ∃ rows : List (List Row × Projected), groups = rows.map Prod.fst ∧ all = rows.map Prod.snd ∧
      ps = (rows.filter fun row => t.passesHaving having_ row.1).map Prod.snd ∧
      (∀ row ∈ rows, t.project q (.group row.1) = .ok row.2) ∧
      ∀ members ∈ groups, ∀ e ∈ having_, ∃ b, t.test (.group members) e = .ok b := by
  obtain ⟨tested, passing⟩ := projectGroups_ok_iff.1 h
  obtain ⟨-, every⟩ := projectGroups_ok_iff.1 h'
  rw [filter_passesHaving_none] at every
  obtain ⟨rows, hrows, rfl, projects⟩ := exists_pairs_of_forall₂ every
  have projected : ∀ row ∈ rows, t.project q (.group row.1) = .ok row.2 := projects
  refine ⟨rows, hrows, rfl, ?_, projected, tested⟩
  rw [hrows, List.filter_map, List.forall₂_map_left_iff] at passing
  have same := map_eq_of_forall₂ (f := Prod.snd) (g := id) (forall₂_imp_of_mem passing
    fun row hrow p _ hp =>
      Except.ok.inj (hp.symm.trans (projected row (List.mem_of_mem_filter hrow))))
  rw [List.map_id] at same
  exact same

/--
A HAVING clause leaves those rows of an output by groups whose groups pass it. They stand in
the order that they have among all rows if the sort keys are compared transitively.
-/
theorem output_passing (grouped : isGrouped { q with having := none } = true)
    (plain : q.distinct = false ∧ q.window = none)
    (h : t.output q having_ kept = .ok result)
    (h' : t.output { q with having := none } none kept = .ok all) :
    ∃ (groups : List (List Row)) (shown : List (List Row × Projected)),
      t.groupRows q.groupBy kept = .ok groups ∧
      (∀ members ∈ groups, ∀ e ∈ having_, ∃ b, t.test (.group members) e = .ok b) ∧
      (shown.map Prod.fst).Perm groups ∧
      (∀ row ∈ shown, t.project q (.group row.1) = .ok row.2) ∧
      result.columns = t.outputColumns q.select ∧ all.columns = t.outputColumns q.select ∧
      all.rows = shown.map (·.2.values) ∧
      result.rows.Perm
        ((shown.filter fun row => t.passesHaving having_ row.1).map (·.2.values)) ∧
      (SortsConsistently q.orderBy (shown.map (·.2.keys)) →
        result.rows = (shown.filter fun row => t.passesHaving having_ row.1).map (·.2.values)) := by
  have grouped' : isGrouped q = true := by
    simp only [isGrouped, Option.isSome_none, Bool.or_false, Bool.or_eq_true] at grouped ⊢
    tauto
  rw [output, if_pos grouped'] at h
  rw [output, if_pos grouped] at h'
  obtain ⟨groups, hgroups, h⟩ := bind_ok_iff.1 h
  obtain ⟨ps, hps, h⟩ := bind_ok_iff.1 h
  obtain ⟨groups', hgroups', h'⟩ := bind_ok_iff.1 h'
  obtain ⟨ps', hps', h'⟩ := bind_ok_iff.1 h'
  obtain rfl := Except.ok.inj (hgroups.symm.trans hgroups')
  obtain ⟨rows, hrows, rfl, rfl, projected, tested⟩ := projectGroups_passing hps hps'
  let keep (row : List Row × Projected) : Bool := t.passesHaving having_ row.1
  cases h
  cases h'
  have values (rows : List (List Row × Projected)) :
      (sortRows q.orderBy (rows.map Prod.snd)).map (·.values) =
        (sortBeside q.orderBy rows).map (·.2.values) := by
    rw [sortRows_map_snd, List.map_map]
    rfl
  simp only [plain, cut, Bool.false_eq_true, if_false, values]
  have perm := sortBeside_perm q.orderBy rows
  refine ⟨groups, sortBeside q.orderBy rows, hgroups, tested, ?_, ?_, trivial, trivial, rfl, ?_,
    fun consistent => ?_⟩
  · rw [hrows]
    exact perm.map _
  · exact fun row hrow => projected row (perm.subset hrow)
  · exact ((sortBeside_perm _ _).trans (perm.filter keep).symm).map _
  · exact congrArg (List.map _) (sortBeside_filter (consistent.of_perm (perm.map _).symm) keep)

/-! ## One sort key behind the other -/

open Value

variable {vss : List (List Value)}

theorem then_ne_gt_iff {o o' : Ordering} :
    o.then o' ≠ .gt ↔ o ≠ .gt ∧ (o = .eq → o' ≠ .gt) := by
  cases o <;> simp

theorem compareKey_eq_of_both (h : compareKey key v w ≠ .gt) (h' : compareKey key w v ≠ .gt) :
    compareKey key v w = .eq := by
  rw [compareKey_swap key v w] at h'
  revert h h'
  cases compareKey key v w <;> simp

/-! ## Columns that are well ordered -/

/-- Among values that are well ordered a sort key is compared transitively. -/
theorem compareKey_trans {values : List Value} (h : WellOrdered values) (hv : v ∈ values)
    (hw : w ∈ values) (hu : u ∈ values) (hvw : compareKey key v w ≠ .gt)
    (hwu : compareKey key w u ≠ .gt) :
    compareKey key v u ≠ .gt := by
  have order {x y : Value} (hx : x ∈ values) (hy : y ∈ values) :
      (x.order? y).getD .eq ≠ .gt ↔ x.order? y ≠ some .gt := by
    obtain ⟨o, ho⟩ := Option.isSome_iff_exists.1 (h.defined x hx y hy)
    simp [ho]
  have back {x y : Value} : ((x.order? y).getD .eq).swap = (y.order? x).getD .eq := by
    rw [order?_swap x y]
    cases x.order? y <;> rfl
  have ascending := h.transitive v hv w hw u hu
  have descending := h.transitive u hu w hw v hv
  unfold compareKey at *
  cases nv : v.isNull <;> cases nw : w.isNull <;> cases nu : u.isNull <;>
    simp only [nv, nw, nu] at hvw hwu ⊢
  case false.false.false =>
      by_cases turned : (key.direction == some .desc) = true
      · rw [if_pos turned, back, order hw hv] at hvw
        rw [if_pos turned, back, order hu hw] at hwu
        rw [if_pos turned, back, order hu hv]
        exact descending hwu hvw
      · rw [if_neg turned, order hv hw] at hvw
        rw [if_neg turned, order hw hu] at hwu
        rw [if_neg turned, order hv hu]
        exact ascending hvw hwu
  -- A null stands before all other cells or behind them.
  case false.true.false =>
      have both {first : Bool} (h : (if first then Ordering.gt else .lt) ≠ .gt)
          (h' : (if first then Ordering.lt else .gt) ≠ .gt) : False := by
        cases first <;> simp at h h'
      exact (both hvw hwu).elim
  all_goals first | exact hvw | exact hwu | simp

theorem compareKeys_trans {columns : List (List Value)}
    (wellOrdered : ∀ column ∈ columns, WellOrdered column)
    (hvs : List.Forall₂ (fun column v => v ∈ column) columns vs)
    (hws : List.Forall₂ (fun column v => v ∈ column) columns ws)
    (hus : List.Forall₂ (fun column v => v ∈ column) columns us)
    (hvw : compareKeys keys vs ws ≠ .gt) (hwu : compareKeys keys ws us ≠ .gt) :
    compareKeys keys vs us ≠ .gt := by
  induction keys generalizing columns vs ws us with
  | nil => simp [compareKeys]
  | cons key keys ih =>
      cases hvs with
      | nil => simp [compareKeys]
      | @cons column v _ vs hv hvs =>
          cases hws with
          | @cons _ w _ ws hw hws =>
              cases hus with
              | @cons _ u _ us hu hus =>
                  obtain ⟨own, others⟩ := List.forall_mem_cons.1 wellOrdered
                  rw [compareKeys, then_ne_gt_iff] at hvw hwu ⊢
                  refine ⟨compareKey_trans own hv hw hu hvw.1 hwu.1, fun same => ?_⟩
                  -- A key that the outer two share is also that of the row between them.
                  have back : compareKey key u v ≠ .gt := by
                    rw [compareKey_swap, same]
                    decide
                  have first := compareKey_eq_of_both hvw.1
                    (compareKey_trans own hw hu hv hwu.1 back)
                  have second := compareKey_eq_of_both hwu.1
                    (compareKey_trans own hu hv hw back hvw.1)
                  exact ih others hvs hws hus (hvw.2 first) (hwu.2 second)

theorem sortsConsistently_of_wellOrdered {columns : List (List Value)}
    (wellOrdered : ∀ column ∈ columns, WellOrdered column)
    (rows : ∀ vs ∈ vss, List.Forall₂ (fun column v => v ∈ column) columns vs) :
    SortsConsistently keys vss :=
  fun a ha b hb c hc => compareKeys_trans wellOrdered (rows a ha) (rows b hb) (rows c hc)

def Comparable (v w : Value) : Prop :=
  (v.order? w).isSome = true

def NoFloats (vs : List Value) : Prop :=
  ∀ v ∈ vs, ∀ x, v ≠ .float x

/-- Rows without floating-point numbers that can be compared are sorted consistently. -/
theorem sortsConsistently_of_comparable (noFloats : ∀ vs ∈ vss, NoFloats vs)
    (comparable : ∀ vs ∈ vss, ∀ ws ∈ vss, List.Forall₂ Comparable vs ws) :
    SortsConsistently keys vss := by
  cases vss with
  | nil => exact fun a ha => by cases ha
  | cons first rest =>
      let column (i : Nat) : List Value := (first :: rest).filterMap (·[i]?)
      have wellOrdered : ∀ values ∈ (List.range first.length).map column, WellOrdered values := by
        refine List.forall_mem_map.2 fun i _ => AllComparable.wellOrdered ⟨?_, ?_⟩
        · intro v hv
          obtain ⟨vs, hvs, at_⟩ := List.mem_filterMap.1 hv
          exact noFloats vs hvs v (List.mem_of_getElem? at_)
        · intro v hv w hw
          obtain ⟨vs, hvs, at_⟩ := List.mem_filterMap.1 hv
          obtain ⟨ws, hws, at'⟩ := List.mem_filterMap.1 hw
          obtain ⟨w', hw', ordered⟩ := exists_getElem?_of_forall₂ (comparable vs hvs ws hws) at_
          obtain rfl := Option.some.inj (hw'.symm.trans at')
          exact ordered
      refine sortsConsistently_of_wellOrdered wellOrdered fun vs hvs => ?_
      have length := (comparable first List.mem_cons_self vs hvs).length_eq
      rw [List.forall₂_map_left_iff, length]
      refine (forall₂_range vs).imp fun i v hv => ?_
      exact List.mem_filterMap.2 ⟨vs, hvs, hv⟩

/-! ## Keys of one kind -/

def IsOfKind (kind : Nat) (v : Value) : Prop :=
  v.isNull = true ∨ ∃ c, v.content? = some c ∧ c.kind = kind

theorem IsOfKind.exists_content {kind : Nat} (h : IsOfKind kind v) :
    ∃ c, v.content? = some c ∧ (c = .null ∨ c.kind = kind) := by
  rcases h with null | ⟨c, hc, hkind⟩
  · exact ⟨.null, (content?_eq_null_iff v).2 ((isNull_iff v).1 null), .inl rfl⟩
  · exact ⟨c, hc, .inr hkind⟩

theorem comparable_of_isOfKind {kind : Nat} (hv : IsOfKind kind v) (hw : IsOfKind kind w) :
    Comparable v w := by
  obtain ⟨a, ha, null | hkind⟩ := hv.exists_content
  · obtain ⟨b, hb, -⟩ := hw.exists_content
    exact (order?_isSome_iff ha hb).2 (.inl null)
  · obtain ⟨b, hb, null | hkind'⟩ := hw.exists_content
    · exact (order?_isSome_iff ha hb).2 (.inr (.inl null))
    · exact (order?_isSome_iff ha hb).2 (.inr (.inr (hkind.trans hkind'.symm)))

/-- Rows whose sort keys are each null or of one kind are sorted consistently. -/
theorem sortsConsistently_of_kinds {kinds : List Nat}
    (h : ∀ vs ∈ vss, List.Forall₂ IsOfKind kinds vs) :
    SortsConsistently keys vss := by
  refine sortsConsistently_of_comparable (fun vs hvs v hv x => ?_) fun vs hvs ws hws => ?_
  · rintro rfl
    obtain ⟨kind, -, hkind⟩ := exists_of_mem_right (h vs hvs) hv
    obtain ⟨c, hc, -⟩ := hkind.exists_content
    cases hc
  · exact forall₂_comp (h vs hvs).flip (h ws hws) fun _ _ _ _ => comparable_of_isOfKind

end Table

end GridSql
