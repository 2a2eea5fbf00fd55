import GridSql.Proofs.Table.SelectList
import GridSql.Proofs.Table.Subquery
import Mathlib.Data.List.Dedup

/-!
# Counting rows and different cells

A query that only counts has one cell, the number of the rows that pass or of the different
cells that are not null among them. A number of rows is read from the cell as what it is.
-/

namespace GridSql

/-! ## Different values -/

namespace Aggregate

open Table

variable {seen vs : List Value}

theorem any_same_iff {v : Value} (exactSeen : HasContents seen)
    (exact : ∃ c, v.content? = some c) :
    seen.any (·.same v) = true ↔ v.content? ∈ contents seen := by
  obtain ⟨c, hc⟩ := exact
  simp only [List.any_eq_true, contents, List.mem_map]
  refine exists_congr fun w => and_congr_right fun hw => ?_
  obtain ⟨d, hd⟩ := exactSeen w hw
  rw [Value.same_iff hd hc, hd, hc, Option.some.injEq]

theorem nodup_unique (exactSeen : HasContents seen) (exact : HasContents vs)
    (nodup : (contents seen).Nodup) :
    (contents (unique seen vs)).Nodup := by
  induction vs generalizing seen with
  | nil =>
      rw [unique, contents, List.map_reverse, List.nodup_reverse]
      exact nodup
  | cons v vs ih =>
      obtain ⟨hv, hvs⟩ := List.forall_mem_cons.1 exact
      rw [unique]
      -- A value that is not dropped joins those that later ones are compared with.
      split
      · exact ih exactSeen hvs nodup
      · next absent =>
          refine ih (List.forall_mem_cons.2 ⟨hv, exactSeen⟩) hvs ?_
          exact List.nodup_cons.2 ⟨mt (any_same_iff exactSeen hv).2 absent, nodup⟩

theorem mem_contents_unique (exactSeen : HasContents seen) (exact : HasContents vs)
    {c : Option Content} :
    c ∈ contents (unique seen vs) ↔ c ∈ contents seen ∨ c ∈ contents vs := by
  induction vs generalizing seen with
  | nil => simp [unique, contents]
  | cons v vs ih =>
      obtain ⟨hv, hvs⟩ := List.forall_mem_cons.1 exact
      rw [unique]
      split
      · next present =>
          have present := (any_same_iff exactSeen hv).1 present
          rw [ih exactSeen hvs]
          simp only [contents, List.map_cons, List.mem_cons] at present ⊢
          constructor
          · rintro (h | h)
            · exact .inl h
            · exact .inr (.inr h)
          · rintro (h | rfl | h)
            · exact .inl h
            · exact .inl present
            · exact .inr h
      · rw [ih (List.forall_mem_cons.2 ⟨hv, exactSeen⟩) hvs]
        simp only [contents, List.map_cons, List.mem_cons]
        tauto

theorem length_unique (exact : HasContents vs) :
    (unique [] vs).length = (contents vs).dedup.length := by
  have none : HasContents [] := by simp [HasContents]
  have same : (contents (unique [] vs)).Perm (contents vs).dedup := by
    refine (List.perm_ext_iff_of_nodup (nodup_unique none exact .nil) (List.nodup_dedup _)).2 ?_
    intro c
    rw [mem_contents_unique none exact, List.mem_dedup]
    simp [contents]
  rw [← same.length_eq, contents, List.length_map]

end Aggregate

namespace Table

variable {t : Table} {field : String} {rows kept : List Row}

/-! ## Different contents -/

def different (contents : List (Option Content)) : List (Option Content) :=
  (contents.filter (· ≠ some .null)).dedup

section

variable {l l' : List (Option Content)}

theorem mem_different {c : Option Content} :
    c ∈ different l ↔ c ∈ l ∧ c ≠ some .null := by
  simp [different]

theorem length_different_eq (same : ∀ c, c ≠ some .null → (c ∈ l ↔ c ∈ l')) :
    (different l).length = (different l').length := by
  refine ((List.perm_ext_iff_of_nodup (List.nodup_dedup _) (List.nodup_dedup _)).2 ?_).length_eq
  intro c
  change c ∈ different l ↔ c ∈ different l'
  rw [mem_different, mem_different]
  exact and_congr_left (same c)

theorem different_sublist : (different l).Sublist l :=
  (List.dedup_sublist _).trans List.filter_sublist

/-- Contents are counted one by one where they are all different and none is null. -/
theorem length_different_eq_length_iff :
    (different l).length = l.length ↔ l.Nodup ∧ some .null ∉ l := by
  constructor
  · intro length
    have whole := different_sublist.eq_of_length length
    refine ⟨by rw [← whole]; exact List.nodup_dedup _, fun null => ?_⟩
    rw [← whole] at null
    exact (mem_different.1 null).2 rfl
  · rintro ⟨nodup, notNull⟩
    have all : l.filter (· ≠ some .null) = l :=
      List.filter_eq_self.2 fun c hc => decide_eq_true fun null => notNull (null ▸ hc)
    rw [different, all, List.dedup_eq_self.2 nodup]

theorem length_different_of_nodup (nodup : l.Nodup) :
    l.length = (different l).length + if some .null ∈ l then 1 else 0 := by
  have split := List.length_eq_length_filter_add (l := l) (· ≠ some .null)
  have nulls : (l.filter fun c => !decide (c ≠ some .null)).length = l.count (some .null) := by
    rw [List.count_eq_length_filter]
    refine congrArg List.length (List.filter_congr fun c _ => ?_)
    rw [Bool.eq_iff_iff]
    simp
  rw [different, List.dedup_eq_self.2 (nodup.filter _), ← nodup.count, ← nulls]
  exact split

end

/-! ## Counts of a group -/

/-- What the first row of a group holds in a column. -/
def heldBy (field : String) (members : List Row) : Option Content :=
  ((Scope.group members).cell field).content?

theorem content_eq_of_contents_eq {fields : List String} (hfield : field ∈ fields) {x y : Row}
    (h : contents (cells fields x) = contents (cells fields y)) :
    (x.cell field).content? = (y.cell field).content? := by
  simp only [contents, cells, List.map_map] at h
  exact List.map_inj_left.1 h field hfield

theorem heldBy_agrees {fields : List String} (hfield : field ∈ fields)
    (exact : ∀ row ∈ rows, HasContents (cells fields row)) {x : Row} (hx : x ∈ rows) :
    heldBy field (rows.filter (Row.agrees fields x)) = (x.cell field).content? := by
  have own : x ∈ rows.filter (Row.agrees fields x) :=
    List.mem_filter.2 ⟨hx, (agrees_iff (exact x hx) (exact x hx)).2 rfl⟩
  cases hmembers : rows.filter (Row.agrees fields x) with
  | nil => simp [hmembers] at own
  | cons first rest =>
      have hfirst : first ∈ rows.filter (Row.agrees fields x) := by
        rw [hmembers]
        exact List.mem_cons_self
      obtain ⟨hmem, agrees⟩ := List.mem_filter.1 hfirst
      exact content_eq_of_contents_eq hfield ((agrees_iff (exact x hx) (exact first hmem)).1 agrees)

theorem hasAggregate_countRows : Expr.countRows.hasAggregate = true := by
  decide +kernel

theorem hasAggregate_countDistinct (e : Expr) :
    (Expr.countDistinct e).hasAggregate = true := by
  have count : Aggregate.ofName? "COUNT" = some .count := Aggregate.ofName?_name .count
  simp [Expr.countDistinct, Expr.hasAggregate, count]

theorem eval_countDistinct (known : rows ≠ [] → (t.typeOf? field).isSome = true)
    (exact : ∀ row ∈ rows, ∃ c, (row.cell field).content? = some c) :
    t.eval (.group rows) (.countDistinct (.col field)) =
      .ok (.int (Int64.ofNat
        (different (rows.map fun row => (row.cell field).content?)).length)) := by
  have count : Aggregate.ofName? "COUNT" = some .count := Aggregate.ofName?_name .count
  have exactCells : HasContents ((rows.map (·.cell field)).filter (!·.isNull)) := by
    intro v hv
    obtain ⟨row, hrow, rfl⟩ := List.mem_map.1 (List.mem_of_mem_filter hv)
    exact exact row hrow
  -- Nulls are dropped before values are compared, and no other value holds null.
  have held : contents ((rows.map (·.cell field)).filter (!·.isNull)) =
      (rows.map fun row => (row.cell field).content?).filter (· ≠ some .null) := by
    rw [contents, List.filter_map, List.filter_map, List.map_map]
    refine congrArg (List.map _) (List.filter_congr fun row _ => ?_)
    simp [Value.content?_eq_null_iff, ← Value.isNull_iff]
  have notStar : (Expr.col field).isStar = false := rfl
  simp only [Expr.countDistinct, eval, count, notStar, Bool.and_false, Bool.false_eq_true,
    if_false, if_true, mapM_col known, bind, Except.bind]
  rw [Aggregate.apply, Aggregate.length_unique exactCells, held]
  rfl

/-! ## Queries that count -/

def countingQuery (source : Option TableRef) (filter : Option Expr) (number : Expr) : Query where
  select := [⟨number, none⟩]
  distinct := false
  source := source
  filter := filter
  groupBy := []
  having := none
  orderBy := []
  window := none

theorem output_countingQuery {source : Option TableRef} {filter : Option Expr} {number : Expr}
    (aggregated : number.hasAggregate = true) :
    t.output (countingQuery source filter number) none kept =
      (t.eval (.group kept) number).map fun v =>
        ⟨t.outputColumns [⟨number, none⟩], [[v]]⟩ := by
  have notStar : number.isStar = false := by
    cases number <;> first | rfl | cases aggregated
  have grouped : isGrouped (countingQuery source filter number) = true := by
    simp [isGrouped, countingQuery, aggregated]
  unfold output
  rw [if_pos grouped]
  cases heval : t.eval (.group kept) number <;>
    simp [countingQuery, groupRows, projectGroups, project, evalItems, evalAll, notStar, heval,
      sortRows, cut, Except.map, bind, Except.bind]

theorem count_countingQuery_iff {source : Option TableRef} {filter : Option Expr} {number : Expr}
    (aggregated : number.hasAggregate = true) {n : Nat} :
    t.count (countingQuery source filter number) = .ok n ↔
      t.checkSource source = .ok () ∧ ∃ kept v, t.matched filter = .ok kept ∧
        t.eval (.group kept) number = .ok v ∧ v.asDecimal?.bind Decimal.toCount? = some n := by
  unfold count
  rw [bind_ok_iff, run_eq rfl]
  simp only [bind_ok_iff, output_countingQuery aggregated, map_ok_iff]
  constructor
  · rintro ⟨_, ⟨⟨⟩, hsource, kept, hkept, v, hv, rfl⟩, h⟩
    refine ⟨hsource, kept, v, hkept, hv, ?_⟩
    cases hn : v.asDecimal?.bind Decimal.toCount? with
    | none => simp [hn] at h
    | some m => simpa [hn] using h
  · rintro ⟨hsource, kept, v, hkept, hv, hn⟩
    exact ⟨_, ⟨(), hsource, kept, hkept, v, hv, rfl⟩, by simp [hn]⟩

theorem toCount?_length {n : Nat} (h : n < 2 ^ 63) :
    (Value.int (Int64.ofNat n)).asDecimal?.bind Decimal.toCount? = some n := by
  have number : (Int64.ofNat n).toInt = n := Int64.toInt_ofNat_of_lt h
  have coeff : (Decimal.ofInt64 (Int64.ofNat n)).coeff = n := number
  have scale : (Decimal.ofInt64 (Int64.ofNat n)).scale = 0 := rfl
  have plain : (Decimal.ofInt64 (Int64.ofNat n)).minusZero = false := rfl
  have fits : n < twoTo 64 := h.trans (by decide)
  simp [Value.asDecimal?, Decimal.toCount?, coeff, scale, plain, tenTo, fits]

end Table

end GridSql
