import GridSql.Proofs.Decimal.Sums
import GridSql.Proofs.Table.Distinct
import Mathlib.Tactic.NormNum

/-!
# Aggregates of rows in another order

Counts, least and greatest values of a column of numbers do not depend on the order of the
rows of a group. Sums are added up from the first row on, so they do not either as long as
no addition rounds or overflows. Where the magnitudes of the cells fit together into the bound
of a decimal this is so in every order; otherwise one order may lose places that another one
keeps, or overflow where another one does not.
-/

namespace GridSql

open Decimal

namespace Value

/-- Whether a cell is null, an integer or a decimal. -/
def IsAmount : Value → Prop
  | null | int _ | decimal _ => True
  | _ => False

variable {v w : Value}

theorem IsAmount.exists_number (h : v.IsAmount) (notNull : v.isNull = false) :
    ∃ d, v.asDecimal? = some d ∧ v.content? = some (.number d.toRat) := by
  cases v with
  | int n => exact ⟨_, rfl, by rw [content?, toRat_ofInt64]⟩
  | decimal d => exact ⟨d, rfl, rfl⟩
  | null => cases notNull
  | _ => exact h.elim

theorem order?_eq_of_content {c : Content} (hv : v.content? = some c) (hw : w.content? = some c) :
    v.order? w = some .eq :=
  beq_iff_eq.1 ((same_iff hv hw).2 rfl)

end Value

namespace Aggregate

open Table

/-! ## The least and the greatest value -/

section

variable {wanted : Ordering} {vs ws : List Value}

/-- Whether all values are numbers other than doubles. -/
def AreNumbers (vs : List Value) : Prop :=
  ∀ v ∈ vs, ∃ q, v.content? = some (.number q)

theorem AreNumbers.hasContents (h : AreNumbers vs) : HasContents vs := by
  intro v hv
  obtain ⟨q, hq⟩ := h v hv
  exact ⟨_, hq⟩

theorem compare_ne_trans (strict : wanted ≠ .eq) {p q r : ℚ} (h : compare p q ≠ wanted)
    (h' : compare q r ≠ wanted) :
    compare p r ≠ wanted := by
  cases wanted with
  | eq => exact absurd rfl strict
  | lt =>
      rw [Ne, compare_lt_iff_lt, not_lt] at *
      exact h'.trans h
  | gt =>
      rw [Ne, compare_gt_iff_gt, not_lt] at *
      exact h.trans h'

theorem compare_ne_of_eq (strict : wanted ≠ .eq) {p q : ℚ} (h : compare p q = wanted) :
    compare q p ≠ wanted := by
  have back : compare q p = (compare p q).swap := Std.OrientedCmp.eq_swap
  rw [back, h]
  cases wanted <;> first | exact absurd rfl strict | decide

/-- What a fold for an extreme value ends with, from the values that it has seen. -/
theorem foldl_extreme (strict : wanted ≠ .eq) {best : Value} (hall : AreNumbers (best :: vs)) :
    ∃ p, (vs.foldl (fun best w => if w.order? best == some wanted then w else best)
        best).content? = some (.number p) ∧ some (.number p) ∈ contents (best :: vs) ∧
      ∀ r, some (.number r) ∈ contents (best :: vs) → compare r p ≠ wanted := by
  induction vs generalizing best with
  | nil =>
      obtain ⟨q, hq⟩ := hall best List.mem_cons_self
      refine ⟨q, hq, by simp [contents, hq], fun r hr => ?_⟩
      have same : r = q := by simpa [contents, hq] using hr
      rw [same, compare_eq_iff_eq.2 rfl]
      exact strict.symm
  | cons w vs ih =>
      obtain ⟨⟨q, hq⟩, hw, hvs⟩ := by simpa only [AreNumbers, List.forall_mem_cons] using hall
      obtain ⟨r, hr⟩ := hw
      rw [List.foldl_cons, Value.order?_number hr hq]
      by_cases better : compare r q = wanted
      · have next : AreNumbers (w :: vs) := List.forall_mem_cons.2 ⟨⟨r, hr⟩, hvs⟩
        obtain ⟨p, hp, mem, least⟩ := ih next
        rw [if_pos (by simp [better])]
        refine ⟨p, hp, by simp only [contents, List.map_cons] at mem ⊢; exact .tail _ mem, ?_⟩
        intro s hs
        rcases List.mem_cons.1 hs with first | rest
        · obtain rfl : s = q := by simpa [hq] using first
          refine compare_ne_trans strict (compare_ne_of_eq strict better) (least r ?_)
          simp [contents, hr]
        · exact least s rest
      · have next : AreNumbers (best :: vs) := List.forall_mem_cons.2 ⟨⟨q, hq⟩, hvs⟩
        obtain ⟨p, hp, mem, least⟩ := ih next
        rw [if_neg (by simp [better])]
        simp only [contents, List.map_cons, List.mem_cons] at mem least ⊢
        refine ⟨p, hp, by tauto, fun s hs => ?_⟩
        rcases hs with first | second | rest
        · exact least s (.inl first)
        · obtain rfl : s = r := by simpa [hr] using second
          exact compare_ne_trans strict better (least q (.inl hq.symm))
        · exact least s (.inr rest)

theorem extreme_perm (strict : wanted ≠ .eq) (numbers : AreNumbers vs) (perm : vs.Perm ws) :
    (extreme wanted vs).order? (extreme wanted ws) = some .eq := by
  cases vs with
  | nil =>
      rw [List.nil_perm.1 perm]
      rfl
  | cons v vs =>
      cases ws with
      | nil => exact absurd perm List.not_perm_cons_nil
      | cons w ws =>
          have numbers' : AreNumbers (w :: ws) := fun u hu => numbers u (perm.mem_iff.2 hu)
          have seen : (contents (v :: vs)).Perm (contents (w :: ws)) := perm.map _
          obtain ⟨p, hp, mem, least⟩ := foldl_extreme strict numbers
          obtain ⟨p', hp', mem', least'⟩ := foldl_extreme strict numbers'
          have below := least p' (seen.mem_iff.2 mem')
          have above := least' p (seen.mem_iff.1 mem)
          have same : p = p' := by
            have back : compare p' p = (compare p p').swap := Std.OrientedCmp.eq_swap
            rw [back] at below
            rw [← compare_eq_iff_eq]
            revert below above strict
            cases wanted <;> cases compare p p' <;> simp
          exact Value.order?_eq_of_content hp (same ▸ hp')

end

/-! ## Sums -/

section

variable {a : Aggregate} {vs ws : List Value}

def numbers (vs : List Value) : List ℚ :=
  vs.filterMap Value.number?

/-- Values are added up exactly if none of the additions has to round. -/
theorem total_exact {start : Decimal} (amounts : ∀ v ∈ vs, ∃ d, v.asDecimal? = some d)
    (exact : ∀ front, front <+: numbers vs → IsDecimal (start.toRat + front.sum)) :
    ∃ z, total a start vs = .ok z ∧ z.toRat = start.toRat + (numbers vs).sum := by
  induction vs generalizing start with
  | nil => exact ⟨start, rfl, by simp [numbers]⟩
  | cons v vs ih =>
      obtain ⟨⟨d, hd⟩, hvs⟩ := List.forall_mem_cons.1 amounts
      have first : numbers (v :: vs) = d.toRat :: numbers vs := by
        simp [numbers, Value.number?, hd]
      have single : [d.toRat] <+: numbers (v :: vs) := by simp [first]
      obtain ⟨next, hnext, number⟩ := add?_exact (by simpa using exact _ single)
      have rest : ∀ front, front <+: numbers vs → IsDecimal (next.toRat + front.sum) := by
        intro front hfront
        have longer := exact (d.toRat :: front) (by simpa [first] using hfront)
        rwa [List.sum_cons, ← add_assoc, ← number] at longer
      obtain ⟨z, hz, sum⟩ := ih hvs rest
      refine ⟨z, by rw [total, hd]; simpa [hnext] using hz, ?_⟩
      rw [sum, first, List.sum_cons, number, add_assoc]

theorem total_of_exactSums (amounts : ∀ v ∈ vs, ∃ d, v.asDecimal? = some d)
    (exact : ExactSums (numbers vs)) :
    ∃ z, total a Decimal.zero vs = .ok z ∧ z.toRat = (numbers vs).sum := by
  have zero : Decimal.zero.toRat = 0 := toRat_of_isZero (by decide)
  have partial_ : ∀ front, front <+: numbers vs →
      IsDecimal (Decimal.zero.toRat + front.sum) := by
    intro front hfront
    rw [zero, zero_add]
    exact exact front hfront
  simpa [zero] using total_exact (a := a) amounts partial_

end

/-! ## Values in another order -/

section

variable {vs ws : List Value} (perm : vs.Perm ws)

include perm

/-- The same number of values is counted in another order, and of different ones, too. -/
theorem apply_count_perm (distinct : Bool) (exact : HasContents vs) :
    ∃ n : Int64, apply .count (if distinct then unique [] vs else vs) = .ok (.int n) ∧
      apply .count (if distinct then unique [] ws else ws) = .ok (.int n) := by
  have exact' : HasContents ws := fun w hw => exact w (perm.mem_iff.2 hw)
  have different : (unique [] vs).length = (unique [] ws).length := by
    have seen : (contents vs).Perm (contents ws) := perm.map _
    rw [length_unique exact, length_unique exact', (seen.dedup).length_eq]
  cases distinct with
  | true => exact ⟨_, rfl, by rw [apply, if_pos rfl, ← different]; rfl⟩
  | false => exact ⟨_, rfl, by rw [apply, if_neg Bool.false_ne_true, ← perm.length_eq]; rfl⟩

theorem total_perm (a : Aggregate) (amounts : ∀ v ∈ vs, ∃ d, v.asDecimal? = some d)
    (exact : ExactSums (numbers vs)) (exact' : ExactSums (numbers ws)) :
    ∃ x y, total a Decimal.zero vs = .ok x ∧ total a Decimal.zero ws = .ok y ∧
      x.toRat = y.toRat := by
  have amounts' : ∀ w ∈ ws, ∃ d, w.asDecimal? = some d := fun w hw =>
    amounts w (perm.mem_iff.2 hw)
  obtain ⟨x, hx, sum⟩ := total_of_exactSums (a := a) amounts exact
  obtain ⟨y, hy, sum'⟩ := total_of_exactSums (a := a) amounts' exact'
  refine ⟨x, y, hx, hy, ?_⟩
  rw [sum, sum']
  exact (perm.filterMap _).sum_eq

/-- An aggregate gives values that compare equal, or fails, in both orders. -/
theorem apply_sum_perm (a : Aggregate) (isSum : a = .sum ∨ a = .avg)
    (amounts : ∀ v ∈ vs, ∃ d, v.asDecimal? = some d) (exact : ExactSums (numbers vs))
    (exact' : ExactSums (numbers ws)) :
    Alike (fun v w => v.order? w = some .eq) (a.apply vs) (a.apply ws) := by
  have empty : ws.isEmpty = vs.isEmpty := by
    rw [Bool.eq_iff_iff, List.isEmpty_iff, List.isEmpty_iff]
    exact ⟨fun h => List.perm_nil.1 (h ▸ perm), fun h => List.nil_perm.1 (h ▸ perm)⟩
  obtain ⟨x, y, hx, hy, same⟩ := total_perm perm a amounts exact exact'
  have decimals {x y : Decimal} (h : x.toRat = y.toRat) :
      (Value.decimal x).order? (.decimal y) = some .eq :=
    Value.order?_eq_of_content rfl (by rw [Value.content?, h])
  rcases isSum with rfl | rfl
  · simp only [apply, empty]
    cases vs.isEmpty with
    | true => exact .ok rfl
    | false =>
        simp only [hx, hy]
        exact .ok (decimals same)
  · simp only [apply, empty]
    cases vs.isEmpty with
    | true => exact .ok rfl
    | false =>
        simp only [Bool.false_eq_true, if_false, hx, hy, bind, Except.bind,
          div?_eq_of_toRat_eq same, perm.length_eq]
        cases y.div? (ofInt64 (Int64.ofNat ws.length)) with
        | none => exact .error _
        | some d => exact .ok (decimals rfl)

end

end Aggregate

namespace Table

open Aggregate

variable {t : Table} {field : String} {rows rows' : List Row}

/-! ## Groups in another order -/

/-- Whether two outcomes are values that compare equal or are both failures. -/
def agree : Except SourceError Value → Except SourceError Value → Bool
  | .ok v, .ok w => v.order? w == some .eq
  | .error _, .error _ => true
  | _, _ => false

theorem agree_of_alike {x y : Except SourceError Value}
    (h : Alike (fun v w => v.order? w = some .eq) x y) :
    agree x y = true := by
  cases h with
  | error e => rfl
  | ok h => exact beq_iff_eq.2 h

/-- Whether an expression agrees on the rows of a group in two orders. -/
def AgreesOn (t : Table) (rows rows' : List Row) (e : Expr) : Prop :=
  agree (t.eval (.group rows) e) (t.eval (.group rows') e) = true

def present (field : String) (rows : List Row) : List Value :=
  (rows.map (·.cell field)).filter (!·.isNull)

theorem eval_call_col {a : Aggregate} {name : String} (hname : Aggregate.ofName? name = some a)
    (known : rows ≠ [] → (t.typeOf? field).isSome = true) (distinct : Bool) :
    t.eval (.group rows) (.call name [.col field] distinct) = lift (a.apply
      (if distinct then unique [] (present field rows) else present field rows)) := by
  have notStar : (Expr.col field).isStar = false := rfl
  simp only [eval, hname, notStar, Bool.and_false, Bool.false_eq_true, if_false, mapM_col known]
  rfl

/-- An aggregate of a column agrees where it agrees on the cells that are not null. -/
theorem agreesOn_aggregate (perm : rows.Perm rows') {a : Aggregate} {name : String}
    (hname : Aggregate.ofName? name = some a) (distinct : Bool)
    (h : Alike (fun v w => v.order? w = some .eq)
      (a.apply (if distinct then unique [] (present field rows) else present field rows))
      (a.apply (if distinct then unique [] (present field rows') else present field rows'))) :
    t.AgreesOn rows rows' (.call name [.col field] distinct) := by
  refine agree_of_alike ?_
  by_cases known : rows ≠ [] → (t.typeOf? field).isSome = true
  · have known' : rows' ≠ [] → (t.typeOf? field).isSome = true := by
      rintro nonempty
      exact known fun empty => nonempty (List.nil_perm.1 (empty ▸ perm))
    rw [eval_call_col hname known, eval_call_col hname known']
    generalize a.apply _ = x at h ⊢
    generalize a.apply _ = y at h ⊢
    cases h with
    | error e => exact .error _
    | ok h => exact .ok h
  · -- A column that the table does not have fails on the first row.
    obtain ⟨nonempty, unknown⟩ := Classical.not_imp.1 known
    have fails (row : Row) : t.eval (.row row) (.col field) = .error (.unknownColumn field) := by
      rw [Expr.col, eval, if_neg unknown]
    have notStar : (Expr.col field).isStar = false := rfl
    obtain ⟨row, rest, rfl⟩ := List.exists_cons_of_ne_nil nonempty
    obtain ⟨row', rest', rfl⟩ := List.exists_cons_of_ne_nil fun empty =>
      List.cons_ne_nil row rest (List.perm_nil.1 (empty ▸ perm))
    simp only [eval, hname, notStar, Bool.and_false, Bool.false_eq_true, if_false,
      List.mapM_cons, fails]
    exact .error _

section

variable (amounts : ∀ row ∈ rows, (row.cell field).IsAmount)

include amounts

theorem exists_number_of_present {v : Value} (hv : v ∈ present field rows) :
    ∃ d, v.asDecimal? = some d ∧ v.content? = some (.number d.toRat) := by
  obtain ⟨hcell, notNull⟩ := List.mem_filter.1 hv
  obtain ⟨row, hrow, rfl⟩ := List.mem_map.1 hcell
  exact (amounts row hrow).exists_number (by simpa using notNull)

theorem areNumbers_present : AreNumbers (present field rows) := by
  intro v hv
  obtain ⟨d, -, hd⟩ := exists_number_of_present amounts hv
  exact ⟨_, hd⟩

theorem asDecimal?_present : ∀ v ∈ present field rows, ∃ d, v.asDecimal? = some d := by
  intro v hv
  obtain ⟨d, hd, -⟩ := exists_number_of_present amounts hv
  exact ⟨d, hd⟩

end

theorem present_perm (perm : rows.Perm rows') :
    (present field rows).Perm (present field rows') :=
  (perm.map _).filter _

/-- Counts and extreme values of a column of amounts agree in every order. -/
theorem agreesOn_of_perm (perm : rows.Perm rows')
    (amounts : ∀ row ∈ rows, (row.cell field).IsAmount) :
    ∀ e ∈ [Expr.countRows, .count (.col field), .countDistinct (.col field),
      .fn "MIN" [.col field], .fn "MAX" [.col field]], t.AgreesOn rows rows' e := by
  have cells : (present field rows).Perm (present field rows') := present_perm perm
  have numbers := areNumbers_present amounts
  have reflexive (n : Int64) : (Value.int n).order? (.int n) = some .eq :=
    Value.order?_eq_of_content rfl rfl
  have counted (distinct : Bool) :
      t.AgreesOn rows rows' (.call "COUNT" [.col field] distinct) := by
    refine agreesOn_aggregate perm (Aggregate.ofName?_name .count) distinct ?_
    obtain ⟨n, hn, hn'⟩ := apply_count_perm cells distinct numbers.hasContents
    rw [hn, hn']
    exact .ok (reflexive n)
  simp only [List.forall_mem_cons, List.not_mem_nil, false_implies, implies_true, and_true]
  refine ⟨?_, counted false, counted true, ?_, ?_⟩
  · refine agree_of_alike ?_
    rw [eval_countRows, eval_countRows, perm.length_eq]
    exact .ok (reflexive _)
  · refine agreesOn_aggregate perm (Aggregate.ofName?_name .min) false (.ok ?_)
    exact extreme_perm (by decide) numbers cells
  · refine agreesOn_aggregate perm (Aggregate.ofName?_name .max) false (.ok ?_)
    exact extreme_perm (by decide) numbers cells

/-- Sums and averages of a column of amounts agree where nothing is rounded in either order. -/
theorem agreesOn_of_exactSums (perm : rows.Perm rows')
    (amounts : ∀ row ∈ rows, (row.cell field).IsAmount)
    (exact : ExactSums (numbers (present field rows)))
    (exact' : ExactSums (numbers (present field rows'))) :
    ∀ e ∈ [Expr.fn "SUM" [.col field], .fn "AVG" [.col field]], t.AgreesOn rows rows' e := by
  have cells : (present field rows).Perm (present field rows') := present_perm perm
  have sums (a : Aggregate) (isSum : a = .sum ∨ a = .avg) :=
    apply_sum_perm cells a isSum (asDecimal?_present amounts) exact exact'
  simp only [List.forall_mem_cons, List.not_mem_nil, false_implies, implies_true, and_true]
  exact ⟨agreesOn_aggregate perm (Aggregate.ofName?_name .sum) false (sums .sum (.inl rfl)),
    agreesOn_aggregate perm (Aggregate.ofName?_name .avg) false (sums .avg (.inr rfl))⟩

theorem fitsTogether_of_integers
    (integers : ∀ row ∈ rows, row.cell field = .null ∨ ∃ n, row.cell field = .int n)
    (few : rows.length < twoTo 33) :
    FitsTogether 0 (numbers (present field rows)) := by
  have one : (tenTo 0 : ℚ) = 1 := by norm_num [tenTo]
  have integer : ∀ q ∈ numbers (present field rows), ∃ n : Int64, q = n.toInt := by
    intro q hq
    obtain ⟨v, hv, number⟩ := List.mem_filterMap.1 hq
    obtain ⟨hcell, notNull⟩ := List.mem_filter.1 hv
    obtain ⟨row, hrow, rfl⟩ := List.mem_map.1 hcell
    rcases integers row hrow with null | ⟨n, hn⟩
    · simp [null, Value.isNull] at notNull
    · refine ⟨n, ?_⟩
      simpa [hn, Value.number?, Value.asDecimal?, toRat_ofInt64, eq_comm] using number
  have length : (numbers (present field rows)).length ≤ twoTo 33 - 1 := by
    have fewer : (numbers (present field rows)).length ≤ rows.length :=
      (List.length_filterMap_le _ _).trans
        ((List.length_filter_le _ _).trans (List.length_map _).le)
    omega
  refine ⟨Nat.zero_le _, fun q hq => ?_, ?_⟩
  · obtain ⟨n, rfl⟩ := integer q hq
    exact ⟨n.toInt, by rw [one, div_one]⟩
  · have bound : ∀ x ∈ (numbers (present field rows)).map abs, x ≤ (2 : ℚ) ^ 63 := by
      intro x hx
      obtain ⟨q, hq, rfl⟩ := List.mem_map.1 hx
      obtain ⟨n, rfl⟩ := integer q hq
      have low := n.le_toInt
      have high := n.toInt_lt
      have size : |n.toInt| ≤ 2 ^ 63 := abs_le.2 ⟨low, high.le⟩
      exact_mod_cast size
    have total := List.sum_le_card_nsmul _ _ bound
    rw [List.length_map, nsmul_eq_mul] at total
    rw [one, mul_one]
    refine total.trans ?_
    have most : ((numbers (present field rows)).length : ℚ) ≤ (2 : ℚ) ^ 33 - 1 := by
      have cast : ((numbers (present field rows)).length : ℚ) ≤ ((twoTo 33 - 1 : Nat) : ℚ) :=
        Nat.cast_le.2 length
      refine cast.trans (le_of_eq ?_)
      norm_num [twoTo]
    have maximum : (maxCoeff : ℚ) = (2 : ℚ) ^ 96 - 1 := by norm_num [maxCoeff, twoTo]
    rw [maximum]
    exact (mul_le_mul_of_nonneg_right most (by norm_num)).trans (by norm_num)

/--
Every aggregate of a column of amounts but its sum and its average agrees in every order of the
rows. Those agree as well where nothing is rounded and nothing overflows in either order, which
is so in every order of amounts that fit together, and of fewer than `2 ^ 33` integers.
-/
theorem aggregates_of_perm (perm : rows.Perm rows')
    (amounts : ∀ row ∈ rows, (row.cell field).IsAmount) :
    (∀ e ∈ [Expr.countRows, .count (.col field), .countDistinct (.col field),
      .fn "MIN" [.col field], .fn "MAX" [.col field]], t.AgreesOn rows rows' e) ∧
    (((ExactSums (numbers (present field rows)) ∧ ExactSums (numbers (present field rows'))) ∨
        (∃ places, FitsTogether places (numbers (present field rows))) ∨
        ((∀ row ∈ rows, row.cell field = .null ∨ ∃ n, row.cell field = .int n) ∧
          rows.length < twoTo 33)) →
      ∀ e ∈ [Expr.fn "SUM" [.col field], .fn "AVG" [.col field]], t.AgreesOn rows rows' e) := by
  refine ⟨agreesOn_of_perm perm amounts, fun exact => ?_⟩
  have cells : (numbers (present field rows)).Perm (numbers (present field rows')) :=
    (present_perm perm).filterMap _
  have fitting {places : Nat} (fits : FitsTogether places (numbers (present field rows))) :
      ∀ e ∈ [Expr.fn "SUM" [.col field], .fn "AVG" [.col field]], t.AgreesOn rows rows' e :=
    agreesOn_of_exactSums perm amounts fits.exactSums (fits.perm cells).exactSums
  rcases exact with ⟨exact, exact'⟩ | ⟨places, fits⟩ | ⟨integers, few⟩
  · exact agreesOn_of_exactSums perm amounts exact exact'
  · exact fitting fits
  · exact fitting (fitsTogether_of_integers integers few)

/-- A table of amounts, some of them as large as decimals get. -/
def limits : Table where
  name := "limits"
  columns := [⟨"amount", .decimal⟩]
  rows := []

/-- The largest decimal, and the largest one of those with a digit behind the point. -/
def largest (places : Nat) (h : places ≤ maxScale) : Value :=
  .decimal (.reduce maxCoeff places (by decide) h)

def cents (n : Int) (h : n.natAbs ≤ maxCoeff) : Value :=
  .decimal (.reduce n 2 h (by decide))

def amountRows (amounts : List Value) : List Row :=
  amounts.map fun v => [("amount", v)]

def prices : List Value :=
  [cents 150 (by decide), .null, .int 2, cents (-25) (by decide)]

/-- Every aggregate of the prices agrees if they are added up from the last one on. -/
theorem aggregates_of_prices :
    (amountRows prices).Perm (amountRows prices.reverse) ∧
      (∀ row ∈ amountRows prices, (row.cell "amount").IsAmount) ∧
      FitsTogether 2 (numbers (present "amount" (amountRows prices))) ∧
      ∀ e ∈ [Expr.countRows, .count (.col "amount"), .countDistinct (.col "amount"),
        .fn "MIN" [.col "amount"], .fn "MAX" [.col "amount"], .fn "SUM" [.col "amount"],
        .fn "AVG" [.col "amount"]],
        limits.AgreesOn (amountRows prices) (amountRows prices.reverse) e := by
  have perm : (amountRows prices).Perm (amountRows prices.reverse) :=
    (List.reverse_perm prices).symm.map _
  have amounts : ∀ row ∈ amountRows prices, (row.cell "amount").IsAmount := by
    simp [amountRows, prices, cents, Row.cell, Row.get?, Value.IsAmount]
  have shown : numbers (present "amount" (amountRows prices)) = [150 / 100, 2, -25 / 100] := by
    have ten : tenTo 2 = 100 := by decide
    simp [amountRows, prices, cents, present, Row.cell, Row.get?, numbers, Value.isNull,
      Value.number?, Value.asDecimal?, toRat_reduce, toRat_ofInt64, ten]
  have fits : FitsTogether 2 (numbers (present "amount" (amountRows prices))) := by
    have ten : (tenTo 2 : ℚ) = 100 := by norm_num [tenTo]
    rw [shown]
    refine ⟨by decide, ?_, ?_⟩
    · simp only [List.forall_mem_cons, List.not_mem_nil, false_implies, implies_true, and_true, ten]
      exact ⟨⟨150, by norm_num⟩, ⟨200, by norm_num⟩, ⟨-25, by norm_num⟩⟩
    · norm_num [ten, maxCoeff, twoTo, abs_of_pos, abs_of_neg]
  obtain ⟨counts, sums⟩ := aggregates_of_perm (t := limits) perm amounts
  have all := List.forall_mem_append.2 ⟨counts, sums (.inr (.inl ⟨2, fits⟩))⟩
  exact ⟨perm, amounts, fits, all⟩

/-! ## Sums that are rounded -/

/--
In one order the largest number overflows, in another it is the sum of all. In one order two
small amounts are rounded away one by one, in another their sum is not.
-/
theorem not_agreesOn_sum :
    ((amountRows [largest 0 (by decide), .int 1, .int (-1)]).Perm
        (amountRows [.int 1, .int (-1), largest 0 (by decide)]) ∧
      ¬ limits.AgreesOn (amountRows [largest 0 (by decide), .int 1, .int (-1)])
        (amountRows [.int 1, .int (-1), largest 0 (by decide)]) (.fn "SUM" [.col "amount"])) ∧
    ((amountRows [largest 1 (by decide), cents 4 (by decide), cents 4 (by decide)]).Perm
        (amountRows [cents 4 (by decide), cents 4 (by decide), largest 1 (by decide)]) ∧
      ¬ limits.AgreesOn (amountRows [largest 1 (by decide), cents 4 (by decide), cents 4 (by decide)])
        (amountRows [cents 4 (by decide), cents 4 (by decide), largest 1 (by decide)])
        (.fn "AVG" [.col "amount"])) := by
  have turned (a b c : Value) : (amountRows [a, b, c]).Perm (amountRows [b, c, a]) := by
    have cycle : ([a] ++ [b, c]).Perm ([b, c] ++ [a]) := List.perm_append_comm
    exact cycle.map _
  refine ⟨⟨turned _ _ _, ?_⟩, turned _ _ _, ?_⟩
  · unfold AgreesOn
    decide +kernel
  · unfold AgreesOn
    decide +kernel

end Table

end GridSql
