import GridSql.Proofs.Filter.TextPredicate

/-!
# Predicates of number and date filters

A scalar predicate compares a value with literals. Both have keys in one linear order,
the rational numbers or the tuples of the calendar, and the predicate decides what the
condition says of the key of the cell.
-/

namespace GridSql

variable {t : Table} {s : Scope} {target : FilterTarget} {cell : Value}

namespace Predicate

/-! ## Comparisons with a literal -/

/-- A predicate that a null passes too where blanks are included. -/
theorem decides_orBlank {p e : Expr} {v : Value} {P N : Prop} (blanks : Bool)
    (hp : t.Decides s p P) (hv : t.eval s e = .ok v) (hnull : v = .null ↔ N) :
    t.Decides s (if blanks then p.or (.isNull e false) else p) (P ∨ (blanks = true ∧ N)) := by
  cases blanks with
  | false => exact hp.congr (by simp)
  | true => exact (hp.or ((Table.decides_isNull hv).congr hnull)).congr (by simp)

section

variable {α β : Type} [LinearOrder α] {e : Expr} {v : Value} {key : Option α}
  {literal : β → Value} {keyOf : β → α}

structure Compares (v : Value) (key : Option α) (literal : β → Value) (keyOf : β → α) :
    Prop where
  null : v = .null ↔ key = none
  notNull : ∀ b, literal b ≠ .null
  order : ∀ x, key = some x → ∀ b, v.order? (literal b) = some (compare x (keyOf b))

theorem decides_bound (op : BinaryOp) (hop : op.isComparison = true)
    (hv : t.eval s e = .ok v) (h : Compares v key literal keyOf) (b : β) :
    t.Decides s (.binary op e (.literal (literal b)))
      (∃ x, key = some x ∧ op.Accepts (some (compare x (keyOf b)))) := by
  refine (Table.decides_comparison op hop hv rfl).congr ?_
  cases hkey : key with
  | none => simp [h.null.2 hkey]
  | some x =>
      have hnull : v ≠ .null := by simp [Ne, h.null, hkey]
      simp [hnull, h.notNull b, h.order x hkey b]

theorem decides_range (hv : t.eval s e = .ok v) (h : Compares v key literal keyOf)
    (low high : β) (inclusive : Bool) :
    t.Decides s (range e (.literal (literal low)) (.literal (literal high)) inclusive)
      (∃ x, key = some x ∧
        if inclusive then keyOf low ≤ x ∧ x ≤ keyOf high
        else keyOf low < x ∧ x < keyOf high) := by
  cases inclusive with
  | true =>
      refine ((decides_bound .ge rfl hv h low).and
        (decides_bound .le rfl hv h high)).congr ?_
      cases key <;> simp [BinaryOp.Accepts, compare_le_iff_le, compare_ge_iff_ge]
  | false =>
      refine ((decides_bound .gt rfl hv h low).and
        (decides_bound .lt rfl hv h high)).congr ?_
      cases key <;> simp [BinaryOp.Accepts, compare_lt_iff_lt, compare_gt_iff_gt]

/-- The predicate of a condition on numbers or dates decides the condition. -/
theorem decides_scalar {option : FilterOption} {rules : ScalarRules} {low high : Option β}
    {p : Expr} (hv : t.eval s e = .ok v) (h : Compares v key literal keyOf)
    (compiled : Predicate.scalar target option e (low.map fun b => .literal (literal b))
      (high.map fun b => .literal (literal b)) rules = .ok p) :
    t.Decides s p (rules.Holds option (low.map keyOf) (high.map keyOf) key) := by
  have hisNull := (Table.decides_isNull hv).congr h.null
  have hisNotNull := (Table.decides_isNotNull hv).congr h.null.not
  -- Operators with one literal share the way to it.
  have compared (op : BinaryOp) {lowKey : String} (hop : op.isComparison = true)
      (hp : (target.need option lowKey (low.map fun b => Expr.literal (literal b))).map (fun l =>
        if rules.includesBlanks option then (Expr.binary op e l).or (.isNull e false)
        else .binary op e l) = .ok p) :
      t.Decides s p ((∃ l ∈ low.map keyOf, ∃ x, key = some x ∧
        op.Accepts (some (compare x l))) ∨ (rules.includesBlanks option = true ∧ key = none)) := by
    obtain ⟨_, hneed, rfl⟩ := map_ok_iff.1 hp
    obtain ⟨b, hb, rfl⟩ := Option.map_eq_some_iff.1 (need_ok hneed)
    refine (decides_orBlank _ (decides_bound op hop hv h b) hv h.null).congr ?_
    simp [hb]
  cases option with
  | empty =>
      cases compiled
      refine hisNull.congr ?_
      cases key <;> simp [ScalarRules.Holds]
  | blank =>
      cases compiled
      refine hisNull.congr ?_
      cases key <;> simp [ScalarRules.Holds]
  | notBlank =>
      cases compiled
      refine hisNotNull.congr ?_
      cases key <;> simp [ScalarRules.Holds, ScalarRules.includesBlanks]
  | equals =>
      refine (compared .eq rfl compiled).congr ?_
      cases key <;> simp [ScalarRules.Holds, BinaryOp.Accepts]
  | notEqual =>
      refine (compared .ne rfl compiled).congr ?_
      cases key <;> simp [ScalarRules.Holds, BinaryOp.Accepts]
  | lessThan =>
      refine (compared .lt rfl compiled).congr ?_
      cases key <;> simp [ScalarRules.Holds, BinaryOp.Accepts, compare_lt_iff_lt]
  | lessThanOrEqual =>
      refine (compared .le rfl compiled).congr ?_
      cases key <;> simp [ScalarRules.Holds, BinaryOp.Accepts, compare_le_iff_le]
  | greaterThan =>
      refine (compared .gt rfl compiled).congr ?_
      cases key <;> simp [ScalarRules.Holds, BinaryOp.Accepts, compare_gt_iff_gt]
  | greaterThanOrEqual =>
      refine (compared .ge rfl compiled).congr ?_
      cases key <;> simp [ScalarRules.Holds, BinaryOp.Accepts, compare_ge_iff_ge]
  | inRange =>
      obtain ⟨l, hl, compiled⟩ := bind_ok_iff.1 compiled
      obtain ⟨u, hu, compiled⟩ := bind_ok_iff.1 compiled
      obtain ⟨a, ha, rfl⟩ := Option.map_eq_some_iff.1 (need_ok hl)
      obtain ⟨b, hb, rfl⟩ := Option.map_eq_some_iff.1 (need_ok hu)
      cases compiled
      refine (decides_orBlank _ (decides_range hv h a b _) hv h.null).congr ?_
      cases key <;> simp [ScalarRules.Holds, ha, hb]
  | _ => cases compiled

end

end Predicate

/-! ## Numbers -/

theorem Value.HasType.number {type : ScalarType} (h : cell.HasType type)
    (numeric : type.isNumeric = true) :
    (cell = .null ∧ cell.number? = none) ∨
      ∃ q, cell.content? = some (.number q) ∧ cell.number? = some q := by
  cases h with
  | null => exact .inl ⟨rfl, rfl⟩
  | int n =>
      refine .inr ⟨n.toInt, rfl, ?_⟩
      simp [Value.number?, Value.asDecimal?, Decimal.toRat_ofInt64]
  | wide d => exact .inr ⟨_, rfl, rfl⟩
  | decimal d => exact .inr ⟨_, rfl, rfl⟩
  | text s => cases numeric
  | bool b => cases numeric
  | date d => cases numeric
  | timestamp t proper => cases numeric
  | any v => cases numeric

namespace Table

variable {e : Expr} {type : ScalarType}

/-- Widening an expression of numbers keeps the content of its value. -/
theorem eval_widen (he : t.eval s e = .ok cell) (htype : cell.HasType type)
    (numeric : type.isNumeric = true) :
    ∃ v, t.eval s e.widen = .ok v ∧ v.content? = cell.content? := by
  unfold Expr.widen
  split
  · exact ⟨cell, he, rfl⟩
  · have cast {v : Value} (hv : cell.castTo .decimal = .ok v) :
        t.eval s (.cast e .decimal) = .ok v := by
      simp [eval, he, bind, Except.bind, hv, lift, Except.mapError]
    cases htype with
    | null => exact ⟨_, cast rfl, rfl⟩
    | int n =>
        refine ⟨_, cast rfl, ?_⟩
        simp [Value.content?, Decimal.toRat_ofInt64]
    | wide d => exact ⟨_, cast rfl, rfl⟩
    | decimal d => exact ⟨_, cast rfl, rfl⟩
    | text s => cases numeric
    | bool b => cases numeric
    | date d => cases numeric
    | timestamp t proper => cases numeric
    | any v => cases numeric

theorem eval_comparable (he : t.eval s e = .ok cell) (htype : cell.HasType type) :
    ∃ v, t.eval s (if type.isNumeric then e.widen else e) = .ok v ∧
      v.content? = cell.content? := by
  cases numeric : type.isNumeric with
  | true =>
      rw [if_pos rfl]
      exact eval_widen he htype numeric
  | false =>
      rw [if_neg (by decide)]
      exact ⟨cell, he, rfl⟩

end Table

theorem Value.coerce_text_content {member : String} {type : ScalarType} {v : Value}
    (h : (Value.text member).coerce type = .ok v) :
    v ≠ .null ∧ ∃ c, v.content? = some c := by
  simp only [coerce, isNull, Bool.false_eq_true, if_false] at h
  cases type
  case other =>
    cases h
    exact ⟨by simp, _, rfl⟩
  case text =>
    cases h
    exact ⟨by simp, _, rfl⟩
  all_goals
    obtain ⟨_, -, rfl⟩ := map_ok_iff.1 h
    exact ⟨by simp, _, rfl⟩

namespace Predicate

theorem checked_ok {r : Except QueryError Unit} {next : Except QueryError Expr} {p : Expr}
    (h : (r >>= fun _ => next) = .ok p) :
    next = .ok p := by
  obtain ⟨_, -, h⟩ := bind_ok_iff.1 h
  exact h

theorem decides_number {f : NumberFilter} {rules : ScalarRules} {p : Expr}
    (hcell : t.eval s target.expr = .ok cell) (htype : cell.HasType target.type)
    (numeric : target.type.isNumeric = true)
    (compiled : Predicate.number target f rules = .ok p) :
    t.Decides s p (rules.Holds f.option (f.filter.map Decimal.toRat)
      (f.filterTo.map Decimal.toRat) cell.number?) := by
  obtain ⟨v, hv, hcontent⟩ := Table.eval_widen hcell htype numeric
  have compares : Compares v cell.number? .decimal Decimal.toRat := by
    refine ⟨?_, by simp, ?_⟩
    · rw [← Value.content?_eq_null_iff, hcontent, Value.content?_eq_null_iff]
      rcases htype.number numeric with ⟨rfl, hnone⟩ | ⟨q, hq, hsome⟩
      · simp [hnone]
      · simp [hsome, ← Value.content?_eq_null_iff, hq]
    · intro x hx d
      rcases htype.number numeric with ⟨rfl, hnone⟩ | ⟨q, hq, hsome⟩
      · rw [hnone] at hx
        cases hx
      · rw [hsome] at hx
        cases hx
        exact Value.order?_number (hcontent.trans hq) rfl
  exact decides_scalar hv compares (checked_ok compiled)

/-! ## Dates and date-times -/

def bound (type : ScalarType) (dt : Timestamp) : Value :=
  match type with
  | .date => .date dt.date
  | _ => .timestamp dt

theorem dateBound_ok {rules : DateRules} {key : String} {dt? : Option Timestamp}
    {c? : Option Comparable} (temporal : target.type.isTemporal = true)
    (h : dateBound target rules key dt? = .ok c?) :
    c? = dt?.map fun dt => ⟨target.expr, bound target.type dt⟩ := by
  cases dt? with
  | none =>
      cases h
      rfl
  | some dt =>
      obtain ⟨_, -, h⟩ := bind_ok_iff.1 h
      obtain ⟨c, hc, rfl⟩ := map_ok_iff.1 h
      unfold FilterTarget.synchronize GridSql.synchronize at hc
      cases hkind : target.type <;> rw [hkind] at temporal hc <;>
        first
          | exact absurd temporal (by decide)
          | (cases hc; rfl)

theorem compares_day (htype : cell.HasType .date) :
    Compares cell (cell.day?.map Date.key) (bound .date) (·.date.key) := by
  cases htype with
  | null => exact ⟨by simp [Value.day?], by simp [bound], by simp [Value.day?]⟩
  | date d =>
      refine ⟨by simp [Value.day?], by simp [bound], ?_⟩
      intro x hx dt
      cases hx
      exact congrArg some (Date.compare_eq d dt.date)

theorem compares_instant (htype : cell.HasType .timestamp) :
    Compares cell (cell.instant?.map Timestamp.key) (bound .timestamp) Timestamp.key := by
  cases htype with
  | null => exact ⟨by simp [Value.instant?], by simp [bound], by simp [Value.instant?]⟩
  | timestamp instant proper =>
      refine ⟨by simp [Value.instant?], by simp [bound], ?_⟩
      intro x hx dt
      cases hx
      exact congrArg some (Timestamp.compare_eq instant dt)

theorem decides_date {f : DateFilter} {rules : DateRules} {p : Expr}
    (hcell : t.eval s target.expr = .ok cell) (htype : cell.HasType target.type)
    (temporal : target.type.isTemporal = true)
    (compiled : Predicate.date target f rules = .ok p) :
    t.Decides s p (ColumnFilter.DateHolds target.type rules.toScalarRules f cell) := by
  obtain ⟨low, hlow, compiled⟩ := bind_ok_iff.1 (checked_ok compiled)
  obtain ⟨high, hhigh, compiled⟩ := bind_ok_iff.1 compiled
  rw [dateBound_ok temporal hlow, dateBound_ok temporal hhigh] at compiled
  -- No literal changes the expression that it is compared with.
  have unchanged : (((f.dateTo.map fun dt => Comparable.mk target.expr (bound target.type dt)).orElse
      fun _ => f.dateFrom.map fun dt => Comparable.mk target.expr (bound target.type dt)).map
        (·.expr)).getD target.expr = target.expr := by
    cases f.dateTo <;> cases f.dateFrom <;> rfl
  rw [unchanged] at compiled
  simp only [Option.map_map] at compiled
  cases hkind : target.type with
  | date =>
      rw [hkind] at htype compiled
      exact decides_scalar hcell (compares_day htype) compiled
  | timestamp =>
      rw [hkind] at htype compiled
      exact decides_scalar hcell (compares_instant htype) compiled
  | _ =>
      rw [hkind] at temporal
      cases temporal

end Predicate

end GridSql
