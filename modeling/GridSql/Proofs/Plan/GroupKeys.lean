import GridSql.Plan.Grouping
import GridSql.Proofs.Calendar.Readings
import GridSql.Proofs.Filter.Forms
import GridSql.Proofs.Filter.ScalarPredicate
import GridSql.Proofs.Table.Matched
import GridSql.Proofs.Violations

/-!
# Keys of expanded groups

The predicate of a group key selects the cells that hold what the key is read as. A
cell that is sent as JSON and comes back as a key selects itself if nothing of it is
lost on the way: a fraction of a second is, and so may be the places of a decimal.
-/

namespace GridSql

/-! ## Keys that are read back -/

/-- What a group key is read as in a column of a type, if it can be read. -/
def keyContent? (type : ScalarType) (key : Json) : Option Content :=
  if key.isNull then some .null
  else
    match (Value.text (Value.jsonText key)).coerce type with
    | .ok v => v.content?
    | .error _ => none

section

variable {type : ScalarType} {key : Json}

theorem keyContent?_eq_some_iff (notNull : key.isNull = false) {k : Content} :
    keyContent? type key = some k ↔
      ∃ v, (Value.text (Value.jsonText key)).coerce type = .ok v ∧ v.content? = some k := by
  unfold keyContent?
  rw [if_neg (by simp [notNull])]
  split
  · next v hv => simp [hv]
  · next e he => simp [he]

theorem exists_keyContent_iff (notNull : key.isNull = false) :
    (∃ k, keyContent? type key = some k) ↔
      ∃ v, (Value.text (Value.jsonText key)).coerce type = .ok v := by
  simp only [keyContent?_eq_some_iff notNull]
  constructor
  · rintro ⟨_, v, hv, -⟩
    exact ⟨v, hv⟩
  · rintro ⟨v, hv⟩
    obtain ⟨-, k, hk⟩ := Value.coerce_text_content hv
    exact ⟨k, v, hv, hk⟩

theorem keyContent?_other (notNull : key.isNull = false) :
    keyContent? .other key = some (.text (Value.jsonText key)) :=
  (keyContent?_eq_some_iff notNull).2 ⟨_, rfl, rfl⟩

end

namespace Value

/-- Whether the JSON form of a cell is read as what the cell holds. -/
def ReadsBack (type : ScalarType) (v : Value) : Prop :=
  keyContent? type v.toJson = v.content?

instance (type : ScalarType) (v : Value) : Decidable (v.ReadsBack type) :=
  inferInstanceAs (Decidable (_ = _))

/--
Whether the JSON form of a value is all of it: decimals that are no 64-bit integers are
sent as doubles, and date-times without their fraction.
-/
def IsExact : Value → Prop
  | float _ => False
  | decimal d => d.toInt64?.isSome = true
  | timestamp t => t.time.nanos % TimeOfDay.nanosPerSecond = 0
  | _ => True

/-- The JSON form of a 64-bit integer is read as its number. -/
theorem keyContent?_int {type : ScalarType} (numeric : type.isNumeric = true) (n : Int64) :
    keyContent? type (.ofInt n.toInt) = some (.number n.toInt) := by
  have fits : n.toInt.natAbs ≤ Decimal.maxCoeff := by
    have hlow := n.le_toInt
    have hhigh := n.toInt_lt
    have hmax : Decimal.maxCoeff = 79228162514264337593543950335 := rfl
    omega
  obtain ⟨d, hd, hnumber⟩ := Literal.decimal_int fits
  have coerced : (Value.text (toString n.toInt)).coerce type =
      (Literal.decimal (toString n.toInt)).map .decimal := by
    cases type with
    | integer => rfl
    | decimal => rfl
    | _ => cases numeric
  have read : keyContent? type (.ofInt n.toInt) =
      match (Value.text (toString n.toInt)).coerce type with
      | .ok v => v.content?
      | .error _ => none := rfl
  rw [read, coerced, hd, ← hnumber]
  rfl

theorem toInt64?_eq_some {d : Decimal} {n : Int64} (h : d.toInt64? = some n) :
    d.toRat = n.toInt := by
  unfold Decimal.toInt64? at h
  split at h
  · next bounds =>
      obtain ⟨hscale, hlow, hhigh⟩ := bounds
      cases h
      have value : (Int64.ofInt d.coeff).toInt = d.coeff :=
        Int64.toInt_ofInt_of_le hlow (Int.lt_of_le_of_lt hhigh (by decide))
      simp [Decimal.toRat, hscale, tenTo, value]
  · cases h

theorem readsBack_of_isExact {type : ScalarType} {v : Value} (htype : v.HasType type)
    (known : type ≠ .other) (exact : v.IsExact) :
    v.ReadsBack type := by
  have whole {type : ScalarType} (numeric : type.isNumeric = true) {d : Decimal}
      (hd : d.toInt64?.isSome = true) : (decimal d).ReadsBack type := by
    obtain ⟨n, hn⟩ := Option.isSome_iff_exists.1 hd
    unfold ReadsBack
    simp only [toJson, hn, keyContent?_int numeric, content?, toInt64?_eq_some hn]
  cases htype with
  | null => rfl
  | text s => rfl
  | int n => exact keyContent?_int rfl n
  | wide d => exact whole rfl exact
  | decimal d => exact whole rfl exact
  | bool b => cases b <;> decide +kernel
  | date d =>
      have read := Literal.timestamp_date d
      simp [ReadsBack, keyContent?, toJson, jsonText, Json.isNull, coerce, isNull, toTimestamp,
        read, Except.map, content?, Timestamp.atMidnight]
  | timestamp t proper =>
      have read := Literal.timestamp_seconds proper exact
      simp [ReadsBack, keyContent?, toJson, jsonText, Json.isNull, coerce, isNull, toTimestamp,
        read, Except.map, content?]
  | any v => exact absurd rfl known

/-- In a column of any kind only texts and null are read back: a number is not its text. -/
theorem readsBack_other_iff {v : Value} :
    v.ReadsBack .other ↔ v = .null ∨ ∃ s, v = .text s := by
  unfold ReadsBack
  constructor
  · intro h
    cases hnull : v.toJson.isNull with
    | true =>
        rw [keyContent?, if_pos hnull] at h
        exact .inl ((content?_eq_null_iff v).1 h.symm)
    | false =>
        rw [keyContent?_other hnull] at h
        cases v <;> cases h
        exact .inr ⟨_, rfl⟩
  · rintro (rfl | ⟨s, rfl⟩)
    · rfl
    · exact keyContent?_other rfl

end Value

/-! ## Predicates of keys -/

variable {t : Table} {c : ColumnRef} {key : Json} {index : Nat}

theorem groupKeyPredicate_ok {e : Expr}
    (typed : ∀ row ∈ t.rows, (row.cell c.field).HasType (t.fieldType c.field))
    (known : t.fieldType c.field ≠ .other)
    (h : groupKeyPredicate t.fieldType index c key = .ok e) :
    t.IsPlain e ∧ ∃ k, keyContent? (t.fieldType c.field) key = some k ∧
      ∀ row ∈ t.rows, t.Decides (.row row) e ((row.cell c.field).content? = some k) := by
  have htypeOf := Table.typeOf?_of_fieldType known
  have cell (row : Row) : t.eval (.row row) (.col c.field) = .ok (row.cell c.field) :=
    Table.eval_col (by rw [htypeOf]; rfl)
  unfold groupKeyPredicate at h
  unfold keyContent?
  split at h
  · next hnull =>
      cases h
      refine ⟨rfl, .null, if_pos hnull, fun row _ => ?_⟩
      exact (Table.decides_isNull (cell row)).congr (Value.content?_eq_null_iff _).symm
  · next hnull =>
      split at h
      · next found hfound =>
          obtain ⟨v, hv, rfl⟩ := map_ok_iff.1 hfound
          cases h
          obtain ⟨hnotNull, k, hk⟩ := Value.coerce_text_content hv
          rw [if_neg hnull, hv]
          refine ⟨?_, k, hk, fun row hrow => ?_⟩
          · cases (t.fieldType c.field).isNumeric <;> rfl
          · have htype := typed row hrow
            obtain ⟨u, hu, hcontent⟩ := Table.eval_comparable (cell row) htype
            obtain ⟨a, ha⟩ := htype.exists_content known
            have equal : u.order? v = some .eq ↔ a = k := by
              rw [← Value.same_iff (hcontent.trans ha) hk]
              simp [Value.same]
            have notNull : a = k → u ≠ .null := by
              rintro rfl hnull
              have hc := (hcontent.trans ha).symm.trans ((Value.content?_eq_null_iff u).2 hnull)
              exact hnotNull ((Value.content?_eq_null_iff v).1 (hk.trans hc))
            have compared := Table.decides_comparison .eq rfl hu
              (rfl : t.eval (.row row) (.literal v) = .ok v)
            simp only [Value.isNull, Bool.not_false, Bool.and_true]
            refine compared.congr ?_
            rw [ha, Option.some.injEq]
            constructor
            · rintro ⟨-, -, horder⟩
              exact equal.1 horder
            · intro heq
              exact ⟨notNull heq, hnotNull, equal.2 heq⟩
      · cases h

theorem groupKeyPredicate_isOk_iff :
    (∃ e, groupKeyPredicate t.fieldType index c key = .ok e) ↔
      ∃ k, keyContent? (t.fieldType c.field) key = some k := by
  cases hnull : key.isNull with
  | true => simp [groupKeyPredicate, keyContent?, hnull]
  | false =>
      rw [exists_keyContent_iff hnull, groupKeyPredicate, if_neg (by simp [hnull]), synchronize]
      cases (Value.text (Value.jsonText key)).coerce (t.fieldType c.field) <;> simp [Except.map]

/-! ## All keys of a request -/

def Request.keyedGroups (r : Request) : List ((ColumnRef × Json) × Nat) :=
  (r.rowGroupCols.zip r.groupKeys).zipIdx

def IsKeyPredicate (type : String → ScalarType) (g : (ColumnRef × Json) × Nat) (e : Expr) :
    Prop :=
  groupKeyPredicate type g.2 g.1.1 g.1.2 = .ok e

theorem groupKeyPredicatesAux_iff {type : String → ScalarType} {index : Nat}
    {cols : List ColumnRef} {keys : List Json} {es : List Expr} :
    groupKeyPredicatesAux type index cols keys = (es, []) ↔
      List.Forall₂ (IsKeyPredicate type) ((cols.zip keys).zipIdx index) es := by
  induction cols generalizing index keys es with
  | nil => cases es <;> simp [groupKeyPredicatesAux]
  | cons c cols ih =>
      cases keys with
      | nil => cases es <;> simp [groupKeyPredicatesAux]
      | cons key keys =>
          rw [List.zip_cons_cons, List.zipIdx_cons, groupKeyPredicatesAux]
          cases haux : groupKeyPredicatesAux type (index + 1) cols keys with
          | mk others vs =>
              cases he : groupKeyPredicate type index c key with
              | error v =>
                  constructor
                  · intro h
                    cases h
                  · rintro (_ | ⟨h, -⟩)
                    rw [IsKeyPredicate, he] at h
                    cases h
              | ok e =>
                  constructor
                  · intro h
                    cases h
                    exact .cons he (ih.1 haux)
                  · rintro (_ | ⟨h, hrest⟩)
                    rw [IsKeyPredicate, he] at h
                    cases h
                    rw [ih.2 hrest] at haux
                    cases haux
                    rfl

theorem groupKeyPredicates_ok_iff {r : Request} {type : String → ScalarType} {es : List Expr} :
    groupKeyPredicates r type = .ok es ↔
      List.Forall₂ (IsKeyPredicate type) r.keyedGroups es := by
  unfold groupKeyPredicates Request.keyedGroups
  rw [← groupKeyPredicatesAux_iff]
  cases groupKeyPredicatesAux type 0 r.rowGroupCols r.groupKeys with
  | mk found vs =>
      rw [Violations.finish_ok_iff, Prod.mk.injEq, and_comm, eq_comm]

/-- What the forms of filters keep passes from columns to the predicates of group keys. -/
theorem FilterForms.groupKeys {Operand Given Condition : Expr → Prop}
    (forms : FilterForms Operand Given Condition) (columns : ∀ name, Operand (.col name))
    {r : Request} {type : String → ScalarType} {es : List Expr}
    (h : groupKeyPredicates r type = .ok es) :
    ∀ e ∈ es, Condition e := by
  intro e he
  obtain ⟨group, -, hgroup⟩ := exists_of_mem_right (groupKeyPredicates_ok_iff.1 h) he
  exact forms.groupKey (columns _) hgroup

theorem FilterClosed.groupKeys {C : Expr → Prop} (closed : FilterClosed C)
    (columns : ∀ name, C (.col name)) {r : Request} {type : String → ScalarType} {es : List Expr}
    (h : groupKeyPredicates r type = .ok es) :
    ∀ e ∈ es, C e :=
  closed.forms.groupKeys columns h

/-! ## One more key -/

def Request.expand (r : Request) (key : Json) : Request :=
  { r with groupKeys := r.groupKeys ++ [key] }

theorem Request.keyedGroups_expand {r : Request} {c : ColumnRef} (key : Json)
    (hc : r.rowGroupCols[r.groupKeys.length]? = some c) :
    (r.expand key).keyedGroups = r.keyedGroups ++ [((c, key), r.groupKeys.length)] := by
  have general (cols : List ColumnRef) (keys : List Json) (index : Nat)
      (h : cols[keys.length]? = some c) :
      (cols.zip (keys ++ [key])).zipIdx index =
        (cols.zip keys).zipIdx index ++ [((c, key), index + keys.length)] := by
    induction cols generalizing keys index with
    | nil => cases h
    | cons d cols ih =>
        cases keys with
        | nil =>
            cases h
            simp
        | cons k keys =>
            have hrest := ih keys (index + 1) h
            simp only [List.cons_append, List.zip_cons_cons, List.zipIdx_cons, hrest,
              List.length_cons]
            congr 4
            omega
  have h := general r.rowGroupCols r.groupKeys 0 hc
  rwa [Nat.zero_add] at h

theorem groupKeyPredicates_expand_iff {r : Request} {c : ColumnRef} {key : Json}
    {type : String → ScalarType} {es : List Expr}
    (hc : r.rowGroupCols[r.groupKeys.length]? = some c)
    (h : groupKeyPredicates r type = .ok es) {es' : List Expr} :
    groupKeyPredicates (r.expand key) type = .ok es' ↔
      ∃ e, groupKeyPredicate type r.groupKeys.length c key = .ok e ∧ es' = es ++ [e] := by
  rw [groupKeyPredicates_ok_iff, Request.keyedGroups_expand key hc]
  constructor
  · intro h'
    have front := (List.forall₂_take_append es' r.keyedGroups _ h'.flip).flip
    have back := (List.forall₂_drop_append es' r.keyedGroups _ h'.flip).flip
    rw [groupKeyPredicates_ok_iff.2 front, Except.ok.injEq] at h
    obtain ⟨e, rest, he, hnil, hdrop⟩ := List.forall₂_cons_left_iff.1 back
    rw [List.forall₂_nil_left_iff.1 hnil] at hdrop
    refine ⟨e, he, ?_⟩
    rw [← h, ← hdrop, List.take_append_drop]
  · rintro ⟨e, he, rfl⟩
    exact List.rel_append (groupKeyPredicates_ok_iff.1 h) (.cons he .nil)

end GridSql
