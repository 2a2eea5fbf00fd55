import GridSql.Proofs.Filter.ScalarPredicate
import GridSql.Proofs.Table.ColumnOrder

/-!
# Columns and their literals

A literal that is coerced to a column's type is a value of that type, so coercing it again
changes nothing, and a widened column is not widened again. On every row of a loaded table the
column that was made comparable has a value, and unless that is null it is of the literal's
kind.
-/

namespace GridSql

namespace Value

variable {type : ScalarType} {v w : Value}

/-- The values that literals become for a column of a type. -/
inductive IsLiteral : ScalarType → Value → Prop where
  | number {type : ScalarType} (numeric : type.isNumeric = true) (d : Decimal) :
      IsLiteral type (.decimal d)
  | date (d : Date) : IsLiteral .date (.date d)
  | timestamp (t : Timestamp) : IsLiteral .timestamp (.timestamp t)
  | boolean (b : Bool) : IsLiteral .boolean (.bool b)
  | text (s : String) : IsLiteral .text (.text s)
  | any {v : Value} (notNull : v ≠ .null) : IsLiteral .other v

theorem isLiteral_coerce (notNull : v ≠ .null) (h : v.coerce type = .ok w) :
    w.IsLiteral type := by
  rw [coerce.eq_def, (isNull_eq_false_iff v).2 notNull, if_neg Bool.false_ne_true] at h
  cases type <;> dsimp only at h
  case other =>
    cases h
    exact .any notNull
  case text =>
    cases h
    exact .text _
  all_goals
    obtain ⟨_, -, rfl⟩ := map_ok_iff.1 h
    constructor
  all_goals rfl

theorem IsLiteral.ne_null (h : w.IsLiteral type) : w ≠ .null := by
  cases h <;> simp_all

theorem IsLiteral.coerce_eq (h : w.IsLiteral type) : w.coerce type = .ok w := by
  cases h with
  | number numeric d => cases type <;> first | rfl | cases numeric
  | any notNull => simp [coerce]
  | _ => rfl

theorem IsLiteral.order?_isSome {cell : Value} (h : w.IsLiteral type) (known : type ≠ .other)
    (htype : cell.HasType type) (hv : v.content? = cell.content?) :
    v = .null ∨ (v.order? w).isSome = true := by
  obtain ⟨a, ha, hkind⟩ := htype.exists_kind known
  obtain ⟨b, hb, hkind'⟩ : ∃ b, w.content? = some b ∧ b.kind = kindOf type := by
    cases h with
    | number numeric d => cases type <;> first | exact ⟨_, rfl, rfl⟩ | cases numeric
    | any notNull => exact absurd rfl known
    | _ => exact ⟨_, rfl, rfl⟩
  rcases hkind with rfl | hkind
  · exact .inl ((content?_eq_null_iff v).1 (hv.trans ha))
  · right
    rw [order?_isSome_iff (hv.trans ha) hb]
    exact .inr (.inr (hkind.trans hkind'.symm))

end Value

theorem Expr.widen_widen (e : Expr) : e.widen.widen = e.widen := by
  cases e with
  | cast e type => cases type <;> rfl
  | _ => rfl

section

variable {type : ScalarType} {e : Expr} {v : Value} {c : Comparable}

/-- A null stays with its column as it is, and any other value becomes a literal. -/
theorem synchronize_ok (h : synchronize e type v = .ok c) :
    (v = .null ∧ c = ⟨e, .null⟩) ∨
      (v ≠ .null ∧ c.value.IsLiteral type ∧ c.expr = if type.isNumeric then e.widen else e) := by
  obtain ⟨w, hw, rfl⟩ := map_ok_iff.1 h
  by_cases null : v = .null
  · subst null
    cases hw
    exact .inl ⟨rfl, by simp [Value.isNull]⟩
  · refine .inr ⟨null, Value.isLiteral_coerce null hw, ?_⟩
    simp [(Value.isNull_eq_false_iff v).2 null]

theorem synchronize_synchronized (h : synchronize e type v = .ok c) :
    synchronize c.expr type c.value = .ok c := by
  rcases synchronize_ok h with ⟨-, rfl⟩ | ⟨-, literal, widened⟩
  · simp [synchronize, Value.coerce, Value.isNull, Except.map]
  · have notNull := (Value.isNull_eq_false_iff c.value).2 literal.ne_null
    have twice : (if type.isNumeric then c.expr.widen else c.expr) = c.expr := by
      rw [widened]
      cases type.isNumeric <;> simp [Expr.widen_widen]
    simp [synchronize, literal.coerce_eq, Except.map, notNull, twice]

namespace Table

variable {t : Table} {owner : Option String} {field : String}

theorem WellTyped.comparable_synchronized (typed : t.WellTyped)
    (declared : t.typeOf? field = some type) (known : type ≠ .other)
    (h : synchronize (.column owner field) type v = .ok c) (notNull : v ≠ .null) :
    ∀ row ∈ t.rows, ∃ w, t.eval (.row row) c.expr = .ok w ∧
      (w = .null ∨ (w.order? c.value).isSome = true) := by
  intro row hrow
  obtain ⟨null, -⟩ | ⟨-, literal, widened⟩ := synchronize_ok h
  · exact absurd null notNull
  · have htype := typed row hrow field type declared
    have hcell : t.eval (.row row) (.column owner field) = .ok (row.cell field) := by
      simp [eval, declared, Scope.cell]
    obtain ⟨w, hw, hcontent⟩ := eval_comparable hcell htype
    rw [widened]
    exact ⟨w, hw, literal.order?_isSome known htype hcontent⟩

end Table

/--
Synchronizing a pair again gives the same pair, and a loaded column can be compared with the
literal that was synchronized with it on every row where it is not null.
-/
theorem synchronize_settles (h : synchronize e type v = .ok c) :
    synchronize c.expr type c.value = .ok c ∧
      ∀ (file : String) (t : Table) (owner : Option String) (field : String),
        Table.ofText file = .ok t → t.typeOf? field = some type → type ≠ .other →
          e = .column owner field → v ≠ .null →
            ∀ row ∈ t.rows, ∃ w, t.eval (.row row) c.expr = .ok w ∧
              (w = .null ∨ (w.order? c.value).isSome = true) := by
  refine ⟨synchronize_synchronized h, ?_⟩
  rintro file t owner field loaded declared known rfl notNull
  exact (Table.wellTyped_ofText loaded).comparable_synchronized declared known h notNull

end

def piecesFile : String :=
  "\x7b\"table\":\"orders\",
      \"columns\":[\x7b\"name\":\"pieces\",\"type\":\"integer\"\x7d],
      \"rows\":[\x7b\"pieces\":\"12\"\x7d,\x7b\x7d]\x7d"

def pieces : Table where
  name := "orders"
  columns := [⟨"pieces", .integer⟩]
  rows := [[("pieces", .decimal (.ofInt64 12))], [("pieces", .null)]]

set_option maxRecDepth 20000 in
theorem ofText_piecesFile : Table.ofText piecesFile = .ok pieces := by
  have parsed : (Json.parseFast? piecesFile).bind DataFile.ofJson? =
      some ⟨"orders", pieces.columns, [[("pieces", .string "12")], []]⟩ := by
    cbv
  rw [Table.ofText, parsed]
  rfl

/-- A number in a text, compared with a column of numbers that is widened for it. -/
theorem synchronize_settles_pieces :
    let c : Comparable := ⟨.cast (.column none "pieces") .decimal, .decimal (.ofInt64 12)⟩
    synchronize (.column none "pieces") .integer (.text "12") = .ok c ∧
      synchronize c.expr .integer c.value = .ok c ∧
      ∀ row ∈ pieces.rows, ∃ w, pieces.eval (.row row) c.expr = .ok w ∧
        (w = .null ∨ (w.order? c.value).isSome = true) := by
  intro c
  have synchronized : synchronize (.column none "pieces") .integer (.text "12") = .ok c := by
    rfl
  obtain ⟨again, comparable⟩ := synchronize_settles synchronized
  exact ⟨synchronized, again,
    comparable _ pieces none "pieces" ofText_piecesFile rfl (by decide) rfl (by simp)⟩

end GridSql
