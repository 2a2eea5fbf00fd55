import GridSql.Filter.Recognize
import GridSql.Proofs.Filter.Correctness
import GridSql.Proofs.Filter.OwnRow
import GridSql.Proofs.Plan.GroupKeys

/-!
# Sets of JSON values

Unless its column says otherwise, a set filter compares cells exactly. Its members are
read as the type of the column, so the filter can be compiled if all of them can be read,
and it selects the cells that hold what one of them is read as. In a column of any kind
members stay texts, and no number is among them.
-/

namespace GridSql

open FilterRules (defaultSet)

variable {t : Table} {s : Scope} {target : FilterTarget} {cell : Value} {type : ScalarType}

/-! ## Members -/

def setContents (type : ScalarType) (members : List Json) : List Content :=
  members.filterMap (keyContent? type)

theorem mem_setContents {members : List Json} {k : Content} :
    k ∈ setContents type members ↔ ∃ j ∈ members, keyContent? type j = some k :=
  List.mem_filterMap

theorem mem_setContents_singleton {j : Json} {k : Content} :
    k ∈ setContents type [j] ↔ keyContent? type j = some k := by
  simp [mem_setContents]

namespace Recognizers

theorem literalText_eq_none_iff {j : Json} :
    literalText j = none ↔ j = .null := by
  cases j <;> simp [literalText]

theorem literalText_eq_some {j : Json} {member : String} (h : literalText j = some member) :
    j.isNull = false ∧ member = Value.jsonText j := by
  cases j <;> cases h <;> exact ⟨rfl, rfl⟩

end Recognizers

open Recognizers (literalText)

theorem keyContent?_of_literalText {j : Json} {member : String}
    (h : literalText j = some member) :
    keyContent? type (.string member) = keyContent? type j := by
  obtain ⟨notNull, rfl⟩ := Recognizers.literalText_eq_some h
  rw [keyContent?, keyContent?, notNull]
  rfl

/-- A text that is read does not stand for the blank cell. -/
theorem keyContent?_string_ne_null {member : String} :
    keyContent? type (.string member) ≠ some .null := by
  intro h
  obtain ⟨v, hv, hnull⟩ := (keyContent?_eq_some_iff rfl).1 h
  exact (Value.coerce_text_content hv).1 ((Value.content?_eq_null_iff v).1 hnull)

/-! ## Cells -/

def Value.IsRead (type : ScalarType) (cell : Value) (member : String) : Prop :=
  ∃ k, keyContent? type (.string member) = some k ∧ cell.content? = some k

namespace Predicate

/-- Exact comparison in a column of a declared type is that of contents. -/
theorem selects_iff (htype : cell.HasType type) (known : type ≠ .other)
    (notNull : cell ≠ .null) (member : String) :
    defaultSet.Selects type member cell ↔ cell.IsRead type member := by
  obtain ⟨c, hc⟩ := htype.exists_content known
  have read : cell.IsRead type member ↔
      ∃ v, (Value.text member).coerce type = .ok v ∧ v.content? = cell.content? := by
    have notBlank : (Json.string member).isNull = false := rfl
    simp only [Value.IsRead, keyContent?_eq_some_iff notBlank, Value.jsonText, hc,
      Option.some.injEq]
    constructor
    · rintro ⟨k, ⟨v, hv, hk⟩, rfl⟩
      exact ⟨v, hv, hk⟩
    · rintro ⟨v, hv, hk⟩
      exact ⟨c, ⟨v, hv, hk⟩, rfl⟩
  rw [read]
  cases htype with
  | null => exact absurd rfl notNull
  | text s =>
      simp [TextForm.Selects, TextForm.normal, defaultSet, Value.display, Value.coerce,
        Value.isNull, Value.content?, eq_comm]
  | any v => exact absurd rfl known
  | _ => rfl

/-- In a column of any kind texts are compared with the cells as they are. -/
theorem decides_otherMembers (hcell : t.eval s target.expr = .ok cell) (members : List String) :
    t.Decides s (.inList target.expr (members.map .ofText) false)
      (cell ≠ .null ∧ ∃ member ∈ members, cell.IsRead .other member) := by
  have literals : members.map Expr.ofText = (members.map Value.text).map .literal := by
    rw [List.map_map]
    rfl
  rw [literals]
  refine (Table.decides_inList _ hcell).congr (and_congr_right fun _ => ?_)
  simp only [List.mem_map, exists_exists_and_eq_and]
  refine exists_congr fun member => and_congr_right fun _ => ?_
  rw [Value.same_iff_content (k := .text member) rfl (by simp), Value.IsRead,
    keyContent?_other rfl]
  simp [Value.jsonText]

theorem decides_exactMembers {members : List String} {p : Expr}
    (hcell : t.eval s target.expr = .ok cell) (htype : cell.HasType target.type)
    (nonempty : members ≠ []) (compiled : setMembers target defaultSet members = .ok p) :
    t.Decides s p (cell ≠ .null ∧ ∃ member ∈ members, cell.IsRead target.type member) := by
  by_cases known : target.type = .other
  · have literal : p = .inList target.expr (members.map .ofText) false := by
      unfold setMembers at compiled
      rw [known] at compiled
      cases compiled
      rfl
    rw [literal, known]
    exact decides_otherMembers hcell members
  · have plain : defaultSet.IsPlain := rfl
    refine (decides_members hcell htype known plain nonempty compiled).congr ?_
    refine and_congr_right fun notNull => exists_congr fun member => and_congr_right fun _ => ?_
    exact selects_iff htype known notNull member

/-! ## Sets -/

/-- A set with default rules decides whether a cell holds what one of its members is read as. -/
theorem decides_exactSet {members : List Json} {p : Expr}
    (hcell : t.eval s target.expr = .ok cell) (htype : cell.HasType target.type)
    (compiled : Predicate.set target (members.map literalText) defaultSet = .ok p) :
    t.Decides s p (∃ k ∈ setContents target.type members, cell.content? = some k) := by
  refine (decides_set_of_members hcell
    (fun nonempty h => decides_exactMembers hcell htype nonempty h) compiled).congr ?_
  constructor
  · rintro (⟨rfl, hnone⟩ | ⟨-, member, hmember, k, hk, held⟩)
    · obtain ⟨j, hj, hnull⟩ := List.mem_map.1 hnone
      cases Recognizers.literalText_eq_none_iff.1 hnull
      exact ⟨.null, mem_setContents.2 ⟨.null, hj, rfl⟩, rfl⟩
    · obtain ⟨j, hj, htext⟩ := List.mem_map.1 hmember
      rw [keyContent?_of_literalText htext] at hk
      exact ⟨k, mem_setContents.2 ⟨j, hj, hk⟩, held⟩
  · rintro ⟨k, hmem, held⟩
    obtain ⟨j, hj, hk⟩ := mem_setContents.1 hmem
    cases htext : literalText j with
    | none =>
        cases Recognizers.literalText_eq_none_iff.1 htext
        cases hk
        exact .inl ⟨(Value.content?_eq_null_iff cell).1 held, List.mem_map.2 ⟨.null, hj, htext⟩⟩
    | some member =>
        rw [← keyContent?_of_literalText htext] at hk
        refine .inr ⟨?_, member, List.mem_map.2 ⟨j, hj, htext⟩, k, hk, held⟩
        rintro rfl
        cases held
        exact keyContent?_string_ne_null hk

theorem setMembers_isOk_iff {members : List String} {form : TextForm} :
    (∃ p, setMembers target form members = .ok p) ↔
      ∀ member ∈ members, ∃ k, keyContent? target.type (.string member) = some k := by
  have typed : (∃ p, (members.mapM fun member => target.synchronize (.text member) "values") >>=
        (fun synced => .ok (Expr.inList ((synced.getLast?.map (·.expr)).getD target.expr)
          (synced.map fun c => .literal c.value) false)) = .ok p) ↔
      ∀ member ∈ members, ∃ k, keyContent? target.type (.string member) = some k := by
    have synchronized (member : String) :
        (∃ c, target.synchronize (.text member) "values" = .ok c) ↔
          ∃ k, keyContent? target.type (.string member) = some k := by
      rw [exists_keyContent_iff rfl, FilterTarget.synchronize, GridSql.synchronize]
      cases h : (Value.text member).coerce target.type <;> simp [Value.jsonText, h, Except.map]
    simp only [← synchronized, bind_ok_iff]
    constructor
    · rintro ⟨_, synced, hsynced, -⟩ member hmember
      obtain ⟨c, -, hc⟩ := exists_of_mem_left (mapM_ok_iff.1 hsynced) hmember
      exact ⟨c, hc⟩
    · intro h
      obtain ⟨synced, hsynced⟩ := mapM_isOk h
      exact ⟨_, synced, hsynced, rfl⟩
  unfold setMembers
  cases hkind : target.type with
  | text => exact iff_of_true ⟨_, rfl⟩ fun member _ => ⟨_, rfl⟩
  | other => exact iff_of_true ⟨_, rfl⟩ fun member _ => ⟨_, rfl⟩
  | _ =>
      rw [hkind] at typed
      exact typed

theorem set_isOk_iff_setMembers {values : List (Option String)} {form : TextForm} :
    (∃ p, Predicate.set target values form = .ok p) ↔
      ∃ p, setMembers target form (values.filterMap id) = .ok p := by
  unfold Predicate.set
  by_cases none_ : values.filterMap id = []
  · simp only [none_, List.isEmpty_nil, if_true]
    refine iff_of_true ?_ (setMembers_isOk_iff.2 (by simp))
    split <;> exact ⟨_, rfl⟩
  · have some_ : values ≠ [] := by
      rintro rfl
      exact none_ rfl
    simp only [List.isEmpty_eq_false_iff.2 none_, List.isEmpty_eq_false_iff.2 some_,
      Bool.false_eq_true, if_false, map_ok_iff]
    constructor
    · rintro ⟨_, membership, h, -⟩
      exact ⟨membership, h⟩
    · rintro ⟨membership, h⟩
      exact ⟨_, membership, h, rfl⟩

theorem set_isOk_iff {members : List Json} {form : TextForm} :
    (∃ p, Predicate.set target (members.map literalText) form = .ok p) ↔
      ∀ j ∈ members, ∃ k, keyContent? target.type j = some k := by
  rw [set_isOk_iff_setMembers, setMembers_isOk_iff]
  simp only [List.filterMap_map, Function.id_comp, List.mem_filterMap]
  constructor
  · intro h j hj
    cases htext : literalText j with
    | none =>
        cases Recognizers.literalText_eq_none_iff.1 htext
        exact ⟨.null, rfl⟩
    | some member =>
        rw [← keyContent?_of_literalText htext]
        exact h member ⟨j, hj, htext⟩
  · rintro h member ⟨j, hj, htext⟩
    rw [keyContent?_of_literalText htext]
    exact h j hj

end Predicate

end GridSql
