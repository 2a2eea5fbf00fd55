import GridSql.Proofs.Table.Sorting

/-!
# The order of sort keys

Where the values in each position can all be compared and none is a floating-point number, the
comparison of sort keys is a total preorder. Nulls stand together on the side that is asked
for, and with all directions and wishes for nulls turned round the order is too.
-/

namespace GridSql

namespace SortDirection

def reversed : SortDirection → SortDirection
  | asc => desc
  | desc => asc

end SortDirection

namespace NullsOrder

def reversed : NullsOrder → NullsOrder
  | first => last
  | last => first

end NullsOrder

namespace OrderKey

/-- Whether nulls come first; without a wish they do in ascending order. -/
def nullsFirst (key : OrderKey) : Bool :=
  match key.nulls with
  | some .first => true
  | some .last => false
  | none => key.direction != some .desc

/-- The key with its direction and its wish for nulls turned round; none is ascending. -/
def reversed (key : OrderKey) : OrderKey :=
  { key with
    direction := some (key.direction.getD .asc).reversed
    nulls := key.nulls.map NullsOrder.reversed }

end OrderKey

namespace Table

variable {key : OrderKey} {keys : List OrderKey} {v w : Value} {vs ws : List Value}

/-! ## Nulls -/

theorem compareKey_null_null (hv : v.isNull = true) (hw : w.isNull = true) :
    compareKey key v w = .eq := by
  unfold compareKey
  rw [hv, hw]

theorem compareKey_null_left (hv : v.isNull = true) (hw : w.isNull = false) :
    compareKey key v w = if key.nullsFirst then .lt else .gt := by
  unfold compareKey OrderKey.nullsFirst
  rw [hv, hw]
  rcases key.nulls with _ | _ | _ <;> rfl

/-- Rows that tie in the first positions are compared in the next one. -/
theorem compareKeys_of_tied {i : Nat} (hkey : keys[i]? = some key) (hv : vs[i]? = some v)
    (hw : ws[i]? = some w) (tied : compareKeys (keys.take i) vs ws = .eq) :
    compareKeys keys vs ws =
      (compareKey key v w).then (compareKeys (keys.drop (i + 1)) (vs.drop (i + 1)) (ws.drop (i + 1)))
    := by
  induction i generalizing keys vs ws with
  | zero =>
      cases keys <;> cases hkey
      cases vs <;> cases hv
      cases ws <;> cases hw
      rfl
  | succ i ih =>
      cases keys with
      | nil => cases hkey
      | cons first keys =>
          cases vs with
          | nil => cases hv
          | cons a vs =>
              cases ws with
              | nil => cases hw
              | cons b ws =>
                  rw [List.take_succ_cons, compareKeys, Ordering.then_eq_eq] at tied
                  rw [compareKeys, tied.1]
                  exact ih hkey hv hw tied.2

/-! ## The order turned round -/

theorem compareKey_reversed (key : OrderKey) (v w : Value) :
    compareKey key.reversed v w = compareKey key w v := by
  rw [compareKey_swap key v w]
  unfold compareKey OrderKey.reversed
  rcases key with ⟨e, _ | _ | _, _ | _ | _⟩ <;>
    cases v.isNull <;> cases w.isNull <;> first | rfl | exact Ordering.swap_swap.symm

theorem compareKeys_reversed (keys : List OrderKey) (vs ws : List Value) :
    compareKeys (keys.map OrderKey.reversed) vs ws = compareKeys keys ws vs := by
  induction keys generalizing vs ws with
  | nil => cases vs <;> cases ws <;> rfl
  | cons key keys ih =>
      cases vs with
      | nil => cases ws <;> rfl
      | cons v vs =>
          cases ws with
          | nil => rfl
          | cons w ws => rw [List.map_cons, compareKeys, compareKeys, compareKey_reversed, ih]

/-! ## The laws of the order -/

/-- What is expected of an order that rows are sorted in. -/
structure LawfulOrder (keys : List OrderKey) (rows : Set (List Value)) : Prop where
  total : ∀ a ∈ rows, ∀ b ∈ rows, compareKeys keys a b ≠ .gt ∨ compareKeys keys b a ≠ .gt
  trans : ∀ a ∈ rows, ∀ b ∈ rows, ∀ c ∈ rows, compareKeys keys a b ≠ .gt →
    compareKeys keys b c ≠ .gt → compareKeys keys a c ≠ .gt
  swap : ∀ a ∈ rows, ∀ b ∈ rows, compareKeys keys b a = (compareKeys keys a b).swap
  /-- Of rows that tie up to a position, those with null there tie on, on one side of the others. -/
  nulls : ∀ a ∈ rows, ∀ b ∈ rows, ∀ (i : Nat) (key : OrderKey) (v w : Value),
    keys[i]? = some key → a[i]? = some v → b[i]? = some w →
      compareKeys (keys.take i) a b = .eq → v.isNull = true →
        if w.isNull then compareKeys (keys.take (i + 1)) a b = .eq
        else compareKeys keys a b = if key.nullsFirst then .lt else .gt
  reversed : ∀ a ∈ rows, ∀ b ∈ rows,
    compareKeys (keys.map OrderKey.reversed) a b = compareKeys keys b a

/--
Rows are sorted by a lawful order if there are no floating-point numbers among their keys and
the keys in each position can be compared.
-/
theorem lawfulOrder (keys : List OrderKey) {rows : Set (List Value)}
    (noFloats : ∀ vs ∈ rows, NoFloats vs)
    (comparable : ∀ vs ∈ rows, ∀ ws ∈ rows, List.Forall₂ Comparable vs ws) :
    LawfulOrder keys rows where
  total a _ b _ := by
    rw [compareKeys_swap keys a b]
    cases compareKeys keys a b <;> simp
  trans a ha b hb c hc := by
    have three : ∀ vs ∈ [a, b, c], vs ∈ rows := by
      simp only [List.forall_mem_cons, List.not_mem_nil, false_implies, implies_true, and_true]
      exact ⟨ha, hb, hc⟩
    have consistent : SortsConsistently keys [a, b, c] :=
      sortsConsistently_of_comparable (fun vs hvs => noFloats vs (three vs hvs))
        fun vs hvs ws hws => comparable vs (three vs hvs) ws (three ws hws)
    exact consistent a (by simp) b (by simp) c (by simp)
  swap a _ b _ := compareKeys_swap keys a b
  nulls a _ b _ i key v w hkey hv hw tied null := by
    cases other : w.isNull with
    | true =>
        have last : (keys.take (i + 1))[i]? = some key := by
          rw [List.getElem?_take_of_lt (Nat.lt_succ_self i), hkey]
        have before : compareKeys ((keys.take (i + 1)).take i) a b = .eq := by
          rwa [List.take_take, Nat.min_eq_left (Nat.le_succ i)]
        rw [if_pos rfl, compareKeys_of_tied last hv hw before, compareKey_null_null null other,
          List.drop_eq_nil_of_le (List.length_take_le _ _)]
        cases a.drop (i + 1) <;> rfl
    | false =>
        rw [if_neg Bool.false_ne_true, compareKeys_of_tied hkey hv hw tied,
          compareKey_null_left null other]
        cases key.nullsFirst <;> rfl
  reversed a _ b _ := compareKeys_reversed keys a b

instance : DecidableRel Comparable := fun v w =>
  inferInstanceAs (Decidable ((v.order? w).isSome = true))

/-- Sort keys in several representations, with nulls in both positions. -/
def datedAmounts : List (List Value) :=
  let leapDay := (Date.ofYmd? 2024 2 29).getD default
  let noon := (TimeOfDay.ofHms? 12 0 0 0).getD .midnight
  [[.int 2, .date leapDay], [.decimal (.ofInt64 2), .timestamp ⟨leapDay, noon⟩],
    [.null, .timestamp (.atMidnight leapDay)], [.int 7, .null], [.null, .null]]

def amountThenDay : List OrderKey :=
  [⟨.col "amount", some .desc, some .first⟩, ⟨.col "day", none, none⟩]

theorem lawfulOrder_datedAmounts :
    (∀ vs ∈ datedAmounts, NoFloats vs) ∧
      (∀ vs ∈ datedAmounts, ∀ ws ∈ datedAmounts, List.Forall₂ Comparable vs ws) ∧
      LawfulOrder amountThenDay {vs | vs ∈ datedAmounts} := by
  have noFloats : ∀ vs ∈ datedAmounts, NoFloats vs := by simp [datedAmounts, NoFloats]
  have comparable : ∀ vs ∈ datedAmounts, ∀ ws ∈ datedAmounts, List.Forall₂ Comparable vs ws := by
    decide +kernel
  exact ⟨noFloats, comparable, lawfulOrder amountThenDay noFloats comparable⟩

end Table

end GridSql
