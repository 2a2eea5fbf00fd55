import GridSql.Filter.Rules

/-!
# Column definitions

What the server lets a column of the grid do. Definitions keep the order in which
their fields came first; a later definition of a field replaces the earlier one.
Without any definition everything is allowed.
-/

namespace GridSql

structure ColumnDef where
  field : String
  /-- How the column is filtered; none disables filtering. -/
  filter : Option FilterRules := none
  enableRowGroup : Bool := true
  enableValue : Bool := true
  enablePivot : Bool := true
  /-- The aggregate functions that may be applied; none allows all. -/
  allowedAggregates : Option (List String) := none
  sortable : Bool := true

namespace ColumnDef

def allowsAggregate (d : ColumnDef) (name : String) : Bool :=
  d.allowedAggregates.all (·.contains name)

end ColumnDef

/-- Column definitions in order, and an index of them by field. -/
structure ColumnTable where
  defs : List ColumnDef := []
  /-- Where the definition of each field stands. -/
  index : List (String × Nat) := []

namespace ColumnTable

/-- Puts a definition where that of its field stands, or adds it behind the others. -/
def insert (t : ColumnTable) (d : ColumnDef) : ColumnTable :=
  match t.index.lookup d.field with
  | some i => { t with defs := t.defs.set i d }
  | none => { defs := t.defs ++ [d], index := (d.field, t.defs.length) :: t.index }

/-- Whether the index tells of every field where it is defined, and nothing else. -/
def Indexed (t : ColumnTable) : Prop :=
  ∀ field i, t.index.lookup field = some i ↔ ∃ d, t.defs[i]? = some d ∧ d.field = field

theorem indexed_empty : Indexed {} := by
  intro field i
  simp

theorem insert_of_some {t : ColumnTable} {d : ColumnDef} {i : Nat}
    (h : t.index.lookup d.field = some i) :
    t.insert d = { t with defs := t.defs.set i d } := by
  rw [insert, h]

theorem insert_of_none {t : ColumnTable} {d : ColumnDef}
    (h : t.index.lookup d.field = none) :
    t.insert d = { defs := t.defs ++ [d], index := (d.field, t.defs.length) :: t.index } := by
  rw [insert, h]

namespace Indexed

variable {t : ColumnTable}

theorem lt (indexed : t.Indexed) {field : String} {i : Nat}
    (h : t.index.lookup field = some i) :
    i < t.defs.length := by
  obtain ⟨d, hd, -⟩ := (indexed field i).1 h
  exact (List.getElem?_eq_some_iff.1 hd).1

theorem ne_of_none (indexed : t.Indexed) {field : String} (h : t.index.lookup field = none)
    {i : Nat} {d : ColumnDef} (hd : t.defs[i]? = some d) :
    d.field ≠ field := by
  intro same
  have found := (indexed field i).2 ⟨d, hd, same⟩
  rw [h] at found
  cases found

/-- A definition that takes the place of another one has its field, so the index stays. -/
theorem set (indexed : t.Indexed) {d : ColumnDef} {i : Nat}
    (h : t.index.lookup d.field = some i) :
    Indexed { t with defs := t.defs.set i d } := by
  intro field j
  rw [indexed field j]
  by_cases place : i = j
  · subst place
    obtain ⟨old, hold, own⟩ := (indexed d.field i).1 h
    have new : (t.defs.set i d)[i]? = some d := List.getElem?_set_self (indexed.lt h)
    simp [hold, new, own]
  · simp [List.getElem?_set_ne place]

/-- A definition behind the others is the only one of its field, and none of the others moves. -/
theorem append (indexed : t.Indexed) {d : ColumnDef} (h : t.index.lookup d.field = none) :
    Indexed { defs := t.defs ++ [d], index := (d.field, t.defs.length) :: t.index } := by
  intro field j
  have last : (t.defs ++ [d])[t.defs.length]? = some d := List.getElem?_concat_length
  have others {i : Nat} (hi : i ≠ t.defs.length) : (t.defs ++ [d])[i]? = t.defs[i]? := by
    by_cases inside : i < t.defs.length
    · exact List.getElem?_append_left inside
    · have outside : t.defs[i]? = none := List.getElem?_eq_none (Nat.not_lt.1 inside)
      have beyond : (t.defs ++ [d]).length ≤ i := by
        rw [List.length_append, List.length_singleton]
        omega
      rw [outside, List.getElem?_eq_none beyond]
  by_cases own : field = d.field
  · subst own
    rw [List.lookup_cons_self]
    constructor
    · intro found
      cases found
      exact ⟨d, last, rfl⟩
    · intro found
      obtain ⟨e, he, same⟩ := found
      by_cases place : j = t.defs.length
      · rw [place]
      · rw [others place] at he
        exact absurd same (indexed.ne_of_none h he)
  · have skipped : ((d.field, t.defs.length) :: t.index).lookup field = t.index.lookup field := by
      have different : (field == d.field) = false := beq_eq_false_iff_ne.2 own
      rw [List.lookup_cons, different]
    rw [skipped, indexed field j]
    by_cases place : j = t.defs.length
    · subst place
      simp [Ne.symm own]
    · rw [others place]

theorem insert (indexed : t.Indexed) (d : ColumnDef) : (t.insert d).Indexed := by
  cases h : t.index.lookup d.field with
  | none =>
      rw [insert_of_none h]
      exact indexed.append h
  | some i =>
      rw [insert_of_some h]
      exact indexed.set h

end Indexed

end ColumnTable

structure ColumnRegistry extends ColumnTable where
  indexed : toColumnTable.Indexed := by exact ColumnTable.indexed_empty

namespace ColumnRegistry

def insert (r : ColumnRegistry) (d : ColumnDef) : ColumnRegistry :=
  ⟨r.toColumnTable.insert d, r.indexed.insert d⟩

def ofList (defs : List ColumnDef) : ColumnRegistry :=
  defs.foldl insert {}

def isEmpty (r : ColumnRegistry) : Bool := r.defs.isEmpty

def size (r : ColumnRegistry) : Nat := r.defs.length

def get? (r : ColumnRegistry) (field : String) : Option ColumnDef :=
  (r.index.lookup field).bind (r.defs[·]?)

theorem exists_of_lookup {r : ColumnRegistry} {field : String} {i : Nat}
    (h : r.index.lookup field = some i) :
    ∃ d, r.defs[i]? = some d ∧ d.field = field :=
  (r.indexed field i).1 h

theorem get?_eq_some_iff {r : ColumnRegistry} {field : String} {d : ColumnDef} :
    r.get? field = some d ↔ d ∈ r.defs ∧ d.field = field := by
  rw [get?, Option.bind_eq_some_iff]
  constructor
  · intro found
    obtain ⟨i, hi, hd⟩ := found
    obtain ⟨e, he, own⟩ := exists_of_lookup hi
    rw [hd] at he
    cases he
    exact ⟨List.mem_of_getElem? hd, own⟩
  · intro held
    obtain ⟨i, hi⟩ := List.getElem?_of_mem held.1
    exact ⟨i, (r.indexed field i).2 ⟨d, hi, held.2⟩, hi⟩

theorem isSome_get? (r : ColumnRegistry) (field : String) :
    (r.get? field).isSome = (r.index.lookup field).isSome := by
  cases h : r.index.lookup field with
  | none => simp [get?, h]
  | some i =>
      obtain ⟨d, hd, -⟩ := exists_of_lookup h
      simp [get?, h, hd]

def knows (r : ColumnRegistry) (field : String) : Bool :=
  r.isEmpty || (r.index.lookup field).isSome

theorem knows_eq (r : ColumnRegistry) (field : String) :
    r.knows field = (r.isEmpty || (r.get? field).isSome) := by
  rw [knows, isSome_get?]

def fields (r : ColumnRegistry) : List String := r.defs.map (·.field)

/-- The rules that a field is filtered by; none stands for the defaults. -/
def rulesFor (r : ColumnRegistry) (field : String) : Option FilterRules :=
  (r.get? field).bind (·.filter)

def disablesFilter (r : ColumnRegistry) (field : String) : Bool :=
  !r.isEmpty && (r.rulesFor field).isNone

end ColumnRegistry

end GridSql
