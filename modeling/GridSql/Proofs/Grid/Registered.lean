import GridSql.Grid.Columns
import Mathlib.Data.List.Basic
import Mathlib.Data.List.Induction

/-!
# Registered columns

Definitions are added to a registry one after the other. What it then holds follows from the
list of all that were added: the last definition of each field, in the order in which the
fields came first. The index has the place of every definition and leads nowhere else.
-/

namespace GridSql

namespace ColumnRegistry

variable {r : ColumnRegistry} {d e : ColumnDef} {added : List ColumnDef}

theorem mem_fields_iff {field : String} :
    field ∈ r.fields ↔ ∃ i, r.index.lookup field = some i := by
  rw [fields, List.mem_map]
  constructor
  · intro held
    obtain ⟨d, hd, own⟩ := held
    obtain ⟨i, hi⟩ := List.getElem?_of_mem hd
    exact ⟨i, (r.indexed field i).2 ⟨d, hi, own⟩⟩
  · intro found
    obtain ⟨i, hi⟩ := found
    obtain ⟨d, hd, own⟩ := exists_of_lookup hi
    exact ⟨d, List.mem_of_getElem? hd, own⟩

/-! ## One more definition -/

theorem defs_insert_of_some {i : Nat} (h : r.index.lookup d.field = some i) :
    (r.insert d).defs = r.defs.set i d :=
  congrArg ColumnTable.defs (ColumnTable.insert_of_some h)

theorem defs_insert_of_none (h : r.index.lookup d.field = none) :
    (r.insert d).defs = r.defs ++ [d] :=
  congrArg ColumnTable.defs (ColumnTable.insert_of_none h)

theorem mem_insert_self (r : ColumnRegistry) (d : ColumnDef) : d ∈ (r.insert d).defs := by
  cases h : r.index.lookup d.field with
  | none =>
      rw [defs_insert_of_none h]
      exact List.mem_append_right _ List.mem_cons_self
  | some i =>
      rw [defs_insert_of_some h]
      exact List.mem_set (r.indexed.lt h) d

theorem mem_insert_iff_of_ne (other : e.field ≠ d.field) :
    e ∈ (r.insert d).defs ↔ e ∈ r.defs := by
  have new : e ≠ d := fun same => other (congrArg ColumnDef.field same)
  cases h : r.index.lookup d.field with
  | none =>
      rw [defs_insert_of_none h]
      simp [new]
  | some i =>
      rw [defs_insert_of_some h]
      constructor
      · intro held
        exact (List.mem_or_eq_of_mem_set held).resolve_right new
      · intro held
        obtain ⟨old, hold, own⟩ := exists_of_lookup h
        obtain ⟨j, hj⟩ := List.getElem?_of_mem held
        have apart : i ≠ j := by
          intro same
          rw [same, hj] at hold
          cases hold
          exact other own
        exact List.mem_of_getElem? ((List.getElem?_set_ne apart).trans hj)

theorem get?_insert (r : ColumnRegistry) (d : ColumnDef) (field : String) :
    (r.insert d).get? field = if d.field = field then some d else r.get? field := by
  by_cases own : d.field = field
  · rw [if_pos own]
    exact get?_eq_some_iff.2 ⟨mem_insert_self r d, own⟩
  · rw [if_neg own]
    ext e
    rw [get?_eq_some_iff, get?_eq_some_iff]
    refine and_congr_left fun found => mem_insert_iff_of_ne ?_
    intro same
    exact own (same.symm.trans found)

/-- A field that is known keeps its place, and a new one comes last. -/
theorem fields_insert (r : ColumnRegistry) (d : ColumnDef) :
    (r.insert d).fields = if d.field ∈ r.fields then r.fields else r.fields ++ [d.field] := by
  cases h : r.index.lookup d.field with
  | none =>
      have new : d.field ∉ r.fields := by
        intro known
        obtain ⟨i, hi⟩ := mem_fields_iff.1 known
        rw [h] at hi
        cases hi
      rw [if_neg new, fields, defs_insert_of_none h, List.map_append]
      rfl
  | some i =>
      obtain ⟨old, hold, own⟩ := exists_of_lookup h
      have same : r.fields[i]? = some d.field := by
        rw [fields, List.getElem?_map, hold, ← own]
        rfl
      obtain ⟨inside, here⟩ := List.getElem?_eq_some_iff.1 same
      rw [if_pos (mem_fields_iff.2 ⟨i, h⟩), fields, defs_insert_of_some h, List.map_set, ← here]
      exact List.set_getElem_self inside

/-! ## All definitions that were added -/

/--
Whether a registry holds what was added to it: of each field the last definition, and the
fields in the order in which they came first.
-/
structure Holds (r : ColumnRegistry) (added : List ColumnDef) : Prop where
  last : ∀ field, r.get? field = added.reverse.find? (·.field = field)
  known : ∀ field, field ∈ r.fields ↔ field ∈ added.map (·.field)
  ordered : r.fields.Pairwise fun first second =>
    (added.map (·.field)).idxOf first < (added.map (·.field)).idxOf second

/-- No field is there twice: the first of two would have come before itself. -/
theorem Holds.nodup (held : r.Holds added) : r.fields.Nodup := by
  refine held.ordered.imp ?_
  intro first second before same
  rw [same] at before
  exact Nat.lt_irrefl _ before

theorem holds_empty : Holds {} [] where
  last _ := rfl
  known _ := Iff.rfl
  ordered := .nil

theorem Holds.insert (held : r.Holds added) (d : ColumnDef) :
    (r.insert d).Holds (added ++ [d]) := by
  have first {field : String} (h : field ∈ r.fields) :
      ((added ++ [d]).map (·.field)).idxOf field = (added.map (·.field)).idxOf field := by
    rw [List.map_append]
    exact List.idxOf_append_of_mem ((held.known field).1 h)
  have ordered : r.fields.Pairwise fun first second =>
      ((added ++ [d]).map (·.field)).idxOf first < ((added ++ [d]).map (·.field)).idxOf second := by
    refine held.ordered.imp_of_mem ?_
    intro a b ha hb before
    rw [first ha, first hb]
    exact before
  refine ⟨?_, ?_, ?_⟩
  · intro field
    rw [get?_insert, held.last, List.reverse_append, List.reverse_singleton,
      List.singleton_append, List.find?_cons]
    by_cases own : d.field = field <;> simp [own]
  · intro field
    rw [fields_insert, List.map_append, List.mem_append, ← held.known]
    by_cases known : d.field ∈ r.fields
    · rw [if_pos known]
      constructor
      · exact Or.inl
      · intro h
        cases h with
        | inl h => exact h
        | inr h => rwa [List.mem_singleton.1 h]
    · rw [if_neg known, List.mem_append]
      rfl
  · rw [fields_insert]
    by_cases known : d.field ∈ r.fields
    · rw [if_pos known]
      exact ordered
    · rw [if_neg known, List.pairwise_append]
      refine ⟨ordered, List.pairwise_singleton _ _, ?_⟩
      intro a ha b hb
      have new : d.field ∉ added.map (·.field) := fun h => known ((held.known _).2 h)
      have before := List.idxOf_lt_length_of_mem ((held.known a).1 ha)
      rw [List.mem_singleton.1 hb, first ha, List.map_append, List.idxOf_append_of_notMem new]
      omega

theorem holds_ofList (added : List ColumnDef) : (ofList added).Holds added := by
  induction added using List.reverseRecOn with
  | nil => exact holds_empty
  | append_singleton added d ih =>
      rw [ofList, List.foldl_append]
      exact ih.insert d

/--
However definitions were added, the index tells of every field where it is defined and of no
other field, and what it leads to is there. Each field has its last definition, and the
fields stand there once, in the order in which they came first.
-/
theorem ofList_indexed (added : List ColumnDef) :
    (∀ field i, (ofList added).index.lookup field = some i ↔
      ∃ d, (ofList added).defs[i]? = some d ∧ d.field = field) ∧
    (∀ field i, (ofList added).index.lookup field = some i → i < (ofList added).defs.length) ∧
    (ofList added).fields.Nodup ∧ (ofList added).Holds added := by
  have held := holds_ofList added
  refine ⟨(ofList added).indexed, ?_, held.nodup, held⟩
  intro field i found
  exact (ofList added).indexed.lt found

example :
    (ofList [{ field := "a" }, { field := "b" }, { field := "a", sortable := false }]).index =
      [("b", 1), ("a", 0)] := by
  decide

end ColumnRegistry

end GridSql
