import GridSql.Proofs.Grid.RowObject
import Mathlib.Data.List.Perm.Basic

/-!
# The leaves of row objects

A row object holds the cells of its row and nothing else. Putting a cell apart from all the
leaves of an object adds one leaf, so the leaves of a row's object are its cells, and writing
every leaf under its path, joined by points, gives back the object without nesting.
-/

namespace GridSql

namespace Json

variable {name : String} {value : Json} {row : List (String × Json)}

/-! ## Members in order -/

/-- A member is put between those before and behind it, in place of the old one if any. -/
theorem insert_split (sorted : Sorted row) (name : String) (value : Json) :
    ∃ before after, insert name value row = before ++ (name, value) :: after ∧
      ((lookup name row = none ∧ row = before ++ after) ∨
        ∃ old, lookup name row = some old ∧ row = before ++ (name, old) :: after) := by
  induction row with
  | nil => exact ⟨[], [], rfl, .inl ⟨rfl, rfl⟩⟩
  | cons first rest ih =>
      obtain ⟨key, old⟩ := first
      obtain ⟨hfirst, hrest⟩ := List.pairwise_cons.1 sorted
      unfold insert
      split
      · next heq =>
          subst heq
          refine ⟨[], rest, rfl, .inr ⟨old, ?_, rfl⟩⟩
          simp [lookup, lookup_eq_none fun m hm => (hfirst m hm).ne']
      · next hne =>
          split
          · next hlt =>
              exact ⟨[], (key, old) :: rest, rfl, .inl ⟨lookup_eq_none_of_lt sorted hlt, rfl⟩⟩
          · obtain ⟨before, after, hinsert, hrow⟩ := ih hrest
            refine ⟨(key, old) :: before, after, by rw [hinsert]; rfl, ?_⟩
            rw [lookup_cons_of_ne (Ne.symm hne)]
            rcases hrow with ⟨absent, rfl⟩ | ⟨found, present, rfl⟩
            · exact .inl ⟨absent, rfl⟩
            · exact .inr ⟨found, present, rfl⟩

/-- Members of new and different names are all added, whatever their order. -/
theorem foldl_insert_perm {added : List (String × Json)} (sorted : Sorted row)
    (distinct : ((added ++ row).map Prod.fst).Nodup) :
    Sorted (added.foldl (fun row m => insert m.1 m.2 row) row) ∧
      (added.foldl (fun row m => insert m.1 m.2 row) row).Perm (added ++ row) := by
  induction added generalizing row with
  | nil => exact ⟨sorted, .refl row⟩
  | cons m rest ih =>
      obtain ⟨before, after, hinsert, hrow⟩ := insert_split sorted m.1 m.2
      have absent : row = before ++ after := by
        rcases hrow with ⟨-, hrow⟩ | ⟨old, -, hrow⟩
        · exact hrow
        · simp [hrow] at distinct
      have added : (insert m.1 m.2 row).Perm (m :: row) := by
        rw [hinsert, absent]
        exact List.perm_middle
      have moved : (rest ++ insert m.1 m.2 row).Perm (m :: rest ++ row) :=
        (added.append_left rest).trans List.perm_middle
      have hdistinct := ((moved.map Prod.fst).nodup_iff).2 distinct
      obtain ⟨hsorted, hperm⟩ := ih (sorted_insert sorted m.1 m.2) hdistinct
      exact ⟨hsorted, hperm.trans moved⟩

theorem foldl_insert_perm_nil {added : List (String × Json)}
    (distinct : (added.map Prod.fst).Nodup) :
    Sorted (added.foldl (fun row m => insert m.1 m.2 row) []) ∧
      (added.foldl (fun row m => insert m.1 m.2 row) []).Perm added := by
  have empty : Sorted ([] : List (String × Json)) := .nil
  simpa using foldl_insert_perm empty (by simpa using distinct)

theorem eq_of_sorted_of_perm {members : List (String × Json)} (hrow : Sorted row)
    (hmembers : Sorted members) (h : row.Perm members) :
    row = members :=
  h.eq_of_pairwise (fun _ _ _ _ hlt hgt => absurd hgt hlt.asymm) hrow hmembers

/-! ## Leaves -/

def under (name : String) (leaf : List String × Json) : List String × Json :=
  (name :: leaf.1, leaf.2)

mutual

def leaves : Json → List (List String × Json)
  | .object members =>
      if members.isEmpty then [([], .object members)] else memberLeaves members
  | atom => [([], atom)]

def memberLeaves : List (String × Json) → List (List String × Json)
  | [] => []
  | (name, value) :: rest => value.leaves.map (under name) ++ memberLeaves rest

end

theorem memberLeaves_append (before after : List (String × Json)) :
    memberLeaves (before ++ after) = memberLeaves before ++ memberLeaves after := by
  induction before with
  | nil => rfl
  | cons member rest ih =>
      simp only [List.cons_append, memberLeaves, ih, List.append_assoc]

theorem leaves_object {members : List (String × Json)} (h : members ≠ []) :
    (object members).leaves = memberLeaves members := by
  simp [leaves, h]

theorem leaves_of_ne_object (h : ∀ members, value ≠ object members) :
    value.leaves = [([], value)] := by
  cases value with
  | object members => exact absurd rfl (h members)
  | _ => rfl

end Json

namespace RowObject

open Json

variable {nested : Bool} {name : String} {value : Json} {path : List String} {row : RowObject}

def leavesOf (name : String) (row : RowObject) : List (List String × Json) :=
  (lookup name row).elim [] leaves

theorem memberLeaves_insert (sorted : Sorted row) (name : String) (value : Json) :
    ∃ others,
      (memberLeaves (Json.insert name value row)).Perm (value.leaves.map (under name) ++ others) ∧
        (memberLeaves row).Perm ((leavesOf name row).map (under name) ++ others) := by
  have middle (before after : RowObject) (v : Json) :
      (memberLeaves (before ++ (name, v) :: after)).Perm
        (v.leaves.map (under name) ++ memberLeaves (before ++ after)) := by
    simp only [memberLeaves_append, memberLeaves]
    exact List.perm_append_comm_assoc _ _ _
  obtain ⟨before, after, hinsert, hrow⟩ := insert_split sorted name value
  refine ⟨memberLeaves (before ++ after), hinsert ▸ middle before after value, ?_⟩
  rcases hrow with ⟨absent, rfl⟩ | ⟨old, present, rfl⟩
  · simp [leavesOf, absent]
  · simpa [leavesOf, present] using middle before after old

/-- What stands under a name is an object with members, or there is nothing. -/
theorem leavesOf_eq_inner (h : ∀ leaf ∈ leavesOf name row, leaf.1 ≠ []) :
    leavesOf name row = memberLeaves (inner name row) := by
  unfold leavesOf inner at *
  cases found : lookup name row with
  | none => rfl
  | some value =>
      rw [found] at h
      cases value with
      | object members =>
          refine leaves_object ?_
          rintro rfl
          exact h _ List.mem_cons_self rfl
      | _ => exact absurd rfl (h _ List.mem_cons_self)

/-- Whether no leaf stands on a path or behind it. -/
def Clear (path : List String) (leaves : List (List String × Json)) : Prop :=
  ∀ leaf ∈ leaves, ¬ path <+: leaf.1 ∧ ¬ leaf.1 <+: path

theorem under_mem (sorted : Sorted row) {leaf : List String × Json}
    (h : leaf ∈ leavesOf name row) :
    under name leaf ∈ memberLeaves row := by
  obtain ⟨others, -, hrow⟩ := memberLeaves_insert sorted name .null
  exact hrow.mem_iff.2 (List.mem_append_left _ (List.mem_map_of_mem h))

/-- Putting a value apart from all leaves adds it as a leaf. -/
theorem memberLeaves_put (atom : ∀ members, value ≠ .object members) (nonempty : path ≠ [])
    (tidy : Tidy row) (clear : Clear path (memberLeaves row)) :
    (memberLeaves (put value path row)).Perm ((path, value) :: memberLeaves row) := by
  induction path generalizing row with
  | nil => exact absurd rfl nonempty
  | cons name rest ih =>
      cases rest with
      | nil =>
          obtain ⟨others, hput, hrow⟩ := memberLeaves_insert tidy.sorted name value
          have free : leavesOf name row = [] := by
            refine List.eq_nil_iff_forall_not_mem.2 fun leaf hleaf => ?_
            refine (clear _ (under_mem tidy.sorted hleaf)).1 ?_
            exact (List.prefix_cons_inj name).2 List.nil_prefix
          rw [leaves_of_ne_object atom] at hput
          rw [free] at hrow
          exact hput.trans (hrow.symm.cons _)
      | cons next rest =>
          have hinner : leavesOf name row = memberLeaves (inner name row) := by
            refine leavesOf_eq_inner fun leaf hleaf hnil => ?_
            refine (clear _ (under_mem tidy.sorted hleaf)).2 ?_
            rw [under, hnil]
            exact (List.prefix_cons_inj name).2 List.nil_prefix
          have hrest : (memberLeaves (put value (next :: rest) (inner name row))).Perm
              ((next :: rest, value) :: leavesOf name row) := by
            rw [hinner]
            refine ih (by simp) (tidy.inner name) fun leaf hleaf => ?_
            have hclear := clear _ (under_mem tidy.sorted (hinner ▸ hleaf))
            exact ⟨fun h => hclear.1 ((List.prefix_cons_inj name).2 h),
              fun h => hclear.2 ((List.prefix_cons_inj name).2 h)⟩
          obtain ⟨others, hput, hrow⟩ := memberLeaves_insert tidy.sorted name
            (.object (put value (next :: rest) (inner name row)))
          have filled : put value (next :: rest) (inner name row) ≠ [] := by
            intro h
            simp [h, memberLeaves] at hrest
          rw [leaves_object filled] at hput
          rw [put_cons_cons]
          exact hput.trans (((hrest.map (under name)).append_right others).trans
            (hrow.symm.cons (name :: next :: rest, value)))

/-! ## The leaves of a row -/

def cellLeaf (nested : Bool) (cell : String × Value) : List String × Json :=
  (cellPath nested cell.1, cell.2.toJson)

theorem memberLeaves_foldl_addCell {cells : List (String × Value)} (tidy : Tidy row)
    (apart : cells.Pairwise fun a b => Apart nested a.1 b.1)
    (clear : ∀ cell ∈ cells, Clear (cellPath nested cell.1) (memberLeaves row)) :
    (memberLeaves (cells.foldl (addCell nested) row)).Perm
      (cells.map (cellLeaf nested) ++ memberLeaves row) := by
  induction cells generalizing row with
  | nil => exact .refl _
  | cons cell rest ih =>
      obtain ⟨hcell, hrest⟩ := List.pairwise_cons.1 apart
      have added : (memberLeaves (addCell nested row cell)).Perm
          (cellLeaf nested cell :: memberLeaves row) :=
        memberLeaves_put (toJson_ne_object cell.2) (cellPath_ne_nil nested cell.1) tidy
          (clear cell List.mem_cons_self)
      have hclear : ∀ c ∈ rest, Clear (cellPath nested c.1)
          (memberLeaves (addCell nested row cell)) := by
        intro c hc leaf hleaf
        rcases List.mem_cons.1 (added.mem_iff.1 hleaf) with rfl | hold
        · exact (hcell c hc).symm
        · exact clear c (List.mem_cons_of_mem cell hc) leaf hold
      exact (ih (tidy.addCell cell) hrest hclear).trans
        ((added.append_left _).trans List.perm_middle)

theorem memberLeaves_ofCells {cells : List (String × Value)}
    (apart : cells.Pairwise fun a b => Apart nested a.1 b.1) :
    (memberLeaves (ofCells nested cells)).Perm (cells.map (cellLeaf nested)) := by
  have all := memberLeaves_foldl_addCell tidy_nil apart fun _ _ _ h => by cases h
  rwa [← ofCells_eq, memberLeaves, List.append_nil] at all

/-! ## Rows without nesting -/

/-- A leaf as a member whose name is the path with points between its parts. -/
def joined (leaf : List String × Json) : String × Json :=
  (".".intercalate leaf.1, leaf.2)

def flatten (row : RowObject) : RowObject :=
  ((memberLeaves row).map joined).foldl (fun flat m => Json.insert m.1 m.2 flat) []

theorem splitPath_eq_splitOn (cs : List Char) : splitPath cs = cs.splitOn '.' := by
  induction cs with
  | nil => rfl
  | cons c cs ih =>
      rw [List.splitOn, List.splitOnP_cons_eq_if_modifyHead, ← List.splitOn, ← ih]
      obtain ⟨part, parts, hparts⟩ := List.exists_cons_of_ne_nil (splitPath_ne_nil cs)
      by_cases hc : c = '.'
      · subst hc
        rfl
      · rw [splitPath_cons hc hparts, hparts]
        simp [hc]

/-- The parts of a column name make up the name. -/
theorem joined_cellLeaf (cell : String × Value) :
    joined (cellLeaf true cell) = (cell.1, cell.2.toJson) := by
  refine Prod.ext (String.toList_inj.1 ?_) rfl
  simp only [joined, cellLeaf, cellPath, if_true, RowObject.path, String.toList_intercalate,
    List.map_map, Function.comp_def, String.toList_ofList, List.map_id',
    splitPath_eq_splitOn]
  exact List.intercalate_splitOn '.'

theorem ofCells_false (cells : List (String × Value)) :
    ofCells false cells = (cells.map fun cell => (cell.1, cell.2.toJson)).foldl
      (fun flat m => Json.insert m.1 m.2 flat) [] := by
  rw [ofCells_eq, List.foldl_map]
  rfl

/-- The leaves of a nested row are the members of the row without nesting. -/
theorem flatten_ofCells {cells : List (String × Value)} (distinct : (cells.map Prod.fst).Nodup)
    (apart : cells.Pairwise fun a b => Apart true a.1 b.1) :
    flatten (ofCells true cells) = ofCells false cells := by
  have members : ((memberLeaves (ofCells true cells)).map joined).Perm
      (cells.map fun cell => (cell.1, cell.2.toJson)) := by
    have all := (memberLeaves_ofCells apart).map joined
    simpa [Function.comp_def, joined_cellLeaf] using all
  have hcells : ((cells.map fun cell => (cell.1, cell.2.toJson)).map Prod.fst).Nodup := by
    simpa [Function.comp_def] using distinct
  have hleaves := ((members.map Prod.fst).nodup_iff).2 hcells
  obtain ⟨hsorted, hperm⟩ := foldl_insert_perm_nil hleaves
  obtain ⟨hsorted', hperm'⟩ := foldl_insert_perm_nil hcells
  rw [flatten, ofCells_false]
  exact eq_of_sorted_of_perm hsorted hsorted' (hperm.trans (members.trans hperm'.symm))

end RowObject

namespace ResultSet

open RowObject

variable {r : ResultSet} {nested : Bool}

/-- An object with the cells of a row at the places of their columns, and with nothing else. -/
structure IsObjectOf (nested : Bool) (columns : List String) (row : List Value)
    (object : RowObject) : Prop where
  found : ∀ (i : Nat) (name : String), columns[i]? = some name →
    ∃ v : Value, row[i]? = some v ∧ at? (cellPath nested name) object = some v.toJson
  leaves : (Json.memberLeaves object).Perm ((columns.zip row).map (cellLeaf nested))

/-- Different columns none of whose names goes on behind another one with a point. -/
structure HasSeparateColumns (r : ResultSet) : Prop where
  distinct : r.columns.Nodup
  noPrefix : ∀ a ∈ r.columns, ∀ b ∈ r.columns, ¬ ∃ rest, b = a ++ "." ++ rest
  wide : ∀ row ∈ r.rows, row.length = r.columns.length

theorem HasSeparateColumns.apart (h : r.HasSeparateColumns) (nested : Bool) :
    r.columns.Pairwise (Apart nested) := by
  refine h.distinct.imp_of_mem fun {a b} ha hb hne => ?_
  cases nested with
  | false => exact (apart_flat_iff a b).2 hne
  | true => exact (apart_nested_iff a b).2 ⟨hne, h.noPrefix a ha b hb, h.noPrefix b hb a ha⟩

theorem HasSeparateColumns.isObjectOf (h : r.HasSeparateColumns) {row : List Value}
    (hrow : row ∈ r.rows) :
    IsObjectOf nested r.columns row (ofCells nested (r.columns.zip row)) where
  found := by
    intro i name hname
    obtain ⟨hi, rfl⟩ := List.getElem?_eq_some_iff.1 hname
    have hi' : i < row.length := h.wide row hrow ▸ hi
    refine ⟨row[i], List.getElem?_eq_getElem hi', ?_⟩
    have hcell : (r.columns[i], row[i]) ∈ r.columns.zip row := by
      rw [← List.getElem_zip]
      exact List.getElem_mem (by simp [hi, hi'])
    exact at?_ofCells_zip [] (h.apart nested) hcell
  leaves := memberLeaves_ofCells (pairwise_zip (h.apart nested) row)

/--
Every row becomes one object, in the order of the rows, which has the row's cells at the
places of their columns and nothing else, and without its nesting a nested object is the flat
one.
-/
theorem rowObjects_lossless (h : r.HasSeparateColumns) :
    (∀ nested, List.Forall₂ (IsObjectOf nested r.columns) r.rows (r.rowObjects nested)) ∧
      (r.rowObjects true).map flatten = r.rowObjects false := by
  constructor
  · intro nested
    rw [rowObjects, List.forall₂_map_right_iff, List.forall₂_same]
    exact fun row hrow => h.isObjectOf hrow
  · rw [rowObjects, rowObjects, List.map_map]
    refine List.map_congr_left fun row hrow => ?_
    refine flatten_ofCells ?_ (pairwise_zip (h.apart true) row)
    rw [List.map_fst_zip (h.wide row hrow).ge]
    exact h.distinct

/-- Two columns that share a prefix, and one beside them. -/
theorem rowObjects_lossless_addresses :
    let r : ResultSet :=
      ⟨["address.city", "total", "address.zip"], [[.text "Bern", .int 4, .null]]⟩
    (∀ nested, List.Forall₂ (IsObjectOf nested r.columns) r.rows (r.rowObjects nested)) ∧
      (r.rowObjects true).map flatten = r.rowObjects false := by
  intro r
  refine rowObjects_lossless ⟨by decide, ?_, by decide⟩
  rintro a ha b hb ⟨rest, h⟩
  have texts := congrArg String.toList h
  simp only [r, List.mem_cons, List.not_mem_nil, or_false] at ha hb
  rcases ha with rfl | rfl | rfl <;> rcases hb with rfl | rfl | rfl <;> simp at texts

end ResultSet

end GridSql
