import GridSql.Grid.RowObject
import Mathlib.Data.List.Infix
import Mathlib.Data.String.Basic

/-!
# What row objects hold

The members of a row object are sorted at every depth. A cell that was put at a path is
found there, and cells at paths that do not lead through each other do not disturb each
other, so every cell of a row is found in its object.
-/

namespace GridSql

namespace Json

/-! ## Sorted members -/

def Sorted (members : List (String × Json)) : Prop :=
  members.Pairwise fun a b => a.1 < b.1

theorem lookup_eq_none {name : String} {members : List (String × Json)}
    (absent : ∀ member ∈ members, member.1 ≠ name) :
    lookup name members = none := by
  induction members with
  | nil => rfl
  | cons member rest ih =>
      have hrest := ih fun m hm => absent m (List.mem_cons_of_mem member hm)
      simp [lookup, hrest, absent member List.mem_cons_self]

theorem lookup_cons_of_ne {name key : String} (h : key ≠ name) (value : Json)
    (rest : List (String × Json)) :
    lookup name ((key, value) :: rest) = lookup name rest := by
  cases hrest : lookup name rest <;> simp [lookup, hrest, h]

theorem mem_of_lookup {name : String} {value : Json} {members : List (String × Json)}
    (h : lookup name members = some value) :
    (name, value) ∈ members := by
  induction members with
  | nil => cases h
  | cons member rest ih =>
      cases hrest : lookup name rest with
      | some found =>
          simp only [lookup, hrest, Option.orElse_some] at h
          exact List.mem_cons_of_mem _ (ih (hrest.trans h))
      | none =>
          simp only [lookup, hrest, Option.orElse_none] at h
          split at h
          · next hname =>
              cases h
              rw [← hname]
              exact List.mem_cons_self
          · cases h

theorem mem_insert {name : String} {value : Json} {members : List (String × Json)}
    {member : String × Json} (h : member ∈ insert name value members) :
    member = (name, value) ∨ member ∈ members := by
  induction members with
  | nil => exact .inl (by simpa [insert] using h)
  | cons first rest ih =>
      obtain ⟨key, old⟩ := first
      unfold insert at h
      split at h
      · rcases List.mem_cons.1 h with rfl | hrest
        · exact .inl rfl
        · exact .inr (List.mem_cons_of_mem _ hrest)
      · split at h
        · rcases List.mem_cons.1 h with rfl | hrest
          · exact .inl rfl
          · exact .inr hrest
        · rcases List.mem_cons.1 h with rfl | hrest
          · exact .inr List.mem_cons_self
          · rcases ih hrest with hnew | hold
            · exact .inl hnew
            · exact .inr (List.mem_cons_of_mem _ hold)

theorem sorted_insert {members : List (String × Json)} (h : Sorted members) (name : String)
    (value : Json) :
    Sorted (insert name value members) := by
  induction members with
  | nil => exact List.pairwise_singleton _ _
  | cons first rest ih =>
      obtain ⟨key, old⟩ := first
      obtain ⟨hfirst, hrest⟩ := List.pairwise_cons.1 h
      unfold insert
      split
      · next heq =>
          subst heq
          exact List.pairwise_cons.2 ⟨hfirst, hrest⟩
      · next hne =>
          split
          · next hlt =>
              refine List.pairwise_cons.2 ⟨fun member hmember => ?_, h⟩
              rcases List.mem_cons.1 hmember with rfl | hmember
              · exact hlt
              · exact hlt.trans (hfirst member hmember)
          · next hnot =>
              refine List.pairwise_cons.2 ⟨fun member hmember => ?_, ih hrest⟩
              rcases mem_insert hmember with rfl | hold
              · exact lt_of_le_of_ne (not_lt.1 hnot) (Ne.symm hne)
              · exact hfirst member hold

theorem lookup_eq_none_of_lt {name key : String} {old : Json} {rest : List (String × Json)}
    (h : Sorted ((key, old) :: rest)) (hlt : name < key) :
    lookup name ((key, old) :: rest) = none := by
  refine lookup_eq_none fun m hm => ?_
  rcases List.mem_cons.1 hm with rfl | hm
  · exact hlt.ne'
  · exact (hlt.trans ((List.pairwise_cons.1 h).1 m hm)).ne'

theorem lookup_insert_self {members : List (String × Json)} (h : Sorted members) (name : String)
    (value : Json) :
    lookup name (insert name value members) = some value := by
  induction members with
  | nil => simp [insert, lookup]
  | cons first rest ih =>
      obtain ⟨key, old⟩ := first
      obtain ⟨hfirst, hrest⟩ := List.pairwise_cons.1 h
      unfold insert
      split
      · next heq =>
          subst heq
          simp [lookup, lookup_eq_none fun m hm => (hfirst m hm).ne']
      · next hne =>
          split
          · next hlt =>
              rw [lookup, lookup_eq_none_of_lt h hlt]
              simp
          · rw [lookup_cons_of_ne (Ne.symm hne)]
            exact ih hrest

theorem lookup_insert_of_ne {name other : String} (h : name ≠ other) (value : Json)
    (members : List (String × Json)) :
    lookup other (insert name value members) = lookup other members := by
  induction members with
  | nil => simp [insert, lookup, h]
  | cons first rest ih =>
      obtain ⟨key, old⟩ := first
      unfold insert
      split
      · next heq =>
          subst heq
          rw [lookup_cons_of_ne h, lookup_cons_of_ne h]
      · split
        · rw [lookup_cons_of_ne h]
        · rw [lookup, ih, lookup]

end Json

namespace RowObject

/-! ## Paths into row objects -/

/-- Members that are sorted at every depth. -/
inductive Tidy : RowObject → Prop where
  | intro {row : RowObject} (sorted : Json.Sorted row)
      (inner : ∀ name members, (name, Json.object members) ∈ row → Tidy members) : Tidy row

theorem tidy_nil : Tidy [] :=
  .intro .nil fun _ _ h => by cases h

theorem Tidy.sorted {row : RowObject} : Tidy row → Json.Sorted row
  | intro sorted _ => sorted

def inner (name : String) (row : RowObject) : RowObject :=
  match Json.lookup name row with
  | some (.object members) => members
  | _ => []

theorem Tidy.inner {row : RowObject} (h : Tidy row) (name : String) :
    Tidy (inner name row) := by
  obtain ⟨-, hinner⟩ := h
  unfold RowObject.inner
  split
  · next members hlookup => exact hinner name members (Json.mem_of_lookup hlookup)
  · exact tidy_nil

theorem Tidy.insert {row : RowObject} (h : Tidy row) (name : String) {value : Json}
    (hvalue : ∀ members, value = .object members → Tidy members) :
    Tidy (Json.insert name value row) := by
  obtain ⟨sorted, hinner⟩ := h
  refine .intro (Json.sorted_insert sorted name value) fun key members hmember => ?_
  rcases Json.mem_insert hmember with heq | hold
  · cases heq
    exact hvalue members rfl
  · exact hinner key members hold

def at? : List String → RowObject → Option Json
  | [], _ => none
  | [name], row => Json.lookup name row
  | name :: next :: rest, row => at? (next :: rest) (inner name row)

theorem put_cons_cons (value : Json) (name next : String) (rest : List String) (row : RowObject) :
    put value (name :: next :: rest) row =
      Json.insert name (.object (put value (next :: rest) (inner name row))) row :=
  rfl

theorem inner_insert_object {row : RowObject} (h : Json.Sorted row) (name : String)
    (members : RowObject) :
    inner name (Json.insert name (.object members) row) = members := by
  rw [inner, Json.lookup_insert_self h]

theorem inner_insert_of_ne {name other : String} (h : name ≠ other) (value : Json)
    (row : RowObject) :
    inner other (Json.insert name value row) = inner other row := by
  rw [inner, Json.lookup_insert_of_ne h, inner]

theorem Tidy.put {value : Json} (hvalue : ∀ members, value ≠ .object members)
    {path : List String} {row : RowObject} (h : Tidy row) :
    Tidy (put value path row) := by
  induction path generalizing row with
  | nil => exact h
  | cons name rest ih =>
      cases rest with
      | nil => exact h.insert name fun members heq => absurd heq (hvalue members)
      | cons next rest =>
          rw [put_cons_cons]
          refine h.insert name fun members heq => ?_
          cases heq
          exact ih (h.inner name)

theorem at?_put_self (value : Json) {path : List String} (nonempty : path ≠ [])
    {row : RowObject} (h : Tidy row) :
    at? path (put value path row) = some value := by
  induction path generalizing row with
  | nil => exact absurd rfl nonempty
  | cons name rest ih =>
      cases rest with
      | nil => exact Json.lookup_insert_self h.sorted name value
      | cons next rest =>
          rw [put_cons_cons, at?, inner_insert_object h.sorted]
          exact ih (by simp) (h.inner name)

/-- Putting a value at a path does not change what stands at paths beside it. -/
theorem at?_put_of_apart (value : Json) {path other : List String}
    (hpath : ¬ path <+: other) (hother : ¬ other <+: path) {row : RowObject} (h : Tidy row) :
    at? other (put value path row) = at? other row := by
  induction path generalizing other row with
  | nil => exact absurd (List.nil_prefix) hpath
  | cons name rest ih =>
      cases other with
      | nil => exact absurd (List.nil_prefix) hother
      | cons name' rest' =>
          by_cases hname : name = name'
          · subst hname
            -- Both paths lead through the same member.
            have hpath' : ¬ rest <+: rest' := fun hprefix =>
              hpath ((List.prefix_cons_inj name).2 hprefix)
            have hother' : ¬ rest' <+: rest := fun hprefix =>
              hother ((List.prefix_cons_inj name).2 hprefix)
            cases rest with
            | nil => exact absurd List.nil_prefix hpath'
            | cons next rest =>
                cases rest' with
                | nil => exact absurd List.nil_prefix hother'
                | cons next' rest' =>
                    rw [put_cons_cons, at?, inner_insert_object h.sorted, at?]
                    exact ih hpath' hother' (h.inner name)
          · have untouched (value : Json) :
                at? (name' :: rest') (Json.insert name value row) = at? (name' :: rest') row := by
              cases rest' with
              | nil => exact Json.lookup_insert_of_ne hname value row
              | cons next' rest' => rw [at?, inner_insert_of_ne hname, at?]
            cases rest with
            | nil => exact untouched value
            | cons next rest =>
                rw [put_cons_cons]
                exact untouched _

/-! ## Column names as paths -/

theorem splitPath_ne_nil (cs : List Char) : splitPath cs ≠ [] := by
  cases cs with
  | nil => simp [splitPath]
  | cons c cs =>
      unfold splitPath
      split
      · simp
      · split <;> simp

theorem splitPath_point (cs : List Char) : splitPath ('.' :: cs) = [] :: splitPath cs :=
  rfl

theorem splitPath_cons {c : Char} (h : c ≠ '.') {cs part : List Char}
    {parts : List (List Char)} (hcs : splitPath cs = part :: parts) :
    splitPath (c :: cs) = (c :: part) :: parts := by
  rw [splitPath, if_neg h, hcs]

/-- One name is a path into another exactly if that goes on with a point behind it. -/
theorem splitPath_prefix_iff (cs ds : List Char) :
    splitPath cs <+: splitPath ds ↔ cs = ds ∨ ∃ rest, ds = cs ++ '.' :: rest := by
  induction cs generalizing ds with
  | nil =>
      cases ds with
      | nil => simp [splitPath]
      | cons d ds =>
          by_cases hd : d = '.'
          · subst hd
            simp [splitPath]
          · obtain ⟨part, parts, hparts⟩ := List.exists_cons_of_ne_nil (splitPath_ne_nil ds)
            rw [splitPath_cons hd hparts]
            simp [splitPath, hd]
  | cons c cs ih =>
      obtain ⟨part, parts, hparts⟩ := List.exists_cons_of_ne_nil (splitPath_ne_nil cs)
      cases ds with
      | nil =>
          by_cases hc : c = '.'
          · subst hc
            simp [splitPath, splitPath_ne_nil]
          · rw [splitPath_cons hc hparts]
            simp [splitPath]
      | cons d ds =>
          obtain ⟨first, others, hothers⟩ := List.exists_cons_of_ne_nil (splitPath_ne_nil ds)
          by_cases hc : c = '.' <;> by_cases hd : d = '.'
          · subst hc hd
            rw [splitPath_point, splitPath_point, List.prefix_cons_inj, ih]
            simp
          · subst hc
            rw [splitPath_point, splitPath_cons hd hothers]
            simp [hd, Ne.symm hd]
          · subst hd
            rw [splitPath_point, splitPath_cons hc hparts]
            simp [hc, Ne.symm hc]
          · have hrest := ih ds
            rw [hparts, hothers] at hrest
            rw [splitPath_cons hc hparts, splitPath_cons hd hothers]
            simp only [List.cons_prefix_cons, List.cons.injEq, List.cons_append] at hrest ⊢
            rw [and_assoc, hrest, and_or_left, exists_and_left, eq_comm (a := d)]

theorem path_prefix_iff (a b : String) :
    path a <+: path b ↔ a = b ∨ ∃ rest, b = a ++ "." ++ rest := by
  have lists : path a <+: path b ↔ splitPath a.toList <+: splitPath b.toList := by
    constructor
    · rintro ⟨rest, hrest⟩
      have mapped := congrArg (List.map String.toList) hrest
      simp only [path, List.map_append, List.map_map] at mapped
      refine ⟨rest.map String.toList, ?_⟩
      simpa [Function.comp_def] using mapped
    · exact fun h => h.map _
  rw [lists, splitPath_prefix_iff]
  constructor
  · rintro (heq | ⟨rest, heq⟩)
    · exact .inl (String.toList_inj.1 heq)
    · exact .inr ⟨String.ofList rest, String.toList_inj.1 (by simp [heq])⟩
  · rintro (rfl | ⟨rest, rfl⟩)
    · exact .inl rfl
    · exact .inr ⟨rest.toList, by simp⟩

/-! ## Cells of a row -/

def cellPath (nested : Bool) (name : String) : List String :=
  if nested then path name else [name]

theorem cellPath_ne_nil (nested : Bool) (name : String) : cellPath nested name ≠ [] := by
  cases nested with
  | false => simp [cellPath]
  | true => simp [cellPath, path, splitPath_ne_nil]

/-- Whether the cells of two columns do not stand in each other's way. -/
def Apart (nested : Bool) (a b : String) : Prop :=
  ¬ cellPath nested a <+: cellPath nested b ∧ ¬ cellPath nested b <+: cellPath nested a

theorem Apart.symm {nested : Bool} {a b : String} (h : Apart nested a b) : Apart nested b a :=
  ⟨h.2, h.1⟩

theorem apart_flat_iff (a b : String) : Apart false a b ↔ a ≠ b := by
  simp [Apart, cellPath, eq_comm]

theorem apart_nested_iff (a b : String) :
    Apart true a b ↔
      a ≠ b ∧ (¬ ∃ rest, b = a ++ "." ++ rest) ∧ ¬ ∃ rest, a = b ++ "." ++ rest := by
  simp only [Apart, cellPath, if_true, path_prefix_iff, not_or, eq_comm (a := b) (b := a)]
  tauto

theorem toJson_ne_object (v : Value) (members : List (String × Json)) :
    v.toJson ≠ .object members := by
  have noObject (x : Float) : Value.floatJson x ≠ .object members := by
    unfold Value.floatJson
    split <;> simp
  cases v with
  | float x => exact noObject x
  | decimal d =>
      unfold Value.toJson
      dsimp only
      split
      · simp [Json.ofInt]
      · exact noObject _
  | _ => simp [Value.toJson, Json.ofInt]

def addCell (nested : Bool) (row : RowObject) (cell : String × Value) : RowObject :=
  putCell nested row cell.1 cell.2

theorem ofCells_eq (nested : Bool) (cells : List (String × Value)) :
    ofCells nested cells = cells.foldl (addCell nested) [] :=
  rfl

theorem addCell_eq (nested : Bool) (row : RowObject) (cell : String × Value) :
    addCell nested row cell = put cell.2.toJson (cellPath nested cell.1) row :=
  rfl

theorem Tidy.addCell {nested : Bool} {row : RowObject} (h : Tidy row) (cell : String × Value) :
    Tidy (addCell nested row cell) :=
  h.put (toJson_ne_object cell.2)

theorem Tidy.foldl_addCell {nested : Bool} {row : RowObject} (h : Tidy row)
    (cells : List (String × Value)) :
    Tidy (cells.foldl (RowObject.addCell nested) row) := by
  induction cells generalizing row with
  | nil => exact h
  | cons cell rest ih => exact ih (h.addCell cell)

/-- Further cells leave what stands apart from them. -/
theorem at?_foldl_addCell {nested : Bool} {row : RowObject} (h : Tidy row)
    {cells : List (String × Value)} {name : String}
    (apart : ∀ cell ∈ cells, Apart nested cell.1 name) :
    at? (cellPath nested name) (cells.foldl (addCell nested) row) =
      at? (cellPath nested name) row := by
  induction cells generalizing row with
  | nil => rfl
  | cons cell rest ih =>
      obtain ⟨hcell, hname⟩ := apart cell List.mem_cons_self
      rw [List.foldl_cons, ih (h.addCell cell) fun c hc => apart c (List.mem_cons_of_mem cell hc),
        addCell_eq]
      exact at?_put_of_apart _ hcell hname h

/-- Every one of the last cells of a row stands at its place, if these are apart. -/
theorem at?_ofCells {nested : Bool} (before : List (String × Value))
    {cells : List (String × Value)} (apart : cells.Pairwise fun a b => Apart nested b.1 a.1)
    {cell : String × Value} (hcell : cell ∈ cells) :
    at? (cellPath nested cell.1) (ofCells nested (before ++ cells)) = some cell.2.toJson := by
  rw [ofCells_eq, List.foldl_append]
  have tidy : Tidy (before.foldl (addCell nested) []) := tidy_nil.foldl_addCell before
  generalize before.foldl (addCell nested) [] = row at tidy ⊢
  induction cells generalizing row with
  | nil => cases hcell
  | cons first rest ih =>
      obtain ⟨hfirst, hrest⟩ := List.pairwise_cons.1 apart
      rw [List.foldl_cons]
      rcases List.mem_cons.1 hcell with rfl | hcell
      · rw [at?_foldl_addCell (tidy.addCell cell) hfirst, addCell_eq]
        exact at?_put_self _ (cellPath_ne_nil nested cell.1) tidy
      · exact ih hrest hcell _ (tidy.addCell first)

theorem pairwise_zip {α β : Type} {R : α → α → Prop} {as : List α} (h : as.Pairwise R)
    (bs : List β) :
    (as.zip bs).Pairwise fun x y => R x.1 y.1 := by
  induction h generalizing bs with
  | nil => exact .nil
  | @cons a as hfirst _ ih =>
      cases bs with
      | nil => exact .nil
      | cons b bs =>
          exact .cons (fun pair hpair => hfirst pair.1 (List.of_mem_zip hpair).1) (ih bs)

theorem at?_ofCells_zip {nested : Bool} (before : List (String × Value)) {names : List String}
    (apart : names.Pairwise (Apart nested)) {values : List Value} {cell : String × Value}
    (hcell : cell ∈ names.zip values) :
    at? (cellPath nested cell.1) (ofCells nested (before ++ names.zip values)) =
      some cell.2.toJson :=
  at?_ofCells before (pairwise_zip (apart.imp fun h => h.symm) values) hcell

end RowObject

end GridSql
