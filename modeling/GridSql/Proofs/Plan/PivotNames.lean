import GridSql.Proofs.Grid.RowObject
import GridSql.Proofs.Plan.Combinations
import GridSql.Proofs.Result

/-!
# Names of generated columns

A generated name is the texts of a combination and a field, joined by the separator. It
can be taken apart again if the separator is seen where it joins: only one component
may have it inside, since what stands before this one is read from the left and what
stands behind it from the right. Then different columns have different names, a name
leads to its own aggregate and every generated cell stands at its own place in a row.
-/

namespace GridSql

/-! ## Texts that end and begin at a separator -/

/-- Behind the text stands the first separator. -/
def ClosedBy (separator text : List Char) : Prop :=
  ∀ before after, text ++ separator = before ++ (separator ++ after) → after = []

/-- In front of the text stands the last separator. -/
def OpenedBy (separator text : List Char) : Prop :=
  ∀ before after, separator ++ text = before ++ (separator ++ after) → before = []

theorem closedBy_of_notMem {c : Char} {text : List Char} (h : c ∉ text) :
    ClosedBy [c] text := by
  intro before after heq
  by_contra hafter
  obtain ⟨front, last, rfl⟩ : ∃ front last, after = front ++ [last] :=
    ⟨_, _, (List.dropLast_append_getLast hafter).symm⟩
  have inside : text = before ++ (c :: front) := by
    have joined : text ++ [c] = (before ++ (c :: front)) ++ [last] := by simpa using heq
    exact List.append_inj_left' joined rfl
  exact h (by simp [inside])

theorem openedBy_iff_reverse {separator text : List Char} :
    OpenedBy separator text ↔ ClosedBy separator.reverse text.reverse := by
  constructor
  · intro h before after heq
    have mirrored := congrArg List.reverse heq
    simp only [List.reverse_append, List.reverse_reverse, List.append_assoc] at mirrored
    exact List.reverse_eq_nil_iff.1 (h _ _ mirrored)
  · intro h before after heq
    have mirrored := congrArg List.reverse heq
    simp only [List.reverse_append, List.append_assoc] at mirrored
    exact List.reverse_eq_nil_iff.1 (h _ _ mirrored)

/-- Of two texts with a separator behind them the shorter one is no part of the longer. -/
theorem ClosedBy.eq_of_prefix {separator text more rest rest' : List Char}
    (h : ClosedBy separator (text ++ more))
    (heq : separator ++ rest = more ++ (separator ++ rest')) :
    more = [] := by
  -- The separator behind the shorter text starts inside the longer one.
  have early : separator <+: more ++ separator := by
    have first : separator <+: separator ++ rest := ⟨rest, rfl⟩
    have second : more ++ separator <+: separator ++ rest := by
      rw [heq, ← List.append_assoc]
      exact ⟨rest', rfl⟩
    exact List.prefix_of_prefix_length_le first second (by simp)
  obtain ⟨after, hafter⟩ := early
  have hnil := h text after (by rw [List.append_assoc, hafter])
  rw [hnil, List.append_nil] at hafter
  exact List.append_left_eq_self.1 hafter.symm

theorem ClosedBy.cancel {separator text text' rest rest' : List Char}
    (h : ClosedBy separator text) (h' : ClosedBy separator text')
    (heq : text ++ (separator ++ rest) = text' ++ (separator ++ rest')) :
    text = text' ∧ rest = rest' := by
  have same : text = text' := by
    rcases List.append_eq_append_iff.1 heq with ⟨more, rfl, hrest⟩ | ⟨more, rfl, hrest⟩
    · rw [h'.eq_of_prefix hrest, List.append_nil]
    · rw [h.eq_of_prefix hrest, List.append_nil]
  subst same
  exact ⟨rfl, List.append_cancel_left (List.append_cancel_left heq)⟩

/-! ## Joined texts -/

theorem intercalate_cancel_left {separator : List Char} {front front' : List (List Char)}
    (hlength : front.length = front'.length)
    (h : ∀ text ∈ front, ClosedBy separator text) (h' : ∀ text ∈ front', ClosedBy separator text)
    {back back' : List (List Char)} (hback : back ≠ []) (hback' : back' ≠ [])
    (heq : separator.intercalate (front ++ back) = separator.intercalate (front' ++ back')) :
    front = front' ∧ separator.intercalate back = separator.intercalate back' := by
  induction front generalizing front' with
  | nil =>
      rw [List.length_nil, eq_comm, List.length_eq_zero_iff] at hlength
      subst hlength
      exact ⟨rfl, heq⟩
  | cons text front ih =>
      obtain ⟨text', front', rfl⟩ := List.exists_cons_of_length_eq_add_one hlength.symm
      rw [List.cons_append, List.cons_append, List.intercalate_cons_of_ne_nil (by simp [hback]),
        List.intercalate_cons_of_ne_nil (by simp [hback']), List.append_assoc,
        List.append_assoc] at heq
      obtain ⟨rfl, hrest⟩ :=
        (h text List.mem_cons_self).cancel (h' text' List.mem_cons_self) heq
      obtain ⟨rfl, hjoined⟩ := ih (by simpa using hlength)
        (fun t ht => h t (List.mem_cons_of_mem _ ht))
        (fun t ht => h' t (List.mem_cons_of_mem _ ht)) hrest
      exact ⟨rfl, hjoined⟩

theorem intercalate_append_singleton (separator text : List Char) {texts : List (List Char)}
    (h : texts ≠ []) :
    separator.intercalate (texts ++ [text]) =
      separator.intercalate texts ++ (separator ++ text) := by
  induction texts with
  | nil => exact absurd rfl h
  | cons first rest ih =>
      by_cases hrest : rest = []
      · subst hrest
        simp [List.intercalate_cons_cons]
      · rw [List.cons_append, List.intercalate_cons_of_ne_nil (by simp), ih hrest,
          List.intercalate_cons_of_ne_nil hrest]
        simp only [List.append_assoc]

theorem reverse_intercalate (separator : List Char) (texts : List (List Char)) :
    (separator.intercalate texts).reverse =
      separator.reverse.intercalate (texts.map List.reverse).reverse := by
  induction texts with
  | nil => rfl
  | cons text rest ih =>
      by_cases hrest : rest = []
      · subst hrest
        simp
      · rw [List.intercalate_cons_of_ne_nil hrest, List.map_cons, List.reverse_cons,
          intercalate_append_singleton _ _ (by simpa using hrest), ← ih]
        simp [List.reverse_append, List.append_assoc]

theorem intercalate_cancel_right {separator : List Char} {back back' : List (List Char)}
    (hlength : back.length = back'.length)
    (h : ∀ text ∈ back, OpenedBy separator text) (h' : ∀ text ∈ back', OpenedBy separator text)
    {text text' : List Char}
    (heq : separator.intercalate (text :: back) = separator.intercalate (text' :: back')) :
    text = text' ∧ back = back' := by
  have mirrored := congrArg List.reverse heq
  rw [reverse_intercalate, reverse_intercalate, List.map_cons, List.map_cons, List.reverse_cons,
    List.reverse_cons] at mirrored
  have closed {texts : List (List Char)} (htexts : ∀ t ∈ texts, OpenedBy separator t) :
      ∀ t ∈ (texts.map List.reverse).reverse, ClosedBy separator.reverse t := by
    intro t ht
    obtain ⟨u, hu, rfl⟩ := List.mem_map.1 (List.mem_reverse.1 ht)
    exact openedBy_iff_reverse.1 (htexts u hu)
  obtain ⟨hback, htext⟩ := intercalate_cancel_left (by simpa using hlength) (closed h) (closed h')
    (by simp) (by simp) mirrored
  have htext' : text.reverse = text'.reverse := by simpa using htext
  have hback' : back.map List.reverse = back'.map List.reverse := List.reverse_injective hback
  exact ⟨List.reverse_injective htext',
    List.map_injective_iff.2 List.reverse_injective hback'⟩

/-! ## Names that can be taken apart -/

/--
Only one component may have the separator inside. Those before it end at the separator,
those behind it begin there.
-/
def Separable (separator : String) (components : List (List String)) : Prop :=
  ∃ front free back, components = front ++ free :: back ∧
    (∀ texts ∈ front, ∀ text ∈ texts, ClosedBy separator.toList text.toList) ∧
    ∀ texts ∈ back, ∀ text ∈ texts, OpenedBy separator.toList text.toList

theorem Separable.intercalate_injOn {separator : String} {components : List (List String)}
    (h : Separable separator components) {texts texts' : List String}
    (htexts : texts ∈ cartesianProduct components)
    (htexts' : texts' ∈ cartesianProduct components)
    (heq : separator.intercalate texts = separator.intercalate texts') :
    texts = texts' := by
  obtain ⟨front, free, back, rfl, hfront, hback⟩ := h
  -- A choice has its parts before, at and behind the free component.
  have split {chosen : List String} (hchosen : chosen ∈ cartesianProduct (front ++ free :: back)) :
      ∃ before text after, chosen = before ++ text :: after ∧ before.length = front.length ∧
        after.length = back.length ∧
        (∀ t ∈ before.map String.toList, ClosedBy separator.toList t) ∧
        ∀ t ∈ after.map String.toList, OpenedBy separator.toList t := by
    have hall := mem_cartesianProduct_iff.1 hchosen
    have hbefore := List.forall₂_take_append _ _ _ hall
    have hbehind := List.forall₂_drop_append _ _ _ hall
    obtain ⟨text, after, htext, hafter, hcons⟩ := List.forall₂_cons_right_iff.1 hbehind
    refine ⟨chosen.take front.length, text, after, ?_, hbefore.length_eq, hafter.length_eq,
      fun t ht => ?_, fun t ht => ?_⟩
    · rw [← hcons, List.take_append_drop]
    · obtain ⟨s, hs, rfl⟩ := List.mem_map.1 ht
      obtain ⟨options, hoptions, hmem⟩ := exists_of_mem_left hbefore hs
      exact hfront options hoptions s hmem
    · obtain ⟨s, hs, rfl⟩ := List.mem_map.1 ht
      obtain ⟨options, hoptions, hmem⟩ := exists_of_mem_left hafter hs
      exact hback options hoptions s hmem
  obtain ⟨before, text, after, rfl, hlb, hla, hclosed, hopened⟩ := split htexts
  obtain ⟨before', text', after', rfl, hlb', hla', hclosed', hopened'⟩ := split htexts'
  have characters := congrArg String.toList heq
  simp only [String.toList_intercalate, List.map_append, List.map_cons] at characters
  obtain ⟨hb, hrest⟩ := intercalate_cancel_left (by simp [hlb, hlb']) hclosed hclosed'
    (by simp) (by simp) characters
  obtain ⟨ht, ha⟩ := intercalate_cancel_right (by simp [hla, hla']) hopened hopened' hrest
  have injective : Function.Injective String.toList := fun a b => String.toList_inj.1
  rw [List.map_injective_iff.2 injective hb, injective ht, List.map_injective_iff.2 injective ha]

/-! ## Generated columns -/

namespace PivotContext

variable {r : Request} {values : List (String × List Value)} {aggregates : AggregateRegistry}
  {separator : String} {limit : Option Nat} {p : PivotContext}

/-- The texts that generated names are made of: those of each pivot column, then the fields. -/
def components (r : Request) (values : List (String × List Value)) : List (List String) :=
  values.map (fun column => column.2.map Value.namePart) ++ [r.valueCols.map (·.field)]

def parts (combination : List PivotPair) : List String :=
  combination.map (·.value.namePart)

theorem columnName_eq {combination : List PivotPair} (h : combination ≠ []) (field : String) :
    columnName separator combination field =
      separator.intercalate (parts combination ++ [field]) := by
  have hparts : parts combination ≠ [] := by simpa [parts] using h
  rw [String.intercalate_append_of_ne_nil hparts (by simp), String.intercalate_singleton]
  rfl

theorem build_ok (built : build r values aggregates separator limit = .ok p) :
    p.separator = separator ∧
      p.combinations =
        cartesianProduct (values.map fun column => column.2.map fun v => ⟨column.1, v⟩) ∧
      ∃ columns, p.columns = columns.flatten ∧ List.Forall₂ (fun combination made =>
        columnsOf aggregates separator r.valueCols combination = .ok made)
          p.combinations columns := by
  obtain ⟨_, -, built⟩ := bind_ok_iff.1 built
  obtain ⟨columns, hcolumns, built⟩ := bind_ok_iff.1 built
  cases built
  exact ⟨rfl, rfl, columns, rfl, mapM_ok_iff.1 hcolumns⟩

theorem columnsOf_ok {cols : List ColumnRef} {combination : List PivotPair}
    {made : List PivotColumn}
    (h : columnsOf aggregates separator cols combination = .ok made) :
    List.Forall₂ (fun c column => column.name = columnName separator combination c.field ∧
      ∃ function, AggregateRegistry.functionName c = .ok function ∧
        aggregates.apply function (matching combination c.field) = .ok column.expr)
      cols made := by
  refine (mapM_ok_iff.1 h).imp fun c column hcolumn => ?_
  obtain ⟨function, hfunction, hcolumn⟩ := bind_ok_iff.1 hcolumn
  obtain ⟨e, he, hcolumn⟩ := bind_ok_iff.1 hcolumn
  cases hcolumn
  exact ⟨rfl, function, hfunction, he⟩

theorem resultFields_eq (built : build r values aggregates separator limit = .ok p) :
    p.resultFields = p.combinations.flatMap fun combination =>
      r.valueCols.map fun c => columnName separator combination c.field := by
  obtain ⟨-, -, columns, hcolumns, hmade⟩ := build_ok built
  rw [resultFields, hcolumns]
  clear hcolumns
  generalize p.combinations = combinations at hmade
  induction hmade with
  | nil => rfl
  | @cons combination made combinations columns hfirst _ ih =>
      rw [List.flatten_cons, List.map_append, ih, List.flatMap_cons]
      congr 1
      exact map_eq_of_forall₂ ((columnsOf_ok hfirst).imp fun _ _ hcolumn => hcolumn.1)

/-- The generated names are the joined choices of one text from each component. -/
theorem resultFields_eq_map (built : build r values aggregates separator limit = .ok p)
    (nonempty : values ≠ []) :
    p.resultFields = (cartesianProduct (components r values)).map separator.intercalate := by
  obtain ⟨-, hcombinations, -⟩ := build_ok built
  have hparts : p.combinations.map parts =
      cartesianProduct (values.map fun column => column.2.map Value.namePart) := by
    have hlists : values.map (fun column => column.2.map Value.namePart) =
        (values.map fun column => column.2.map fun v => (⟨column.1, v⟩ : PivotPair)).map
          (List.map fun pair => pair.value.namePart) := by
      simp [Function.comp_def]
    rw [hcombinations, hlists]
    exact map_cartesianProduct _ _
  have hne : ∀ combination ∈ p.combinations, combination ≠ [] := by
    intro combination hmem hnil
    rw [hcombinations, mem_cartesianProduct_iff, hnil, List.forall₂_nil_left_iff] at hmem
    exact nonempty (by simpa using hmem)
  rw [resultFields_eq built, components, cartesianProduct_append_singleton, ← hparts,
    List.flatMap_map, List.map_flatMap]
  refine List.flatMap_congr fun combination hmem => ?_
  rw [List.map_map, List.map_map]
  exact List.map_congr_left fun c _ => columnName_eq (hne combination hmem) c.field

theorem resultFields_nodup (built : build r values aggregates separator limit = .ok p)
    (nonempty : values ≠ []) (distinct : ∀ texts ∈ components r values, texts.Nodup)
    (separable : Separable separator (components r values)) :
    p.resultFields.Nodup := by
  rw [resultFields_eq_map built nonempty]
  exact (nodup_cartesianProduct distinct).map_on fun texts htexts texts' htexts' =>
    separable.intercalate_injOn htexts htexts'

theorem expression?_of_mem (nodup : p.resultFields.Nodup) {column : PivotColumn}
    (h : column ∈ p.columns) :
    p.expression? column.name = some column.expr := by
  have hfind : p.columns.find? (·.name = column.name) = some column := by
    rw [List.find?_eq_some_iff_append]
    obtain ⟨front, back, hcolumns⟩ := List.append_of_mem h
    refine ⟨by simp, front, back, hcolumns, fun other hother => ?_⟩
    rw [resultFields, hcolumns, List.map_append, List.nodup_append] at nodup
    simpa using nodup.2.2 _ (List.mem_map_of_mem hother) column.name (by simp)
  rw [expression?, hfind]
  rfl

/--
Where the texts of each component differ and the separator can be seen between them, the
generated names differ, each name leads to the aggregate that it was generated for, and
each generated cell stands at its place in the object of a row.
-/
theorem build_names_apart (built : build r values aggregates separator limit = .ok p)
    (nonempty : values ≠ []) (distinct : ∀ texts ∈ components r values, texts.Nodup)
    (separable : Separable separator (components r values)) :
    p.resultFields.Nodup ∧
      (∀ combination ∈ p.combinations, ∀ c ∈ r.valueCols, ∃ function e,
        AggregateRegistry.functionName c = .ok function ∧
          aggregates.apply function (matching combination c.field) = .ok e ∧
            p.expression? (columnName separator combination c.field) = some e) ∧
      (∀ nested : Bool, (nested = true → ∀ a ∈ p.resultFields, ∀ b ∈ p.resultFields,
        ∀ rest, b ≠ a ++ "." ++ rest) →
          ∀ (before : List (String × Value)) (cells : List Value),
            ∀ cell ∈ p.resultFields.zip cells,
              RowObject.at? (RowObject.cellPath nested cell.1)
                (RowObject.ofCells nested (before ++ p.resultFields.zip cells)) =
                  some cell.2.toJson) := by
  have nodup := resultFields_nodup built nonempty distinct separable
  obtain ⟨-, -, columns, hcolumns, hmade⟩ := build_ok built
  refine ⟨nodup, fun combination hcombination c hc => ?_, fun nested undotted before cells cell
    hcell => ?_⟩
  · obtain ⟨made, hmem, hcolumnsOf⟩ := exists_of_mem_left hmade hcombination
    obtain ⟨column, hcolumn, hname, function, hfunction, hexpr⟩ :=
      exists_of_mem_left (columnsOf_ok hcolumnsOf) hc
    refine ⟨function, column.expr, hfunction, hexpr, ?_⟩
    rw [← hname]
    refine expression?_of_mem nodup ?_
    rw [hcolumns]
    exact List.mem_flatten_of_mem hmem hcolumn
  · refine RowObject.at?_ofCells_zip before ?_ hcell
    refine List.Pairwise.imp_of_mem (fun {a b} ha hb hne => ?_) nodup
    cases nested with
    | false => exact (RowObject.apart_flat_iff a b).2 hne
    | true =>
        refine (RowObject.apart_nested_iff a b).2 ⟨hne, ?_, ?_⟩
        · rintro ⟨rest, hrest⟩
          exact undotted rfl a ha b hb rest hrest
        · rintro ⟨rest, hrest⟩
          exact undotted rfl b hb a ha rest hrest

def wagesByYear : Request where
  pivotMode := true
  pivotCols := [{ field := "year" }]
  valueCols := [{ field := "net_wage", aggFunc := some "sum" }]

theorem build_names_apart_wages :
    ∃ p, build wagesByYear [("year", [.text "2023", .text "2024"])] .builtin "_" none = .ok p ∧
      p.resultFields.Nodup := by
  obtain ⟨p, built⟩ : ∃ p, build wagesByYear [("year", [.text "2023", .text "2024"])] .builtin "_"
      none = .ok p := ⟨_, rfl⟩
  refine ⟨p, built, (build_names_apart built (by simp) ?_ ?_).1⟩
  · decide +kernel
  · refine ⟨[["2023", "2024"]], ["net_wage"], [], by decide +kernel, ?_, by simp⟩
    have years : ∀ text ∈ ["2023", "2024"], '_' ∉ text.toList := by decide +kernel
    intro texts htexts text htext
    rw [List.mem_singleton.1 htexts] at htext
    exact closedBy_of_notMem (years text htext)

/-- The missing year and the text null give one name. -/
theorem not_build_names_apart :
    ¬ ∀ (r : Request) (values : List (String × List Value)) (aggregates : AggregateRegistry)
        (separator : String) (limit : Option Nat) (p : PivotContext),
      r.isPivoting = true → values.map (·.1) = r.pivotCols.map (·.field) →
        (r.pivotCols.map (·.field)).Nodup → (r.valueCols.map (·.field)).Nodup →
          (∀ column ∈ values, column.2.Pairwise fun v w => v.same w = false) →
            separator ≠ "" → build r values aggregates separator limit = .ok p →
              p.resultFields.Nodup := by
  intro allApart
  obtain ⟨p, built, hfields⟩ : ∃ p, build wagesByYear [("year", [.null, .text "null"])] .builtin
      "_" none = .ok p ∧ p.resultFields = ["null_net_wage", "null_net_wage"] :=
    ⟨_, rfl, by cbv⟩
  have nodup := allApart wagesByYear _ .builtin "_" none p rfl rfl (by decide) (by decide)
    (by decide) (by decide) built
  rw [hfields] at nodup
  exact absurd nodup (by decide)

end PivotContext

end GridSql
