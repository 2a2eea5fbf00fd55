import GridSql.Proofs.Filter.Recognition

/-!
# Own recognizers of the server

They are asked only where the built-in reading fails, in order, and the first one that accepts
is taken. A failure can be made good at the node where it arises or at any node around it, but
what the built-in reading accepts is never changed, and recognizers that decline everything
change no error.
-/

namespace GridSql

namespace Recognizers

/--
Whether a payload is a node of another one: the payload itself, or one of the objects that a
node of the family has under its key.
-/
inductive Inside (family key : String) (node : Payload) : Payload → Prop
  | self : Inside family key node node
  | child {payload child : Payload} {items : List Json}
      (named : payload.HasString "filterType" family)
      (listed : Json.lookup key payload = some (.array items)) (entry : .object child ∈ items)
      (inside : Inside family key node child) : Inside family key node payload

/-- Whether the recognizers of columns decline a filter and all filters inside it. -/
def DeclinesColumn (r : Recognizers) (id : String) (payload : Payload) : Prop :=
  ∀ node, Inside "multi" "filterModels" node payload → ∀ f ∈ r.column, f id node = none

/-- Whether the recognizers of advanced filters decline a filter and all filters inside it. -/
def DeclinesAdvanced (r : Recognizers) (payload : Payload) : Prop :=
  ∀ node, Inside "join" "conditions" node payload → ∀ f ∈ r.advanced, f node = none

def Declines (r : Recognizers) (model : Json) : Prop :=
  ∀ payload, model = .object payload →
    if isColumnKeyed payload then
      ∀ id filter, (id, .object filter) ∈ payload → r.DeclinesColumn id filter
    else r.DeclinesAdvanced payload

/-- Whether a result is that of the first attempt that accepts, or an error if none does. -/
structure FirstAccepted {α : Type} (attempts : List (Option α)) (e : QueryError)
    (x : Except QueryError α) : Prop where
  accepted : ∀ before a after, attempts = before ++ some a :: after →
    (∀ attempt ∈ before, attempt = none) → x = .ok a
  declined : (∀ attempt ∈ attempts, attempt = none) → x = .error e

variable {r : Recognizers} {α : Type} {column path : String} {payload : Payload}
  {items : List Json} {vs : Violations}

/-! ## One node -/

theorem rescue_of_declined {x : Except QueryError α} {attempts : List (Option α)}
    (declined : ∀ attempt ∈ attempts, attempt = none) :
    rescue x attempts = x := by
  cases x with
  | ok a => rfl
  | error e =>
      unfold rescue
      have none_found : attempts.findSome? id = none := List.findSome?_eq_none_iff.2 declined
      rw [none_found]

theorem firstAccepted_rescue (e : QueryError) (attempts : List (Option α)) :
    FirstAccepted attempts e (rescue (.error e) attempts) where
  accepted := by
    rintro before a after rfl declined
    unfold rescue
    have none_found : before.findSome? id = none := List.findSome?_eq_none_iff.2 declined
    rw [List.findSome?_append, none_found]
    rfl
  declined := rescue_of_declined

/-- A node that the built-in reading accepts is not shown to any recognizer. -/
theorem columnFilter_of_builtin {f : ColumnFilter} (h : r.builtinColumn column payload = .ok f) :
    r.columnFilter column payload = .ok f := by
  rw [columnFilter, h]
  rfl

theorem advancedFilter_of_builtin {f : AdvancedFilter} (h : r.builtinAdvanced payload = .ok f) :
    r.advancedFilter payload = .ok f := by
  rw [advancedFilter, h]
  rfl

theorem DeclinesColumn.child {child : Payload} (h : r.DeclinesColumn column payload)
    (named : payload.HasString "filterType" "multi")
    (listed : Json.lookup "filterModels" payload = some (.array items))
    (entry : .object child ∈ items) : r.DeclinesColumn column child :=
  fun node inside => h node (.child named listed entry inside)

theorem DeclinesAdvanced.child {child : Payload} (h : r.DeclinesAdvanced payload)
    (named : payload.HasString "filterType" "join")
    (listed : Json.lookup "conditions" payload = some (.array items))
    (entry : .object child ∈ items) : r.DeclinesAdvanced child :=
  fun node inside => h node (.child named listed entry inside)

/-! ## Lists of filters -/

/--
What an entry of a list is to the list: a filter that is read and then shown in some form, a place
without a filter, or an error.
-/
inductive Entry (α β : Type) where
  | filter (x : Except QueryError α) (shown : α → β)
  | place (b : β)
  | refused (e : QueryError)

namespace Entry

variable {α β : Type} {x : Except QueryError α} {shown : α → β} {b : β} {p : Prop}
  {entries rest : List (Entry α β)}

def readAll (vs : Violations) : List (Entry α β) → Except QueryError (List β × Violations)
  | [] => .ok ([], vs)
  | .filter x shown :: rest =>
      Violations.take vs x >>= fun taken => readAll taken.2 rest >>= fun others =>
        .ok ((taken.1.map shown).toList ++ others.1, others.2)
  | .place b :: rest => readAll vs rest >>= fun others => .ok (b :: others.1, others.2)
  | .refused e :: _ => .error e

def Clean (x : Except QueryError (List β × Violations)) : Prop :=
  ∃ filters, x = .ok (filters, [])

theorem clean_of_finish {γ : Type} {list : Except QueryError (List β × Violations)}
    {f : List β → γ} {c : γ}
    (h : (list >>= fun found => Violations.finish found.2 (f found.1)) = .ok c) : Clean list := by
  obtain ⟨⟨filters, found⟩, hread, h⟩ := bind_ok_iff.1 h
  obtain ⟨rfl, -⟩ := Violations.finish_ok_iff.1 h
  exact ⟨filters, hread⟩

theorem clean_place (h : Clean (readAll vs (.place b :: rest))) : Clean (readAll vs rest) := by
  obtain ⟨filters, h⟩ := h
  obtain ⟨⟨others, found⟩, hrest, h⟩ := bind_ok_iff.1 h
  cases h
  exact ⟨others, hrest⟩

/--
Whether an entry is the same as another one, except that its filter need only be read as the
other one's where that succeeds or `p` holds.
-/
inductive AgreesIf (p : Prop) : Entry α β → Entry α β → Prop
  | filter {x y : Except QueryError α} {shown : α → β} (explained : Explained x)
      (same : (∃ a, x = .ok a) ∨ p → y = x) : AgreesIf p (.filter x shown) (.filter y shown)
  | place (b : β) : AgreesIf p (.place b) (.place b)
  | refused (e : QueryError) : AgreesIf p (.refused e) (.refused e)

/-- Violations that are found in a list are still there behind the rest of it. -/
theorem clean_filter (explained : Explained x) (nil : ∀ us, Clean (readAll us rest) → us = [])
    (h : Clean (readAll vs (.filter x shown :: rest))) :
    vs = [] ∧ (∃ a, x = .ok a) ∧ ∀ us taken, Violations.take vs x = .ok (taken, us) →
      Clean (readAll us rest) := by
  obtain ⟨filters, h⟩ := h
  obtain ⟨⟨taken, us⟩, htake, h⟩ := bind_ok_iff.1 h
  obtain ⟨⟨others, found⟩, hrest, h⟩ := bind_ok_iff.1 h
  cases h
  have clean : Clean (readAll us rest) := ⟨others, hrest⟩
  cases nil us clean
  obtain ⟨hvs, a, ha, -⟩ := Violations.take_ok explained htake
  refine ⟨hvs, ⟨a, ha⟩, fun us' taken' htake' => ?_⟩
  cases htake.symm.trans htake'
  exact clean

variable {entries' : List (Entry α β)}

/-- A list that is not read without violations behind some is read without any before it. -/
theorem nil_of_clean (agree : List.Forall₂ (AgreesIf p) entries entries') :
    ∀ vs, Clean (readAll vs entries) → vs = [] := by
  induction agree with
  | nil =>
      rintro vs ⟨filters, h⟩
      cases h
      rfl
  | cons head _ ih =>
      intro vs clean
      cases head with
      | filter explained => exact (clean_filter explained ih clean).1
      | place => exact ih vs (clean_place clean)
      | refused =>
          obtain ⟨filters, h⟩ := clean
          cases h

/-- Lists whose entries agree are read alike, unless there are violations and `p` does not hold. -/
theorem readAll_eq (agree : List.Forall₂ (AgreesIf p) entries entries')
    (settled : Clean (readAll vs entries) ∨ p) :
    readAll vs entries' = readAll vs entries := by
  induction agree generalizing vs with
  | nil => rfl
  | @cons _ _ rest _ head others ih =>
      cases head with
      | refused => rfl
      | place => exact congrArg (· >>= _) (ih (settled.imp_left clean_place))
      | @filter x _ _ explained same =>
          -- The rest is read behind what the filter has added to the violations.
          obtain ⟨first, behind⟩ : ((∃ a, x = .ok a) ∨ p) ∧ ∀ us taken,
              Violations.take vs x = .ok (taken, us) → Clean (readAll us rest) ∨ p := by
            rcases settled with clean | holds
            · obtain ⟨-, succeeds, behind⟩ := clean_filter explained (nil_of_clean others) clean
              exact ⟨.inl succeeds, fun us taken htake => .inl (behind us taken htake)⟩
            · exact ⟨.inr holds, fun _ _ _ => .inr holds⟩
          rw [readAll, readAll, same first]
          refine bind_congr_of_ok fun taken htake => ?_
          rw [ih (behind taken.2 taken.1 htake)]

theorem forall₂_agreesIf {ι : Type} {items : List ι} {f g : ι → Entry α β}
    (h : ∀ item ∈ items, AgreesIf p (f item) (g item)) :
    List.Forall₂ (AgreesIf p) (items.map f) (items.map g) := by
  rw [List.forall₂_map_left_iff, List.forall₂_map_right_iff, List.forall₂_same]
  exact h

end Entry

open Entry

def childEntry (r : Recognizers) (column path : String) :
    Json → Entry ColumnFilter (Option ColumnFilter)
  | .object child => .filter (r.columnFilter column child) some
  | .null => .place none
  | other => .refused (.refused (Payload.field path "filterModels") "must hold objects" other)

def advancedEntry (r : Recognizers) : Json → Entry AdvancedFilter AdvancedFilter
  | .object child => .filter (r.advancedFilter child) id
  | other => .refused (.unrecognized "advanced filter" other.compact)

def filterMembers (payload : Payload) : List (String × Payload) :=
  payload.filterMap fun member => member.2.asObject?.map (member.1, ·)

def columnEntry (r : Recognizers) (filter : String × Payload) :
    Entry ColumnFilter (String × ColumnFilter) :=
  .filter (r.columnFilter filter.1 filter.2) (filter.1, ·)

theorem childFilters_eq_readAll (r : Recognizers) (column path : String) (vs : Violations)
    (items : List Json) :
    r.childFilters column path vs items = readAll vs (items.map (r.childEntry column path)) := by
  induction items generalizing vs with
  | nil =>
      rw [childFilters]
      rfl
  | cons item rest ih =>
      cases item with
      | object | null =>
          simp only [childFilters, ih]
          rfl
      | _ =>
          rw [childFilters]
          · rfl
          · simp
          · simp

theorem advancedFilters_eq_readAll (r : Recognizers) (vs : Violations) (items : List Json) :
    r.advancedFilters vs items = readAll vs (items.map r.advancedEntry) := by
  induction items generalizing vs with
  | nil =>
      rw [advancedFilters]
      rfl
  | cons item rest ih =>
      cases item with
      | object child =>
          simp only [advancedFilters, ih, List.map_cons, advancedEntry, readAll, Option.map_id]
          rfl
      | _ =>
          rw [advancedFilters]
          · rfl
          · simp

theorem columnFilters_eq_readAll (r : Recognizers) (vs : Violations) (payload : Payload) :
    r.columnFilters vs payload = readAll vs ((filterMembers payload).map r.columnEntry) := by
  induction payload generalizing vs with
  | nil => rfl
  | cons member rest ih =>
      obtain ⟨column, j⟩ := member
      cases j with
      | object filter =>
          simp only [columnFilters, ih]
          rfl
      | _ => exact ih vs

theorem mem_filterMembers {filter : String × Payload} (h : filter ∈ filterMembers payload) :
    (filter.1, .object filter.2) ∈ payload := by
  obtain ⟨⟨column, j⟩, hmember, hfilter⟩ := List.mem_filterMap.1 h
  cases j with
  | object members =>
      cases hfilter
      exact hmember
  | _ => cases hfilter

/-- Children whose results are the same as without recognizers give the same list. -/
theorem childFilters_eq
    (same : ∀ child, .object child ∈ items →
      (∃ f, columnFilter {} column child = .ok f) ∨ r.DeclinesColumn column child →
        r.columnFilter column child = columnFilter {} column child)
    (settled : Clean (childFilters {} column path vs items) ∨
      ∀ child, .object child ∈ items → r.DeclinesColumn column child) :
    r.childFilters column path vs items = childFilters {} column path vs items := by
  simp only [childFilters_eq_readAll] at settled ⊢
  refine readAll_eq (forall₂_agreesIf fun item hitem => ?_) settled
  cases item with
  | object child =>
      refine .filter (explained_columnFilter {} column child) fun first => same child hitem ?_
      exact first.imp_right fun declined => declined child hitem
  | null => exact .place _
  | _ => exact .refused _

theorem advancedFilters_eq
    (same : ∀ child, .object child ∈ items →
      (∃ f, advancedFilter {} child = .ok f) ∨ r.DeclinesAdvanced child →
        r.advancedFilter child = advancedFilter {} child)
    (settled : Clean (advancedFilters {} vs items) ∨
      ∀ child, .object child ∈ items → r.DeclinesAdvanced child) :
    r.advancedFilters vs items = advancedFilters {} vs items := by
  simp only [advancedFilters_eq_readAll] at settled ⊢
  refine readAll_eq (forall₂_agreesIf fun item hitem => ?_) settled
  cases item with
  | object child =>
      refine .filter (explained_advancedFilter {} child) fun first => same child hitem ?_
      exact first.imp_right fun declined => declined child hitem
  | _ => exact .refused _

theorem columnFilters_eq
    (same : ∀ column filter,
      (∃ f, columnFilter {} column filter = .ok f) ∨ r.DeclinesColumn column filter →
        r.columnFilter column filter = columnFilter {} column filter)
    (settled : Clean (columnFilters {} vs payload) ∨
      ∀ column filter, (column, .object filter) ∈ payload → r.DeclinesColumn column filter) :
    r.columnFilters vs payload = columnFilters {} vs payload := by
  simp only [columnFilters_eq_readAll] at settled ⊢
  refine readAll_eq (forall₂_agreesIf fun filter hfilter => ?_) settled
  refine .filter (explained_columnFilter {} filter.1 filter.2) fun first => same _ _ ?_
  exact first.imp_right fun declined => declined _ _ (mem_filterMembers hfilter)

/-! ## Nodes and the lists inside them -/

theorem hasString_of_requiredString {key s : String}
    (h : Payload.requiredString payload key path = .ok s) : payload.HasString key s := by
  unfold Payload.requiredString at h
  split at h
  · next found =>
      cases h
      exact found
  · cases h
  · cases h

theorem entries?_of_lookup {key : String}
    (listed : Json.lookup key payload = some (.array items)) :
    payload.entries? key = some items := by
  rw [Payload.entries?, Payload.member, listed]
  rfl

/-- The built-in reading of a column asks recognizers for the children of a multi filter only. -/
theorem builtinColumn_eq_or_children (column : String) (payload : Payload) :
    (∀ r : Recognizers, r.builtinColumn column payload = builtinColumn {} column payload) ∨
      ∃ items, payload.HasString "filterType" "multi" ∧
        Json.lookup "filterModels" payload = some (.array items) ∧
        ∀ r : Recognizers, r.builtinColumn column payload =
          r.childFilters column s!"filterModel.{column}" [] items >>= fun found =>
            Violations.finish found.2 (.multi found.1) := by
  by_cases multi : payload.HasString "filterType" "multi" ∧ payload.isCombined = false ∧
      ∃ items, Json.lookup "filterModels" payload = some (.array items)
  · obtain ⟨named, plain, items, listed⟩ := multi
    exact .inr ⟨items, named, listed,
      fun r => builtinColumn_entries named plain (entries?_of_lookup listed)⟩
  · refine .inl fun r => ?_
    rw [builtinColumn, builtinColumn]
    refine bind_congr_of_ok fun family hfamily => ?_
    dsimp only
    split
    · rfl
    · next plain =>
        split
        · rfl
        split
        · rfl
        split
        · next name =>
            split
            · next items listed =>
                have named := hasString_of_requiredString (name ▸ hfamily)
                exact absurd ⟨named, Bool.eq_false_iff.2 plain, items, listed⟩ multi
            · rfl
            · rfl
            · rfl
        · rfl

/-- The built-in reading of a node asks recognizers for the children of a join only. -/
theorem builtinAdvanced_eq_or_children (payload : Payload) :
    (∀ r : Recognizers, r.builtinAdvanced payload = builtinAdvanced {} payload) ∨
      ∃ operator items, payload.HasString "filterType" "join" ∧
        Json.lookup "conditions" payload = some (.array items) ∧
        ∀ r : Recognizers, r.builtinAdvanced payload =
          word JoinOp.ofName? "join operator" operator >>= fun op =>
            r.advancedFilters [] items >>= fun found =>
              Violations.finish found.2 (.join op found.1) := by
  by_cases join : payload.HasString "filterType" "join" ∧
      (∃ operator, payload.HasString "type" operator) ∧
      ∃ items, Json.lookup "conditions" payload = some (.array items)
  · obtain ⟨named, ⟨operator, typed⟩, items, listed⟩ := join
    exact .inr ⟨operator, items, named, listed,
      fun r => builtinAdvanced_entries named typed (entries?_of_lookup listed)⟩
  · refine .inl fun r => ?_
    rw [builtinAdvanced, builtinAdvanced]
    refine bind_congr_of_ok fun family hfamily => ?_
    split
    · next name =>
        refine bind_congr_of_ok fun operator hoperator => bind_congr_of_ok fun op _ => ?_
        split
        · next items listed =>
            have named := hasString_of_requiredString (name ▸ hfamily)
            have typed := hasString_of_requiredString hoperator
            exact absurd ⟨named, ⟨operator, typed⟩, items, listed⟩ join
        · rfl
        · rfl
        · rfl
    · rfl

/-! ## Results at every depth -/

/-- Where recognition succeeds without recognizers, or all decline, they change nothing. -/
theorem columnFilter_eq (column : String) (payload : Payload)
    (settled : (∃ f, columnFilter {} column payload = .ok f) ∨ r.DeclinesColumn column payload) :
    r.columnFilter column payload = columnFilter {} column payload := by
  rw [columnFilter_default] at settled ⊢
  have builtin : r.builtinColumn column payload = builtinColumn {} column payload := by
    rcases builtinColumn_eq_or_children column payload with
      own | ⟨items, named, listed, children⟩
    · exact own r
    · rw [children r, children {}]
      rw [children {}] at settled
      rw [childFilters_eq fun child entry => columnFilter_eq column child]
      refine settled.imp ?_ fun declined child entry => declined.child named listed entry
      exact fun ⟨f, h⟩ => clean_of_finish h
  rcases settled with ⟨f, h⟩ | declined
  · rw [h]
    exact columnFilter_of_builtin (builtin.trans h)
  · rw [columnFilter, builtin]
    exact rescue_of_declined (List.forall_mem_map.2 (declined payload .self))
termination_by sizeOf payload
decreasing_by exact sizeOf_child_lt listed entry

theorem advancedFilter_eq (payload : Payload)
    (settled : (∃ f, advancedFilter {} payload = .ok f) ∨ r.DeclinesAdvanced payload) :
    r.advancedFilter payload = advancedFilter {} payload := by
  rw [advancedFilter_default] at settled ⊢
  have builtin : r.builtinAdvanced payload = builtinAdvanced {} payload := by
    rcases builtinAdvanced_eq_or_children payload with
      own | ⟨operator, items, named, listed, children⟩
    · exact own r
    · rw [children r, children {}]
      rw [children {}] at settled
      refine bind_congr_of_ok fun op hop => ?_
      rw [advancedFilters_eq fun child entry => advancedFilter_eq child]
      refine settled.imp ?_ fun declined child entry => declined.child named listed entry
      rintro ⟨f, h⟩
      obtain ⟨_, hop', h⟩ := bind_ok_iff.1 h
      cases hop.symm.trans hop'
      exact clean_of_finish h
  rcases settled with ⟨f, h⟩ | declined
  · rw [h]
    exact advancedFilter_of_builtin (builtin.trans h)
  · rw [advancedFilter, builtin]
    exact rescue_of_declined (List.forall_mem_map.2 (declined payload .self))
termination_by sizeOf payload
decreasing_by exact sizeOf_child_lt listed entry

theorem recognize_eq (j : Json)
    (settled : (∃ model, recognize {} j = .ok model) ∨ r.Declines j) :
    r.recognize j = recognize {} j := by
  cases j with
  | object payload =>
      unfold recognize at settled ⊢
      dsimp only at settled ⊢
      cases keyed : isColumnKeyed payload with
      | true =>
          rw [keyed] at settled
          rw [if_pos rfl, if_pos rfl, columnFilters_eq columnFilter_eq]
          refine settled.imp (fun ⟨model, h⟩ => clean_of_finish h) fun declined => ?_
          · have each := declined payload rfl
            rwa [if_pos keyed] at each
      | false =>
          rw [keyed] at settled
          rw [if_neg (by decide), if_neg (by decide), advancedFilter_eq payload]
          refine settled.imp ?_ fun declined => ?_
          · rintro ⟨model, h⟩
            obtain ⟨f, hf, -⟩ := map_ok_iff.1 h
            exact ⟨f, hf⟩
          · have tree := declined payload rfl
            rwa [if_neg (by simp [keyed])] at tree
  | _ => rfl

/-- What own recognizers change about recognition. -/
structure Conservative (r : Recognizers) : Prop where
  keeps : ∀ j model, recognize {} j = .ok model → r.recognize j = .ok model
  keepsColumn : ∀ column payload f, columnFilter {} column payload = .ok f →
    r.columnFilter column payload = .ok f
  keepsAdvanced : ∀ payload f, advancedFilter {} payload = .ok f →
    r.advancedFilter payload = .ok f
  declined : ∀ j, r.Declines j → r.recognize j = recognize {} j
  declinedColumn : ∀ column payload, r.DeclinesColumn column payload →
    r.columnFilter column payload = columnFilter {} column payload
  declinedAdvanced : ∀ payload, r.DeclinesAdvanced payload →
    r.advancedFilter payload = advancedFilter {} payload
  rescuesColumn : ∀ column payload e, r.builtinColumn column payload = .error e →
    FirstAccepted (r.column.map fun f => f column payload) e (r.columnFilter column payload)
  rescuesAdvanced : ∀ payload e, r.builtinAdvanced payload = .error e →
    FirstAccepted (r.advanced.map fun f => f payload) e (r.advancedFilter payload)

/--
Own recognizers change no filter model that is read without them, at any depth, and no error
where they all decline. A node that the built-in reading refuses, with what they have made of its
children, has the filter of the first one that accepts it, or the built-in error.
-/
theorem conservative (r : Recognizers) : r.Conservative where
  keeps := fun j model h => (recognize_eq j (.inl ⟨model, h⟩)).trans h
  keepsColumn := fun column payload f h =>
    (columnFilter_eq column payload (.inl ⟨f, h⟩)).trans h
  keepsAdvanced := fun payload f h => (advancedFilter_eq payload (.inl ⟨f, h⟩)).trans h
  declined := fun j declined => recognize_eq j (.inr declined)
  declinedColumn := fun column payload declined => columnFilter_eq column payload (.inr declined)
  declinedAdvanced := fun payload declined => advancedFilter_eq payload (.inr declined)
  rescuesColumn := by
    intro column payload e h
    rw [columnFilter, h]
    exact firstAccepted_rescue e _
  rescuesAdvanced := by
    intro payload e h
    rw [advancedFilter, h]
    exact firstAccepted_rescue e _

/-- Recognizers of which the second one knows filters of a type of its own. -/
def flags : Recognizers where
  column :=
    [fun _ _ => none,
      fun column payload =>
        if (payload.member "filterType").asString? = some "flag" then
          some (.set [some column, none])
        else none]

def flagFilter : Payload := [("filterType", .string "flag")]

def flagModels : Payload :=
  [("filterModels", .array [.null, .object flagFilter]), ("filterType", .string "multi")]

/-- The child is made good where it is refused, and the multi filter around it is read. -/
theorem conservative_flags :
    flags.builtinColumn "late" flagFilter = .error (.unrecognized "filter type" "flag") ∧
      flags.columnFilter "late" flagFilter = .ok (.set [some "late", none]) ∧
      flags.columnFilter "late" flagModels =
        .ok (.multi [none, some (.set [some "late", none])]) := by
  have refused : flags.builtinColumn "late" flagFilter =
      .error (.unrecognized "filter type" "flag") := builtinColumn_other rfl rfl (by decide)
  have rescued : flags.columnFilter "late" flagFilter = .ok (.set [some "late", none]) :=
    (conservative flags |>.rescuesColumn _ _ _ refused).accepted [none] _ [] rfl (by simp)
  have named : flagModels.HasString "filterType" "multi" := rfl
  have listed : flagModels.entries? "filterModels" = some [.null, .object flagFilter] := rfl
  have children : flags.childFilters "late" "filterModel.late" [] [.null, .object flagFilter] =
      .ok ([none, some (.set [some "late", none])], []) := by
    rw [childFilters_eq_readAll, List.map_cons, List.map_singleton, childEntry, childEntry, rescued]
    rfl
  refine ⟨refused, rescued, columnFilter_of_builtin ?_⟩
  rw [builtinColumn_entries named rfl listed]
  exact congrArg (· >>= _) children

end Recognizers

end GridSql
