import GridSql.Proofs.Filter.Collected
import GridSql.Proofs.Filter.Parts
import GridSql.Proofs.Grid.RowObject

/-!
# What recognition reports

In a filter model of the right shape, keys that are required are strings, and lists are arrays
of objects, or of objects and null under a multi filter. The only things that can be at fault
in it are its words and its literals. Recognition without own recognizers of the server comes
to its verdict on all of them, at every depth: an unknown word ends it, else all unreadable
literals are reported, one violation each, in the order of the model.
-/

namespace GridSql

namespace Payload

def HasString (payload : Payload) (key s : String) : Prop :=
  Json.lookup key payload = some (.string s)

/-- Whether the filter of a column is an operator between conditions, whatever its type. -/
def isCombined (payload : Payload) : Bool :=
  (Json.lookup "conditions" payload).isSome && (Json.lookup "operator" payload).isSome

def entries? (payload : Payload) (key : String) : Option (List Json) :=
  match payload.member key with
  | .array items => some items
  | .null => some []
  | _ => none

end Payload

namespace FilterPart

open Recognizers

/-- The bounds of a condition with one operator; those of a text are taken as they are. -/
def ofBounds (payload : Payload) (path : String) : ScalarFamily → List FilterPart
  | .text => []
  | .number =>
      [ofLiteral Literal.decimal payload path "filter",
        ofLiteral Literal.decimal payload path "filterTo"]
  | .date =>
      [ofLiteral filterTimestamp payload path "dateFrom",
        ofLiteral filterTimestamp payload path "dateTo"]

def ofScalar (family : ScalarFamily) (operator : String) (payload : Payload) (path : String) :
    List FilterPart :=
  ofWord FilterOption.ofName? s!"{family.name} filter type" operator :: ofBounds payload path family

def ofConditionType (family : ScalarFamily) (payload : Payload) : FilterPart :=
  let own := ((payload.member "filterType").asString?).getD family.name
  .word "combined condition type" s!"{own} inside {family.name}" (own == family.name)

def ofAdvancedColumn (family operator : String) (payload : Payload) (path : String) :
    List FilterPart :=
  if family = "text" then [ofWord TextOption.ofName? "text filter type" operator]
  else if family = "object" then [ofWord TextOption.ofName? "object filter type" operator]
  else if family = "number" then
    [ofWord ScalarOption.ofName? "number filter type" operator,
      ofLiteral Literal.decimal payload path "filter"]
  else if family = "date" then
    [ofWord ScalarOption.ofName? "date filter type" operator,
      ofLiteral filterDate payload path "filter"]
  else if family = "dateString" then
    [ofWord ScalarOption.ofName? "dateString filter type" operator,
      ofLiteral filterDate payload path "filter"]
  else if family = "boolean" then [ofWord BooleanOption.ofName? "boolean filter type" operator]
  else [.word "advanced filter type" family false]

end FilterPart

open FilterPart Recognizers

/-! ## The right shape -/

inductive ConditionParts (family : ScalarFamily) (path : String) :
    Nat → List Json → List FilterPart → Prop
  | nil {index : Nat} : ConditionParts family path index [] []
  | cons {index : Nat} {payload : Payload} {operator : String} {items : List Json}
      {others : List FilterPart} (typed : payload.HasString "type" operator)
      (rest : ConditionParts family path (index + 1) items others) :
      ConditionParts family path index (.object payload :: items)
        (ofConditionType family payload ::
          ofScalar family operator payload s!"{path}.conditions[{index}]" ++ others)

mutual

/-- The parts of the filter of a column, if the filter has the right shape. -/
inductive ColumnParts (id : String) : Payload → List FilterPart → Prop
  | scalar {payload : Payload} {family : ScalarFamily} {operator : String}
      (named : payload.HasString "filterType" family.name) (plain : payload.isCombined = false)
      (typed : payload.HasString "type" operator) :
      ColumnParts id payload (ofScalar family operator payload s!"filterModel.{id}")
  | combined {payload : Payload} {family : ScalarFamily} {operator : String} {items : List Json}
      {parts : List FilterPart} (named : payload.HasString "filterType" family.name)
      (joined : payload.HasString "operator" operator)
      (listed : Json.lookup "conditions" payload = some (.array items))
      (conditions : ConditionParts family s!"filterModel.{id}" 0 items parts) :
      ColumnParts id payload (ofWord JoinOp.ofName? "operator" operator :: parts)
  | combinedOther {payload : Payload} {name : String}
      (named : payload.HasString "filterType" name) (both : payload.isCombined = true)
      (other : ScalarFamily.ofName? name = none) :
      ColumnParts id payload [.word "combined filter type" name false]
  | set {payload : Payload} {items : List Json} (named : payload.HasString "filterType" "set")
      (plain : payload.isCombined = false) (listed : payload.entries? "values" = some items) :
      ColumnParts id payload []
  | multi {payload : Payload} {items : List Json} {parts : List FilterPart}
      (named : payload.HasString "filterType" "multi") (plain : payload.isCombined = false)
      (listed : payload.entries? "filterModels" = some items)
      (children : ChildParts id items parts) : ColumnParts id payload parts
  | other {payload : Payload} {name : String} (named : payload.HasString "filterType" name)
      (plain : payload.isCombined = false)
      (other : name ∉ ["text", "number", "date", "set", "multi"]) :
      ColumnParts id payload [.word "filter type" name false]

inductive ChildParts (id : String) : List Json → List FilterPart → Prop
  | nil : ChildParts id [] []
  | object {payload : Payload} {items : List Json} {parts others : List FilterPart}
      (child : ColumnParts id payload parts) (rest : ChildParts id items others) :
      ChildParts id (.object payload :: items) (parts ++ others)
  | null {items : List Json} {others : List FilterPart} (rest : ChildParts id items others) :
      ChildParts id (.null :: items) others

end

mutual

inductive AdvancedParts : Payload → List FilterPart → Prop
  | join {payload : Payload} {operator : String} {items : List Json} {parts : List FilterPart}
      (named : payload.HasString "filterType" "join") (typed : payload.HasString "type" operator)
      (listed : payload.entries? "conditions" = some items) (children : JoinedParts items parts) :
      AdvancedParts payload (ofWord JoinOp.ofName? "join operator" operator :: parts)
  | column {payload : Payload} {family id operator : String}
      (named : payload.HasString "filterType" family) (single : family ≠ "join")
      (column : payload.HasString "colId" id) (typed : payload.HasString "type" operator) :
      AdvancedParts payload (ofAdvancedColumn family operator payload s!"filterModel.{id}")

inductive JoinedParts : List Json → List FilterPart → Prop
  | nil : JoinedParts [] []
  | cons {payload : Payload} {items : List Json} {parts others : List FilterPart}
      (child : AdvancedParts payload parts) (rest : JoinedParts items others) :
      JoinedParts (.object payload :: items) (parts ++ others)

end

inductive ColumnsParts : Payload → List FilterPart → Prop
  | nil : ColumnsParts [] []
  | cons {id : String} {payload rest : Payload} {parts others : List FilterPart}
      (filter : ColumnParts id payload parts) (columns : ColumnsParts rest others) :
      ColumnsParts ((id, .object payload) :: rest) (parts ++ others)

inductive ModelParts : Json → List FilterPart → Prop
  | columns {payload : Payload} {parts : List FilterPart} (filters : ColumnsParts payload parts) :
      ModelParts (.object payload) parts
  | advanced {payload : Payload} {parts : List FilterPart}
      (tree : isColumnKeyed payload = false) (filter : AdvancedParts payload parts) :
      ModelParts (.object payload) parts

/-! ## Places of a multi filter -/

mutual

/-- Whether a filter has, wherever its JSON is a multi filter, its children in their places. -/
inductive KeepsPlaces : Payload → ColumnFilter → Prop
  | multi {payload : Payload} {items : List Json} {children : List (Option ColumnFilter)}
      (named : payload.HasString "filterType" "multi")
      (listed : payload.entries? "filterModels" = some items)
      (places : SamePlaces items children) : KeepsPlaces payload (.multi children)
  | single {payload : Payload} {filter : ColumnFilter}
      (other : ¬ payload.HasString "filterType" "multi")
      (single : ∀ children, filter ≠ .multi children) : KeepsPlaces payload filter

/-- Whether there is one place for each entry, with no filter where the entry is null. -/
inductive SamePlaces : List Json → List (Option ColumnFilter) → Prop
  | nil : SamePlaces [] []
  | object {payload : Payload} {filter : ColumnFilter} {items : List Json}
      {children : List (Option ColumnFilter)} (child : KeepsPlaces payload filter)
      (rest : SamePlaces items children) :
      SamePlaces (.object payload :: items) (some filter :: children)
  | null {items : List Json} {children : List (Option ColumnFilter)}
      (rest : SamePlaces items children) : SamePlaces (.null :: items) (none :: children)

end

/-- Whether a model has the filters of its JSON: those of columns by their names, in places. -/
def FilterModel.KeepsPlaces (payload : Payload) : FilterModel → Prop
  | .columns entries =>
      List.Forall₂ (fun member entry => entry.1 = member.1 ∧
        GridSql.KeepsPlaces (membersOf member.2) entry.2) payload entries
  | .advanced _ => isColumnKeyed payload = false

/-! ## Equations of the recognizers -/

namespace Payload

variable {payload : Payload} {items : List Json}

theorem HasString.unique {key s t : String} (hs : payload.HasString key s)
    (ht : payload.HasString key t) : s = t :=
  Json.string.inj (Option.some.inj (hs.symm.trans ht))

theorem isCombined_of_lookup {operator : String}
    (joined : payload.HasString "operator" operator)
    (listed : Json.lookup "conditions" payload = some (.array items)) :
    payload.isCombined = true := by
  rw [isCombined, joined, listed]
  rfl

theorem entries?_eq_some {key : String} (listed : payload.entries? key = some items) :
    Json.lookup key payload = some (.array items) ∨
      items = [] ∧ (Json.lookup key payload = some .null ∨ Json.lookup key payload = none) := by
  unfold entries? member at listed
  cases found : Json.lookup key payload with
  | none =>
      rw [found] at listed
      cases listed
      exact .inr ⟨rfl, .inr rfl⟩
  | some j =>
      rw [found] at listed
      cases j with
      | array entries =>
          cases listed
          exact .inl rfl
      | null =>
          cases listed
          exact .inr ⟨rfl, .inl rfl⟩
      | _ => cases listed

end Payload

theorem KeepsPlaces.of_named {name : String} {filter : ColumnFilter}
    (named : payload.HasString "filterType" name) (other : name ≠ "multi")
    (single : ∀ cs, filter ≠ .multi cs) :
    KeepsPlaces payload filter :=
  .single (fun multi => other (Payload.HasString.unique named multi)) single

namespace Recognizers

variable {r : Recognizers} {family : ScalarFamily} {operator path id name : String}
  {payload : Payload} {items : List Json} {parts : List FilterPart}

theorem ScalarFamily.name_ne_multi (family : ScalarFamily) : family.name ≠ "multi" := by
  cases family <;> decide

theorem columnFilter_default (id : String) (payload : Payload) :
    columnFilter {} id payload = builtinColumn {} id payload := by
  rw [columnFilter]
  cases builtinColumn {} id payload <;> rfl

theorem advancedFilter_default (payload : Payload) :
    advancedFilter {} payload = builtinAdvanced {} payload := by
  rw [advancedFilter]
  cases builtinAdvanced {} payload <;> rfl

theorem builtinColumn_combined (named : payload.HasString "filterType" name)
    (both : payload.isCombined = true) :
    r.builtinColumn id payload = combined name payload s!"filterModel.{id}" := by
  unfold Payload.isCombined at both
  rw [builtinColumn, requiredString_bind named]
  simp only [both, if_true]

theorem builtinColumn_scalar (named : payload.HasString "filterType" family.name)
    (plain : payload.isCombined = false) :
    r.builtinColumn id payload = scalar family payload s!"filterModel.{id}" := by
  unfold Payload.isCombined at plain
  rw [builtinColumn, requiredString_bind named]
  simp only [plain, Bool.false_eq_true, if_false, ScalarFamily.ofName?_name]

theorem builtinColumn_set (named : payload.HasString "filterType" "set")
    (plain : payload.isCombined = false) :
    r.builtinColumn id payload = setValues payload s!"filterModel.{id}" := by
  have noFamily : ScalarFamily.ofName? "set" = none := rfl
  unfold Payload.isCombined at plain
  rw [builtinColumn, requiredString_bind named]
  simp only [plain, noFamily, Bool.false_eq_true, if_false, if_true]

theorem setValues_of_entries (listed : payload.entries? "values" = some items) :
    setValues payload path = .ok (.set (items.map literalText)) := by
  unfold Payload.entries? at listed
  unfold setValues
  split at listed <;> simp_all

theorem builtinColumn_entries (named : payload.HasString "filterType" "multi")
    (plain : payload.isCombined = false) (listed : payload.entries? "filterModels" = some items) :
    r.builtinColumn id payload = r.childFilters id s!"filterModel.{id}" [] items >>= fun found =>
      Violations.finish found.2 (.multi found.1) := by
  have noFamily : ScalarFamily.ofName? "multi" = none := rfl
  unfold Payload.isCombined at plain
  rw [builtinColumn, requiredString_bind named]
  simp only [plain, noFamily, Bool.false_eq_true, if_false, String.reduceEq, if_true]
  rcases Payload.entries?_eq_some listed with array | ⟨rfl, null | missing⟩
  · split <;> simp_all
  all_goals
    rw [childFilters]
    split <;> simp_all [Violations.finish, bind, Except.bind]

theorem builtinColumn_other (named : payload.HasString "filterType" name)
    (plain : payload.isCombined = false)
    (other : name ∉ ["text", "number", "date", "set", "multi"]) :
    r.builtinColumn id payload = .error (.unrecognized "filter type" name) := by
  simp only [List.mem_cons, List.not_mem_nil, or_false, not_or] at other
  obtain ⟨text, number, date, set, multi⟩ := other
  have noFamily : ScalarFamily.ofName? name = none := by
    simp [ScalarFamily.ofName?, ScalarFamily.name, Ne.symm text, Ne.symm number, Ne.symm date]
  unfold Payload.isCombined at plain
  rw [builtinColumn, requiredString_bind named]
  simp only [plain, noFamily, Bool.false_eq_true, if_false, set, multi]

theorem builtinAdvanced_entries (named : payload.HasString "filterType" "join")
    (typed : payload.HasString "type" operator)
    (listed : payload.entries? "conditions" = some items) :
    r.builtinAdvanced payload = word JoinOp.ofName? "join operator" operator >>= fun op =>
      r.advancedFilters [] items >>= fun found => Violations.finish found.2 (.join op found.1) := by
  rw [builtinAdvanced, requiredString_bind named, if_pos rfl, requiredString_bind typed]
  congr 1
  funext op
  rcases Payload.entries?_eq_some listed with array | ⟨rfl, null | missing⟩
  · split <;> simp_all
  all_goals
    rw [advancedFilters]
    split <;> simp_all [Violations.finish, bind, Except.bind]

/-! ## Verdicts on one filter without children -/

theorem verdict_scalar (family : ScalarFamily) (path : String)
    (typed : payload.HasString "type" operator) :
    Verdict [] (ofScalar family operator payload path) (fun filter => ∀ cs, filter ≠ .multi cs)
      (scalar family payload path) := by
  unfold scalar
  rw [requiredString_bind typed]
  refine .word fun option _ => ?_
  cases family with
  | text => exact .ok fun _ => nofun
  | number =>
      refine ((Verdict.literal _ _ _ _).take []).verdict fun low => ?_
      exact ((Verdict.literal _ _ _ _).take _).verdict fun high => .finish _ fun _ _ _ => nofun
  | date =>
      refine ((Verdict.literal _ _ _ _).take []).verdict fun low => ?_
      exact ((Verdict.literal _ _ _ _).take _).verdict fun high => .finish _ fun _ _ _ => nofun

/-- The type of a condition is looked at before the condition is read. -/
theorem tally_conditions {index : Nat} (h : ConditionParts family path index items parts)
    (vs : Violations) :
    Tally vs parts (fun _ => True) (conditions family path vs index items) := by
  induction h generalizing vs with
  | nil => exact .ok vs trivial
  | @cons index payload operator items others typed rest ih =>
      unfold conditions ofConditionType
      dsimp only
      split
      · next foreign =>
          rw [beq_false_of_ne foreign]
          exact .unrecognized rfl
      · next own =>
          rw [not_not.1 own, beq_self_eq_true]
          refine .known (((verdict_scalar _ _ typed).take vs).bind fun condition => ?_)
          exact (ih _).bind_ok fun _ _ _ => trivial

theorem verdict_combined (joined : payload.HasString "operator" operator)
    (listed : Json.lookup "conditions" payload = some (.array items))
    (h : ConditionParts family path 0 items parts) :
    Verdict [] (ofWord JoinOp.ofName? "operator" operator :: parts)
      (fun filter => ∀ cs, filter ≠ .multi cs) (combined family.name payload path) := by
  unfold combined
  rw [Recognizers.word, ScalarFamily.ofName?_name]
  change Verdict _ _ _ (Payload.requiredString payload "operator" path >>= _)
  rw [requiredString_bind joined]
  refine .word fun op _ => ?_
  rw [listed]
  exact (tally_conditions h []).finished fun _ _ _ => ColumnFilter.noConfusion

theorem verdict_advancedColumn {family : String}
    (named : payload.HasString "filterType" family) (single : family ≠ "join")
    (column : payload.HasString "colId" id) (typed : payload.HasString "type" operator) :
    Verdict [] (ofAdvancedColumn family operator payload s!"filterModel.{id}") (fun _ => True)
      (advancedFilter {} payload) := by
  rw [advancedFilter_default, builtinAdvanced, requiredString_bind named, if_neg single,
    requiredString_bind column]
  dsimp only
  rw [requiredString_bind typed]
  unfold ofAdvancedColumn
  -- Each family reads a word and some also a literal.
  split
  · exact (Verdict.wordAlone _ _ _).map_bind_ok fun _ _ => trivial
  split
  · exact (Verdict.wordAlone _ _ _).map_bind_ok fun _ _ => trivial
  split
  · exact .word fun option _ => (Verdict.literal _ _ _ _).map_bind_ok fun _ _ => trivial
  split
  · exact .word fun option _ => (Verdict.literal _ _ _ _).map_bind_ok fun _ _ => trivial
  split
  · exact .word fun option _ => (Verdict.literal _ _ _ _).map_bind_ok fun _ _ => trivial
  split
  · exact (Verdict.wordAlone _ _ _).map_bind_ok fun _ _ => trivial
  · exact .unrecognized rfl

end Recognizers

/-! ## Sorted models -/

theorem Json.sorted_normalizeMembers {sorted : List (String × Json)} (h : Sorted sorted)
    (members : List (String × Json)) :
    Sorted (normalizeMembers sorted members) := by
  induction members generalizing sorted with
  | nil =>
      rw [normalizeMembers]
      exact h
  | cons member rest ih =>
      rw [normalizeMembers]
      exact ih (sorted_insert h _ _)

theorem Json.sorted_of_normalize {raw : Json} {members : List (String × Json)}
    (h : raw.normalize = .object members) : Sorted members := by
  cases raw with
  | object unsorted =>
      rw [normalize] at h
      cases h
      exact sorted_normalizeMembers .nil unsorted
  | _ => simp [normalize] at h

/-! ## Verdicts at every depth -/

section

variable {id : String} {payload : Payload} {parts : List FilterPart}

mutual

theorem ColumnParts.verdict {payload : Payload} {parts : List FilterPart} :
    ColumnParts id payload parts →
      Verdict [] parts (KeepsPlaces payload) (columnFilter {} id payload)
  | .scalar named plain typed => by
      rw [columnFilter_default, builtinColumn_scalar named plain]
      exact (verdict_scalar _ _ typed).weaken fun _ =>
        .of_named named (ScalarFamily.name_ne_multi _)
  | .combined named joined listed conditions => by
      rw [columnFilter_default,
        builtinColumn_combined named (Payload.isCombined_of_lookup joined listed)]
      exact (verdict_combined joined listed conditions).weaken fun _ =>
        .of_named named (ScalarFamily.name_ne_multi _)
  | .combinedOther named both other => by
      rw [columnFilter_default, builtinColumn_combined named both, combined, Recognizers.word,
        other]
      exact .unrecognized rfl
  | .set named plain listed => by
      rw [columnFilter_default, builtinColumn_set named plain, setValues_of_entries listed]
      exact .ok (.of_named named (by decide) fun _ => nofun)
  | .multi named plain listed children => by
      rw [columnFilter_default, builtinColumn_entries named plain listed]
      exact (children.tally _ []).finished fun _ places => .multi named listed places
  | .other named plain other => by
      rw [columnFilter_default, builtinColumn_other named plain other]
      exact .unrecognized rfl

/-- What the children of a multi filter add to the violations that were found before. -/
theorem ChildParts.tally {items : List Json} {parts : List FilterPart} :
    ChildParts id items parts → ∀ (path : String) (vs : Violations),
      Tally vs parts (SamePlaces items) (childFilters {} id path vs items)
  | .nil, path, vs => by
      rw [childFilters]
      exact .ok vs .nil
  | .object child rest, path, vs => by
      rw [childFilters]
      refine (child.verdict.take vs).bind fun filter => ?_
      refine (rest.tally path _).bind_ok fun others places => ?_
      rintro ⟨kept, rfl, keeps⟩
      exact .object keeps places
  | .null rest, path, vs => by
      rw [childFilters]
      exact (rest.tally path vs).bind_ok fun _ places => .null places

end

mutual

theorem AdvancedParts.verdict {payload : Payload} {parts : List FilterPart} :
    AdvancedParts payload parts →
      Verdict [] parts (fun _ => True) (advancedFilter {} payload)
  | .join named typed listed children => by
      rw [advancedFilter_default, builtinAdvanced_entries named typed listed]
      exact .word fun op _ => (children.tally []).finished fun _ _ => trivial
  | .column named single column typed => verdict_advancedColumn named single column typed

/-- What the children of a join add to the violations that were found before. -/
theorem JoinedParts.tally {items : List Json} {parts : List FilterPart} :
    JoinedParts items parts → ∀ vs : Violations,
      Tally vs parts (fun _ => True) (advancedFilters {} vs items)
  | .nil, vs => by
      rw [advancedFilters]
      exact .ok vs trivial
  | .cons child rest, vs => by
      rw [advancedFilters]
      refine (child.verdict.take vs).bind fun filter => ?_
      exact (rest.tally _).bind_ok fun _ _ _ => trivial

end

theorem ColumnsParts.isColumnKeyed (h : ColumnsParts payload parts) :
    Recognizers.isColumnKeyed payload = true := by
  induction h with
  | nil => rfl
  | cons filter columns ih => exact ih

theorem ColumnsParts.tally (h : ColumnsParts payload parts) (vs : Violations) :
    Tally vs parts (fun entries => FilterModel.KeepsPlaces payload (.columns entries))
      (columnFilters {} vs payload) := by
  induction h generalizing vs with
  | nil => exact .ok vs .nil
  | cons filter columns ih =>
      refine (filter.verdict.take vs).bind fun kept => (ih _).bind_ok fun others places => ?_
      rintro ⟨kept, rfl, keeps⟩
      exact .cons ⟨rfl, keeps⟩ places

theorem ModelParts.verdict {j : Json} (h : ModelParts j parts) :
    Verdict [] parts (FilterModel.KeepsPlaces (membersOf j)) (recognize {} j) := by
  cases h with
  | columns filters =>
      rw [recognize, if_pos filters.isColumnKeyed]
      exact (filters.tally []).finished fun _ places => places
  | advanced tree filter =>
      rw [recognize, if_neg (by rw [tree]; decide)]
      exact filter.verdict.map fun _ _ => tree

/--
Recognition of a filter model of the right shape. Its columns come by name. An unknown word at
any depth ends it, and the first one is named. Else the violations are those of the unreadable
literals, one for each and in the order of the model. Else a model comes out that has the
filters of its columns, and those of a multi filter in their places.
-/
theorem Recognizers.recognize_of_parts (raw : Json)
    (shaped : ModelParts raw.normalize parts) :
    (∀ members, raw.normalize = .object members → Json.Sorted members) ∧
      (∀ construct value more, unknownWords parts = (construct, value) :: more →
        recognize {} raw.normalize = .error (.unrecognized construct value)) ∧
      (unknownWords parts = [] → badLiterals parts ≠ [] →
        recognize {} raw.normalize = .error (.invalid (badLiterals parts))) ∧
      (unknownWords parts = [] → badLiterals parts = [] →
        ∃ model, recognize {} raw.normalize = .ok model ∧
          model.KeepsPlaces (membersOf raw.normalize)) := by
  have verdict := shaped.verdict
  exact ⟨fun _ => Json.sorted_of_normalize, fun _ _ _ => verdict.eq_unrecognized,
    verdict.eq_invalid, verdict.exists_ok⟩

end

/--
Filters of two columns, the second one a multi filter with an empty place, a combined filter
and a multi filter inside, whose one condition has an operator that is left open.
-/
def layeredModel (operator : String) : Json :=
  .object [
    ("wage", .object [("filterType", .string "multi"), ("filterModels", .array [
      .null,
      .object [("filterType", .string "number"), ("operator", .string "AND"),
        ("conditions", .array [
          .object [("type", .string "equals"), ("filter", .string "many")],
          .object [("filterType", .string "number"), ("type", .string "inRange"),
            ("filter", .string "1"), ("filterTo", .string "few")]])],
      .object [("filterType", .string "multi"), ("filterModels", .array [
        .object [("filterType", .string "number"), ("type", .string operator),
          ("filter", .string "none")]])]])]),
    ("day", .object [("filterType", .string "date"), ("type", .string "equals"),
      ("dateFrom", .string "someday")])]

def layeredParts (operator : String) :
    {parts : List FilterPart // ModelParts (layeredModel operator).normalize parts} :=
  ⟨_, .columns
    (.cons (@ColumnParts.scalar _ _ .date _ rfl rfl rfl)
    (.cons (.multi rfl rfl rfl
      (.null
      (.object (@ColumnParts.combined _ _ .number _ _ _ rfl rfl rfl (.cons rfl (.cons rfl .nil)))
      (.object (.multi rfl rfl rfl (.object (@ColumnParts.scalar _ _ .number _ rfl rfl rfl) .nil))
      .nil))))
    .nil))⟩

theorem Recognizers.recognize_layeredModel :
    recognize {} (layeredModel "sounds").normalize =
        .error (.unrecognized "number filter type" "sounds") ∧
      ∃ vs, recognize {} (layeredModel "equals").normalize = .error (.invalid vs) ∧
        vs.map (·.text) =
          ["filterModel.day.dateFrom: Could not parse 'someday' as a date",
            "filterModel.wage.conditions[0].filter: Could not parse 'many' as a number",
            "filterModel.wage.conditions[1].filterTo: Could not parse 'few' as a number",
            "filterModel.wage.filter: Could not parse 'none' as a number"] := by
  obtain ⟨-, unknown, -, -⟩ := recognize_of_parts _ (layeredParts "sounds").2
  obtain ⟨-, -, bad, -⟩ := recognize_of_parts _ (layeredParts "equals").2
  exact ⟨unknown _ _ [] (by decide +kernel), _, bad (by decide +kernel) (by decide +kernel),
    by decide +kernel⟩

end GridSql
