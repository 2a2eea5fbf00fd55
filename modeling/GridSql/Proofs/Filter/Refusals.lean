import GridSql.Filter.Compile
import GridSql.Filter.Recognize
import GridSql.Proofs.Violations

/-!
# Refused filters

Where a filter model cannot be recognized or compiled, the refusal names a violation.
-/

namespace GridSql

/-! ## Recognition -/

namespace Recognizers

theorem explained_requiredString (payload : Payload) (key path : String) :
    Explained (payload.requiredString key path) := by
  unfold Payload.requiredString
  split
  · exact .ok _
  · exact .refused _ _ _
  · exact .single _ _

theorem explained_word {α : Type} (ofName? : String → Option α) (construct s : String) :
    Explained (word ofName? construct s) := by
  unfold word
  split
  · exact .ok _
  · exact .unrecognized _ _

theorem explained_literal {α : Type} (read : String → Except LiteralError α) (j : Json)
    (path key : String) :
    Explained (literal read j path key) := by
  unfold literal
  split
  · exact .ok _
  · split
    · exact .ok _
    · exact .refused _ _ _

theorem explained_rescue {α : Type} {r : Except QueryError α} (hr : Explained r)
    (attempts : List (Option α)) :
    Explained (rescue r attempts) := by
  unfold rescue
  split
  · exact .ok _
  · split
    · exact .ok _
    · exact hr

theorem explained_scalar (family : ScalarFamily) (payload : Payload) (path : String) :
    Explained (scalar family payload path) := by
  unfold scalar
  refine .bind (explained_requiredString _ _ _) fun name => ?_
  refine .bind (explained_word _ _ _) fun option => ?_
  cases family with
  | text => exact .ok _
  | number =>
      refine .bind (Violations.explained_take _ (explained_literal _ _ _ _)) fun low => ?_
      exact .bind (Violations.explained_take _ (explained_literal _ _ _ _)) fun high =>
        Violations.explained_finish _ _
  | date =>
      refine .bind (Violations.explained_take _ (explained_literal _ _ _ _)) fun low => ?_
      exact .bind (Violations.explained_take _ (explained_literal _ _ _ _)) fun high =>
        Violations.explained_finish _ _

theorem explained_conditions (family : ScalarFamily) (path : String) (vs : Violations)
    (index : Nat) (items : List Json) :
    Explained (conditions family path vs index items) := by
  induction items generalizing vs index with
  | nil => exact .ok _
  | cons item rest ih =>
      unfold conditions
      split
      · dsimp only
        split
        · exact .unrecognized _ _
        · refine .bind (Violations.explained_take _ (explained_scalar _ _ _)) fun taken => ?_
          exact .bind (ih _ _) fun others => .ok _
      · exact .refused _ _ _

theorem explained_combined (family : String) (payload : Payload) (path : String) :
    Explained (combined family payload path) := by
  unfold combined
  refine .bind (explained_word _ _ _) fun family => ?_
  refine .bind (explained_requiredString _ _ _) fun name => ?_
  refine .bind (explained_word _ _ _) fun op => ?_
  split
  · exact .bind (explained_conditions _ _ _ _ _) fun found => Violations.explained_finish _ _
  · exact .refused _ _ _
  · exact .single _ _

theorem explained_childFilters {r : Recognizers} {id : String} (path : String) (vs : Violations)
    {items : List Json}
    (children : ∀ child, .object child ∈ items → Explained (columnFilter r id child)) :
    Explained (childFilters r id path vs items) := by
  induction items generalizing vs with
  | nil =>
      rw [childFilters]
      exact .ok _
  | cons item rest ih =>
      have behind (vs : Violations) :=
        ih vs fun child entry => children child (List.mem_cons_of_mem _ entry)
      cases item with
      | object child =>
          rw [childFilters]
          refine .bind (Violations.explained_take _ (children child List.mem_cons_self))
            fun taken => ?_
          exact .bind (behind _) fun others => .ok _
      | null =>
          rw [childFilters]
          exact .bind (behind _) fun others => .ok _
      | _ =>
          rw [childFilters]
          · exact .refused _ _ _
          · simp
          · simp

/-- The filters in a list are smaller than the filter that the list is a member of. -/
theorem sizeOf_child_lt {key : String} {payload child : Payload} {items : List Json}
    (listed : Json.lookup key payload = some (.array items)) (entry : .object child ∈ items) :
    sizeOf child < sizeOf payload := by
  have list := sizeOf_lookup_lt listed
  have object := List.sizeOf_lt_of_mem entry
  simp only [Json.array.sizeOf_spec, Json.object.sizeOf_spec] at list object
  omega

theorem explained_columnFilter (r : Recognizers) (id : String) (payload : Payload) :
    Explained (columnFilter r id payload) := by
  rw [columnFilter]
  refine explained_rescue ?_ _
  rw [builtinColumn]
  refine .bind (explained_requiredString _ _ _) fun family => ?_
  dsimp only
  split
  · exact explained_combined _ _ _
  · split
    · exact explained_scalar _ _ _
    · split
      · unfold setValues
        split
        · exact .ok _
        · exact .ok _
        · exact .refused _ _ _
      · split
        · split
          · refine .bind (explained_childFilters _ _ fun child entry => ?_) fun found =>
              Violations.explained_finish _ _
            exact explained_columnFilter r id child
          · exact .ok _
          · exact .ok _
          · exact .refused _ _ _
        · exact .unrecognized _ _
termination_by sizeOf payload
decreasing_by exact sizeOf_child_lt (by assumption) entry

theorem explained_advancedFilters {r : Recognizers} (vs : Violations) {items : List Json}
    (children : ∀ child, .object child ∈ items → Explained (advancedFilter r child)) :
    Explained (advancedFilters r vs items) := by
  induction items generalizing vs with
  | nil =>
      rw [advancedFilters]
      exact .ok _
  | cons item rest ih =>
      cases item with
      | object child =>
          rw [advancedFilters]
          refine .bind (Violations.explained_take _ (children child List.mem_cons_self))
            fun taken => ?_
          refine .bind (ih _ fun child entry => ?_) fun others => .ok _
          exact children child (List.mem_cons_of_mem _ entry)
      | _ =>
          rw [advancedFilters]
          · exact .unrecognized _ _
          · simp

theorem explained_advancedFilter (r : Recognizers) (payload : Payload) :
    Explained (advancedFilter r payload) := by
  rw [advancedFilter]
  refine explained_rescue ?_ _
  rw [builtinAdvanced]
  refine .bind (explained_requiredString _ _ _) fun family => ?_
  split
  · refine .bind (explained_requiredString _ _ _) fun name => ?_
    refine .bind (explained_word _ _ _) fun op => ?_
    split
    · refine .bind (explained_advancedFilters _ fun child entry => ?_) fun found =>
        Violations.explained_finish _ _
      exact explained_advancedFilter r child
    · exact .ok _
    · exact .ok _
    · exact .refused _ _ _
  · refine .bind (explained_requiredString _ _ _) fun id => ?_
    refine .bind (explained_requiredString _ _ _) fun kind => ?_
    dsimp only
    -- Each family reads a word and some also a literal.
    split
    · exact .bind (.map (explained_word _ _ _)) fun condition => .ok _
    · split
      · exact .bind (.map (explained_word _ _ _)) fun condition => .ok _
      · split
        · refine .bind (explained_word _ _ _) fun option => ?_
          exact .bind (.map (explained_literal _ _ _ _)) fun condition => .ok _
        · split
          · refine .bind (explained_word _ _ _) fun option => ?_
            exact .bind (.map (explained_literal _ _ _ _)) fun condition => .ok _
          · split
            · refine .bind (explained_word _ _ _) fun option => ?_
              exact .bind (.map (explained_literal _ _ _ _)) fun condition => .ok _
            · split
              · exact .bind (.map (explained_word _ _ _)) fun condition => .ok _
              · exact .bind (.unrecognized _ _) fun condition => .ok _
termination_by sizeOf payload
decreasing_by exact sizeOf_child_lt (by assumption) entry

theorem explained_columnFilters (r : Recognizers) (vs : Violations) (payload : Payload) :
    Explained (columnFilters r vs payload) := by
  induction payload generalizing vs with
  | nil => exact .ok _
  | cons member rest ih =>
      unfold columnFilters
      split
      · exact .ok _
      · next heq =>
          cases heq
          refine .bind (Violations.explained_take _ (explained_columnFilter _ _ _)) fun taken => ?_
          exact .bind (ih _) fun others => .ok _
      · next heq =>
          cases heq
          exact ih vs

theorem explained_recognize (r : Recognizers) (j : Json) :
    Explained (recognize r j) := by
  unfold recognize
  split
  · split
    · exact .bind (explained_columnFilters _ _ _) fun found => Violations.explained_finish _ _
    · exact .map (explained_advancedFilter _ _)
  · exact .unrecognized _ _

end Recognizers

/-! ## Compilation -/

namespace FilterTarget

variable (t : FilterTarget)

theorem explained_synchronize (v : Value) (key : String) :
    Explained (t.synchronize v key) := by
  unfold synchronize
  split
  · exact .ok _
  · exact .refused _ _ _

theorem explained_need {α : Type} (option : FilterOption) (key : String) (x : Option α) :
    Explained (t.need option key x) := by
  unfold need
  split
  · exact .ok _
  · exact .single _ _

theorem explained_checkOption (allowed : List FilterOption) (option : FilterOption) :
    Explained (t.checkOption allowed option) := by
  unfold checkOption
  split
  · exact .ok _
  · exact .refused _ _ _

theorem explained_checkDate (rules : DateRules) (key : String) (d : Date) :
    Explained (t.checkDate rules key d) := by
  unfold checkDate
  split
  · exact .ok _
  · exact .refused _ _ _

end FilterTarget

namespace Predicate

variable (t : FilterTarget)

theorem explained_text (option : FilterOption) (filter : Option String) (rules : TextRules) :
    Explained (text t option filter rules) := by
  unfold text
  dsimp only
  split
  · exact .ok _
  · split
    case h_10 => exact .unrecognized _ _
    all_goals
      first
        | exact .ok _
        | exact .map (t.explained_need _ _ _)

theorem explained_scalar (option : FilterOption) (e : Expr) (low high : Option Expr)
    (rules : ScalarRules) :
    Explained (scalar t option e low high rules) := by
  unfold scalar
  dsimp only
  split
  case h_10 =>
    refine .bind (t.explained_need _ _ _) fun low => ?_
    exact .bind (t.explained_need _ _ _) fun high => .ok _
  case h_11 => exact .unrecognized _ _
  all_goals
    first
      | exact .ok _
      | exact .map (t.explained_need _ _ _)

theorem explained_number (f : NumberFilter) (rules : ScalarRules) :
    Explained (number t f rules) :=
  .bind (t.explained_checkOption _ _) fun _ => explained_scalar t _ _ _ _ _

theorem explained_dateBound (rules : DateRules) (key : String) (dt : Option Timestamp) :
    Explained (dateBound t rules key dt) := by
  cases dt with
  | none => exact .ok _
  | some dt =>
      refine .bind (t.explained_checkDate _ _ _) fun _ => ?_
      exact .map (t.explained_synchronize _ _)

theorem explained_date (f : DateFilter) (rules : DateRules) :
    Explained (date t f rules) := by
  refine .bind (t.explained_checkOption _ _) fun _ => ?_
  refine .bind (explained_dateBound t _ _ _) fun low => ?_
  exact .bind (explained_dateBound t _ _ _) fun high => explained_scalar t _ _ _ _ _

theorem explained_setMembers (form : TextForm) (members : List String) :
    Explained (setMembers t form members) := by
  unfold setMembers
  split
  · exact .ok _
  · exact .ok _
  · exact .bind (.mapM (fun s => t.explained_synchronize _ _) _) fun synced => .ok _

theorem explained_set (values : List (Option String)) (form : TextForm) :
    Explained (set t values form) := by
  unfold set
  split
  · exact .ok _
  · dsimp only
    split
    · exact .ok _
    · exact .map (explained_setMembers t _ _)

end Predicate

namespace ColumnFilter

variable (t : FilterTarget)

mutual

theorem explained_compile :
    ∀ (rules : Option FilterRules) (f : ColumnFilter), Explained (f.compile t rules)
  | _, .text _ =>
      .bind (t.explained_checkOption _ _) fun _ => Predicate.explained_text t _ _ _
  | _, .number _ => Predicate.explained_number t _ _
  | _, .date _ => Predicate.explained_date t _ _
  | _, .set _ => Predicate.explained_set t _ _
  | rules, .multi children => .map (explained_compileChildren rules 0 children)
  | rules, .combined _ conditions => .map (explained_compileAll rules conditions)

theorem explained_compileChildren :
    ∀ (rules : Option FilterRules) (index : Nat) (children : List (Option ColumnFilter)),
      Explained (compileChildren t rules index children)
  | _, _, [] => .ok _
  | rules, index, none :: rest => explained_compileChildren rules (index + 1) rest
  | rules, index, some child :: rest =>
      .bind (explained_compile _ child) fun _ =>
        .bind (explained_compileChildren rules (index + 1) rest) fun _ => .ok _

theorem explained_compileAll :
    ∀ (rules : Option FilterRules) (conditions : List ColumnFilter),
      Explained (compileAll t rules conditions)
  | _, [] => .ok _
  | rules, f :: fs =>
      .bind (explained_compile rules f) fun _ =>
        .bind (explained_compileAll rules fs) fun _ => .ok _

end

end ColumnFilter

theorem AdvancedCondition.explained_compile (t : FilterTarget) (rules : Option FilterRules)
    (condition : AdvancedCondition) :
    Explained (condition.compile t rules) := by
  have dated (option : ScalarOption) (filter : Option Date) :
      Explained (compileDate t rules option filter) := by
    unfold compileDate
    cases filter with
    | none => exact Predicate.explained_scalar t _ _ _ _ _
    | some d =>
        refine .bind (t.explained_checkDate _ _ _) fun _ => ?_
        exact .bind (t.explained_synchronize _ _) fun c => Predicate.explained_scalar t _ _ _ _ _
  cases condition with
  | text option filter => exact Predicate.explained_text t _ _ _
  | object option filter => exact Predicate.explained_text t _ _ _
  | number option filter => exact Predicate.explained_scalar t _ _ _ _ _
  | date option filter => exact dated option filter
  | dateString option filter => exact dated option filter
  | boolean option => exact .ok _

namespace FilterContext

variable (c : FilterContext)

mutual

theorem explained_compileAdvanced : ∀ f : AdvancedFilter, Explained (c.compileAdvanced f)
  | .column _ condition => AdvancedCondition.explained_compile _ _ condition
  | .join _ conditions => .map (explained_compileAllAdvanced conditions)

theorem explained_compileAllAdvanced :
    ∀ fs : List AdvancedFilter, Explained (c.compileAllAdvanced fs)
  | [] => .ok _
  | f :: fs =>
      .bind (explained_compileAdvanced f) fun _ =>
        .bind (explained_compileAllAdvanced fs) fun _ => .ok _

end

end FilterContext

end GridSql
