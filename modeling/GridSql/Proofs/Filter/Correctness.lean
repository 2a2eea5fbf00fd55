import GridSql.Proofs.Filter.Forms
import GridSql.Proofs.Filter.Rules
import GridSql.Proofs.Filter.ScalarPredicate

/-!
# Compiled filters say what the filters say

By induction over the filter, the predicate that a filter is compiled to decides what
the filter says of the cell of its target. So over a table that was read from a data
file the predicates of a filter model raise no error on any row if the engine takes the
patterns in them, and together they keep exactly the rows of which every filter holds.
-/

namespace GridSql

variable {t : Table} {s : Scope} {target : FilterTarget} {cell : Value}

/-! ## Sets -/

namespace Predicate

/-- Membership among texts, in the form in which they are compared. -/
theorem decides_textMembers {form : TextForm} (plain : form.IsPlain) {e : Expr}
    (hv : t.eval s e = .ok (cell.mapText id)) (members : List String) :
    t.Decides s (.inList (form.ofExpr e) (members.map form.ofText) false)
      (cell ≠ .null ∧ ∃ member ∈ members, form.normal cell.display = form.normal member) := by
  have literals : members.map form.ofText =
      (members.map fun member => Value.text (form.normal member)).map .literal := by
    rw [List.map_map]
    exact List.map_congr_left fun member _ => TextForm.ofText_of_plain plain member
  rw [literals]
  refine (Table.decides_inList _ (TextForm.eval_ofExpr plain hv)).congr ?_
  by_cases hnull : cell = .null
  · simp [hnull, Value.mapText]
  · simp [Value.mapText_eq_null_iff, hnull, Value.same, Value.order?_mapText hnull]

/-- All members are read as the type of the column and compared with the same expression. -/
theorem synchronized_members {members : List String} {synced : List Comparable}
    (nonempty : members ≠ [])
    (hsynced : members.mapM (fun member => target.synchronize (.text member) "values") =
      .ok synced) :
    List.Forall₂ (fun member c => (Value.text member).coerce target.type = .ok c.value)
        members synced ∧
      (synced.getLast?.map (·.expr)).getD target.expr =
        if target.type.isNumeric then target.expr.widen else target.expr := by
  have read : List.Forall₂ (fun member c =>
      (Value.text member).coerce target.type = .ok c.value ∧
        c.expr = if target.type.isNumeric then target.expr.widen else target.expr)
      members synced := by
    refine (mapM_ok_iff.1 hsynced).imp fun member c hc => ?_
    unfold FilterTarget.synchronize at hc
    split at hc
    · next found hfound =>
        obtain ⟨v, hv, rfl⟩ := map_ok_iff.1 hfound
        cases hc
        exact ⟨hv, by simp [Value.isNull]⟩
    · cases hc
  refine ⟨read.imp fun _ _ h => h.1, ?_⟩
  cases hlast : synced.getLast? with
  | none =>
      rw [List.getLast?_eq_none_iff.1 hlast] at read
      exact absurd (List.forall₂_nil_right_iff.1 read) nonempty
  | some c =>
      obtain ⟨_, -, -, hc⟩ := exists_of_mem_right read (List.mem_of_getLast? hlast)
      exact hc

/-- Membership among literals that were read as the type of the column. -/
theorem decides_typedMembers {members : List String} {synced : List Comparable}
    (hcell : t.eval s target.expr = .ok cell) (htype : cell.HasType target.type)
    (known : target.type ≠ .other) (nonempty : members ≠ [])
    (hsynced : members.mapM (fun member => target.synchronize (.text member) "values") =
      .ok synced) :
    t.Decides s
      (.inList ((synced.getLast?.map (·.expr)).getD target.expr)
        (synced.map fun c => .literal c.value) false)
      (cell ≠ .null ∧ ∃ member ∈ members, ∃ v,
        (Value.text member).coerce target.type = .ok v ∧ v.content? = cell.content?) := by
  obtain ⟨read, subject⟩ := synchronized_members nonempty hsynced
  obtain ⟨v, hv, hcontent⟩ := Table.eval_comparable hcell htype
  have hnull : v ≠ .null ↔ cell ≠ .null := by
    rw [Ne, ← Value.content?_eq_null_iff, hcontent, Value.content?_eq_null_iff]
  obtain ⟨c, hc⟩ := htype.exists_content known
  have literals : (synced.map fun c => Expr.literal c.value) =
      (synced.map (·.value)).map .literal := by
    rw [List.map_map]
    rfl
  rw [subject, literals]
  refine (Table.decides_inList _ hv).congr (and_congr hnull ?_)
  constructor
  · rintro ⟨w, hw, hsame⟩
    obtain ⟨d, hd, rfl⟩ := List.mem_map.1 hw
    obtain ⟨member, hmember, hread⟩ := exists_of_mem_right read hd
    obtain ⟨a, ha⟩ := (Value.coerce_text_content hread).2
    refine ⟨member, hmember, d.value, hread, ?_⟩
    rw [ha, hc, (Value.same_iff (hcontent.trans hc) ha).1 hsame]
  · rintro ⟨member, hmember, w, hw, hequal⟩
    obtain ⟨d, hd, hread⟩ := exists_of_mem_left read hmember
    rw [hw] at hread
    cases hread
    exact ⟨d.value, List.mem_map_of_mem hd,
      (Value.same_iff (hcontent.trans hc) (hequal.trans hc)).2 rfl⟩

theorem decides_members {members : List String} {form : TextForm} {p : Expr}
    (hcell : t.eval s target.expr = .ok cell) (htype : cell.HasType target.type)
    (known : target.type ≠ .other) (plain : form.IsPlain) (nonempty : members ≠ [])
    (compiled : setMembers target form members = .ok p) :
    t.Decides s p
      (cell ≠ .null ∧ ∃ member ∈ members, form.Selects target.type member cell) := by
  unfold setMembers at compiled
  have typed (h : (members.mapM (fun member => target.synchronize (.text member) "values") >>=
      fun synced => .ok (Expr.inList ((synced.getLast?.map (·.expr)).getD target.expr)
        (synced.map fun c => .literal c.value) false)) = .ok p) :
      t.Decides s p (cell ≠ .null ∧ ∃ member ∈ members, ∃ v,
        (Value.text member).coerce target.type = .ok v ∧ v.content? = cell.content?) := by
    obtain ⟨synced, hsynced, h⟩ := bind_ok_iff.1 h
    cases h
    exact decides_typedMembers hcell htype known nonempty hsynced
  cases hkind : target.type with
  | text =>
      rw [hkind] at compiled
      cases compiled
      have hraw := FilterTarget.eval_textExpr hcell htype known
      rw [FilterTarget.textExpr, hkind] at hraw
      exact decides_textMembers plain hraw members
  | other => exact absurd hkind known
  | _ =>
      rw [hkind] at compiled typed
      exact typed compiled

/-- A set is decided by its blank entry and by what decides membership in the others. -/
theorem decides_set_of_members {values : List (Option String)} {form : TextForm} {p : Expr}
    {P : String → Prop} (hcell : t.eval s target.expr = .ok cell)
    (decides : ∀ {membership : Expr}, values.filterMap id ≠ [] →
      setMembers target form (values.filterMap id) = .ok membership →
        t.Decides s membership (cell ≠ .null ∧ ∃ member ∈ values.filterMap id, P member))
    (compiled : Predicate.set target values form = .ok p) :
    t.Decides s p ((cell = .null ∧ none ∈ values) ∨
      (cell ≠ .null ∧ ∃ member, some member ∈ values ∧ P member)) := by
  have hblank := Table.decides_isNull hcell
  have mem_members (member : String) : member ∈ values.filterMap id ↔ some member ∈ values := by
    simp
  have hasNull : values.any (·.isNone) = true ↔ none ∈ values := by
    simp
  unfold Predicate.set at compiled
  split at compiled
  · next hempty =>
      cases compiled
      refine (Table.decides_truth false).congr ?_
      simp [List.isEmpty_iff.1 hempty]
  · next hvalues =>
      dsimp only at compiled
      split at compiled
      · next hmembers =>
          cases compiled
          refine hblank.congr ?_
          have noMember : ∀ member, some member ∉ values := by
            intro member hmember
            rw [← mem_members, List.isEmpty_iff.1 hmembers] at hmember
            cases hmember
          have onlyNull : none ∈ values := by
            obtain ⟨value, hvalue⟩ :=
              List.exists_mem_of_ne_nil values fun h => hvalues (List.isEmpty_iff.2 h)
            cases value with
            | none => exact hvalue
            | some member => exact absurd hvalue (noMember member)
          simp [noMember, onlyNull]
      · next hmembers =>
          obtain ⟨membership, hmembership, rfl⟩ := map_ok_iff.1 compiled
          have decided := decides (fun h => hmembers (List.isEmpty_iff.2 h)) hmembership
          by_cases hnone : none ∈ values
          · rw [if_pos (hasNull.2 hnone)]
            refine (decided.or hblank).congr ?_
            simp only [mem_members, hnone, and_true]
            exact or_comm
          · rw [if_neg (mt hasNull.1 hnone)]
            refine decided.congr ?_
            simp [hnone]

theorem decides_set {values : List (Option String)} {form : TextForm} {p : Expr}
    (hcell : t.eval s target.expr = .ok cell) (htype : cell.HasType target.type)
    (known : target.type ≠ .other) (plain : form.IsPlain)
    (compiled : Predicate.set target values form = .ok p) :
    t.Decides s p ((cell = .null ∧ none ∈ values) ∨
      (cell ≠ .null ∧ ∃ member, some member ∈ values ∧
        form.Selects target.type member cell)) :=
  decides_set_of_members hcell (decides_members hcell htype known plain) compiled

end Predicate

/-! ## Rules -/

namespace FilterRules

theorem Within.isPlain {leaf rules : FilterRules} (h : Within leaf rules)
    (plain : rules.IsPlain) :
    leaf.IsPlain := by
  induction h with
  | self => exact plain
  | child hmem _ ih =>
      rw [IsPlain] at plain
      exact ih (plain _ hmem)

def AllPlain (rules : Option FilterRules) : Prop :=
  ∀ r ∈ rules, r.IsPlain

theorem AllPlain.hooksFit {Operand Given Condition : Expr → Prop} {rules : Option FilterRules}
    (plain : AllPlain rules) :
    HooksFit Operand Given Condition rules := by
  refine hooksFit_of_none (fun all hall own within => ?_) fun all hall form within => ?_
  · have isPlain := within.isPlain (plain all hall)
    rw [IsPlain] at isPlain
    exact ⟨isPlain.2, isPlain.1⟩
  · have isPlain := within.isPlain (plain all hall)
    rw [IsPlain] at isPlain
    exact isPlain

theorem textRules_plain {rules : Option FilterRules} (plain : AllPlain rules) :
    let r := (rules.bind textRules?).getD {}
    r.toTextForm.IsPlain ∧ r.matcher = none := by
  intro r
  cases hfound : rules.bind textRules? with
  | none =>
      simp only [r, hfound]
      exact ⟨rfl, rfl⟩
  | some found =>
      obtain ⟨all, hall, within⟩ := textRules?_within hfound
      have isPlain := within.isPlain (plain all hall)
      simp only [r, hfound]
      rw [IsPlain] at isPlain
      exact isPlain

theorem setForm_plain {rules : Option FilterRules} (plain : AllPlain rules) :
    ((rules.bind setForm?).getD defaultSet).IsPlain := by
  cases hfound : rules.bind setForm? with
  | none => rfl
  | some found =>
      obtain ⟨all, hall, within⟩ := setForm?_within hfound
      have isPlain := within.isPlain (plain all hall)
      rw [IsPlain] at isPlain
      exact isPlain

theorem child_plain {rules : Option FilterRules} (plain : AllPlain rules) (index : Nat) :
    AllPlain (child? rules index) := by
  intro r hr
  obtain ⟨all, hall, hwithin⟩ := child?_within hr
  exact hwithin.isPlain (plain all hall)

end FilterRules

/-! ## Filters of any depth -/

namespace ColumnFilter

/-- Whether all children that are there hold, the first with the rules number `index`. -/
def ChildrenHold (type : ScalarType) (cell : Value) (rules : Option FilterRules) (index : Nat)
    (children : List (Option ColumnFilter)) : Prop :=
  ∀ (i : Nat) child, children[i]? = some (some child) →
    child.Holds type cell (FilterRules.child? rules (index + i))

theorem childrenHold_cons {type : ScalarType} {rules : Option FilterRules} {index : Nat}
    {first : Option ColumnFilter} {rest : List (Option ColumnFilter)} :
    ChildrenHold type cell rules index (first :: rest) ↔
      (∀ child, first = some child → child.Holds type cell (FilterRules.child? rules index)) ∧
        ChildrenHold type cell rules (index + 1) rest := by
  constructor
  · intro holds
    refine ⟨fun child hchild => ?_, fun i child hchild => ?_⟩
    · exact holds 0 child (by rw [hchild]; rfl)
    · rw [Nat.add_right_comm]
      exact holds (i + 1) child hchild
  · rintro ⟨hfirst, hrest⟩ i child hchild
    cases i with
    | zero => exact hfirst child (Option.some.inj hchild)
    | succ i =>
        have holds := hrest i child hchild
        rw [Nat.add_right_comm] at holds
        exact holds

mutual

theorem decides_compile (hcell : t.eval s target.expr = .ok cell)
    (htype : cell.HasType target.type) (known : target.type ≠ .other) :
    ∀ {f : ColumnFilter} {rules : Option FilterRules} {p : Expr},
      FilterRules.AllPlain rules → f.Suits target.type → f.compile target rules = .ok p →
        p.PatternsTaken → t.Decides s p (f.Holds target.type cell rules)
  | .text f, rules, p, plain, _, compiled, taken => by
      obtain ⟨plainForm, noMatcher⟩ := FilterRules.textRules_plain plain
      rw [Holds]
      exact Predicate.decides_text hcell htype known plainForm noMatcher
        (Predicate.checked_ok compiled) taken
  | .number f, rules, p, _, suits, compiled, _ => by
      rw [Suits] at suits
      rw [Holds]
      exact Predicate.decides_number hcell htype suits compiled
  | .date f, rules, p, _, suits, compiled, _ => by
      rw [Suits] at suits
      rw [Holds]
      exact Predicate.decides_date hcell htype suits compiled
  | .set values, rules, p, plain, _, compiled, _ => by
      rw [Holds]
      exact Predicate.decides_set hcell htype known (FilterRules.setForm_plain plain) compiled
  | .multi children, rules, p, plain, suits, compiled, taken => by
      rw [Suits] at suits
      obtain ⟨es, hes, rfl⟩ := map_ok_iff.1 compiled
      obtain ⟨Ps, hPs, hall⟩ :=
        decides_compileChildren hcell htype known plain suits hes fun e he => taken.of_joinAll he
      refine (Table.decides_conjunction hPs).congr (hall.trans ?_)
      simp only [Holds, ChildrenHold, Nat.zero_add]
  | .combined op conditions, rules, p, plain, suits, compiled, taken => by
      rw [Suits] at suits
      obtain ⟨es, hes, rfl⟩ := map_ok_iff.1 compiled
      cases op with
      | and =>
          have decided := decides_compileAll hcell htype known plain suits hes
            fun e he => taken.of_joinAll he
          refine (Table.decides_conjunction decided).congr ?_
          simp only [Holds]
      | or =>
          have decided := decides_compileAll hcell htype known plain suits hes
            fun e he => taken.of_joinAll he
          refine (Table.decides_disjunction decided).congr ?_
          simp only [Holds, exists_prop]

theorem decides_compileChildren (hcell : t.eval s target.expr = .ok cell)
    (htype : cell.HasType target.type) (known : target.type ≠ .other) :
    ∀ {children : List (Option ColumnFilter)} {rules : Option FilterRules} {index : Nat}
      {es : List Expr}, FilterRules.AllPlain rules →
      (∀ child, some child ∈ children → child.Suits target.type) →
      compileChildren target rules index children = .ok es → (∀ e ∈ es, e.PatternsTaken) →
        ∃ Ps : List Prop, List.Forall₂ (fun P e => t.Decides s e P) Ps es ∧
          ((∀ P ∈ Ps, P) ↔ ChildrenHold target.type cell rules index children)
  | [], rules, index, es, _, _, compiled, _ => by
      cases compiled
      exact ⟨[], .nil, by simp [ChildrenHold]⟩
  | none :: rest, rules, index, es, plain, suits, compiled, taken => by
      obtain ⟨Ps, hPs, hall⟩ := decides_compileChildren hcell htype known plain
        (fun child hchild => suits child (List.mem_cons_of_mem none hchild)) compiled taken
      refine ⟨Ps, hPs, ?_⟩
      rw [hall, childrenHold_cons]
      simp
  | some child :: rest, rules, index, es, plain, suits, compiled, taken => by
      obtain ⟨e, he, compiled⟩ := bind_ok_iff.1 compiled
      obtain ⟨others, hothers, compiled⟩ := bind_ok_iff.1 compiled
      cases compiled
      obtain ⟨own, rest⟩ := List.forall_mem_cons.1 taken
      have decided := decides_compile hcell htype known (FilterRules.child_plain plain index)
        (suits child List.mem_cons_self) he own
      obtain ⟨Ps, hPs, hall⟩ := decides_compileChildren hcell htype known plain
        (fun c hc => suits c (List.mem_cons_of_mem (some child) hc)) hothers rest
      refine ⟨_ :: Ps, .cons decided hPs, ?_⟩
      rw [List.forall_mem_cons, hall, childrenHold_cons]
      simp

theorem decides_compileAll (hcell : t.eval s target.expr = .ok cell)
    (htype : cell.HasType target.type) (known : target.type ≠ .other) :
    ∀ {conditions : List ColumnFilter} {rules : Option FilterRules} {es : List Expr},
      FilterRules.AllPlain rules → (∀ c ∈ conditions, c.Suits target.type) →
      compileAll target rules conditions = .ok es → (∀ e ∈ es, e.PatternsTaken) →
        List.Forall₂ (fun (c : ColumnFilter) e => t.Decides s e (c.Holds target.type cell rules))
          conditions es
  | [], rules, es, _, _, compiled, _ => by
      cases compiled
      exact .nil
  | f :: fs, rules, es, plain, suits, compiled, taken => by
      obtain ⟨e, he, compiled⟩ := bind_ok_iff.1 compiled
      obtain ⟨rest, hrest, compiled⟩ := bind_ok_iff.1 compiled
      cases compiled
      obtain ⟨own, others⟩ := List.forall_mem_cons.1 taken
      exact .cons (decides_compile hcell htype known plain (suits f List.mem_cons_self) he own)
        (decides_compileAll hcell htype known plain
          (fun c hc => suits c (List.mem_cons_of_mem f hc)) hrest others)

end

end ColumnFilter

namespace Table

/--
Over the rows of a data file the predicates of column filters raise no error if the engine takes
the patterns in them, and then a row passes all of them exactly if every filter holds of its
cell.
-/
theorem passes_columnFilters {file : String} {t : Table} (loaded : Table.ofText file = .ok t)
    (rules : String → Option FilterRules) (plain : ∀ field, FilterRules.AllPlain (rules field))
    (entries : List (String × ColumnFilter))
    (known : ∀ entry ∈ entries, t.fieldType entry.1 ≠ .other)
    (suits : ∀ entry ∈ entries, entry.2.Suits (t.fieldType entry.1))
    {predicates : List Expr}
    (compiled : entries.mapM (fun entry =>
      FilterContext.compileColumn { rules, type := t.fieldType } entry.1 entry.2) =
        .ok predicates)
    (taken : ∀ p ∈ predicates, p.PatternsTaken) {row : Row} (hrow : row ∈ t.rows) :
    ∃ passes, t.test (.row row) (Expr.conjunction predicates) = .ok passes ∧
      (passes = true ↔ ∀ entry ∈ entries,
        entry.2.Holds (t.fieldType entry.1) (row.cell entry.1) (rules entry.1)) := by
  refine Decides.test (decides_conjunction ?_)
  refine forall₂_imp_of_mem (mapM_ok_iff.1 compiled)
    fun entry hentry predicate hmem hpredicate => ?_
  have htype := typeOf?_of_fieldType (known entry hentry)
  let target := FilterContext.columnTarget { rules, type := t.fieldType } entry.1
  have hcell : t.eval (.row row) target.expr = .ok (row.cell entry.1) :=
    eval_col (by rw [htype]; rfl)
  exact ColumnFilter.decides_compile hcell
    (wellTyped_ofText loaded row hrow entry.1 _ htype) (known entry hentry) (plain entry.1)
    (suits entry hentry) hpredicate (taken predicate hmem)

/-- Rates, of which some have a percent sign in them and others are not known. -/
def rates : Table where
  name := "rates"
  columns := [⟨"rate", .text⟩]
  rows := [[("rate", .text "5%")], [("rate", .null)]]

def ratesFile : String :=
  "\x7b\"table\":\"rates\",
      \"columns\":[\x7b\"name\":\"rate\",\"type\":\"text\"\x7d],
      \"rows\":[\x7b\"rate\":\"5%\"\x7d,\x7b\x7d]\x7d"

set_option maxRecDepth 20000 in
theorem ofText_ratesFile : Table.ofText ratesFile = .ok rates := by
  cbv

theorem passes_columnFilters_percent :
    let f : ColumnFilter := .combined .or
      [.text ⟨.contains, some "%", none⟩, .text ⟨.blank, none, none⟩]
    ∃ p, f.compile ⟨"filterModel.rate", .col "rate", .text⟩ none = .ok p ∧ p.PatternsTaken ∧
      ∃ passes, rates.test (.row [("rate", .text "5%")]) (Expr.conjunction [p]) = .ok passes ∧
        (passes = true ↔ ∀ entry ∈ [("rate", f)],
          entry.2.Holds (rates.fieldType entry.1) (Row.cell [("rate", .text "5%")] entry.1)
            none) := by
  intro f
  obtain ⟨p, compiled⟩ : ∃ p, f.compile ⟨"filterModel.rate", .col "rate", .text⟩ none = .ok p :=
    ⟨_, rfl⟩
  have taken : p.PatternsTaken := by
    cases compiled
    exact .of_short (by decide +kernel)
  have all : [("rate", f)].mapM (fun entry => FilterContext.compileColumn
      { rules := fun _ => none, type := rates.fieldType } entry.1 entry.2) = .ok [p] := by
    cases compiled
    rfl
  refine ⟨p, compiled, taken, ?_⟩
  exact passes_columnFilters ofText_ratesFile (fun _ => none) (by simp [FilterRules.AllPlain])
    [("rate", f)] (by decide) (by simp [f, ColumnFilter.Suits]) all (by simpa using taken)
    (by simp [rates])

theorem not_passes_columnFilters :
    let rules : FilterRules := .text { caseSensitive := true }
    let f : ColumnFilter := .text ⟨.contains, some Predicate.longWord, none⟩
    Table.ofText ratesFile = .ok rates ∧ [("rate", .text "5%")] ∈ rates.rows ∧
      rules.IsPlain ∧ f.Suits (rates.fieldType "rate") ∧
      ∃ p reason, FilterContext.compileColumn
          { rules := fun _ => some rules, type := rates.fieldType } "rate" f = .ok p ∧
        rates.test (.row [("rate", .text "5%")]) (Expr.conjunction [p]) =
          .error (.evaluation (.pattern reason)) := by
  intro rules f
  have rate : rates.eval (.row [("rate", .text "5%")]) (.col "rate") = .ok (.text "5%") := rfl
  obtain ⟨reason, refused⟩ :=
    Predicate.eval_matching_of_not_takes rate (Predicate.not_takes_longWord true true) false
  refine ⟨ofText_ratesFile, by simp [rates], ?_, ?_, _, reason, rfl, Table.test_of_error refused⟩
  · rw [FilterRules.IsPlain]
    exact ⟨rfl, rfl⟩
  · simp [f, ColumnFilter.Suits]

end Table

end GridSql
