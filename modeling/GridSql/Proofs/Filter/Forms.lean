import GridSql.Filter.Compile
import GridSql.Filter.Quick
import GridSql.Plan.Grouping
import GridSql.Proofs.Filter.Rules
import GridSql.Proofs.Result
import GridSql.Proofs.Table.Truth

/-!
# Forms of predicates

Filters make predicates of an expression in a few forms, and of nothing else: they convert
the expression that they apply to, test it or compare it with what is given, and join such
predicates. So what is kept by these forms, and by the hooks of the server, passes from the
expression that a filter applies to on to the predicate that it is compiled to.
-/

namespace GridSql

/--
Whether three properties fit the forms that filters make of expressions: that of operands, to
which conditions apply, that of what is given to compare them with, and that of predicates.
-/
structure FilterForms (Operand Given Condition : Expr → Prop) : Prop where
  cast {e : Expr} (h : Operand e) (type : CastType) : Operand (.cast e type)
  lower {e : Expr} (h : Operand e) : Operand (.fn "LOWER" [e])
  literal (v : Value) : Given (.literal v)
  concat {args : List Expr} (h : ∀ e ∈ args, Given e) : Given (.fn "CONCAT" args)
  truth (holds : Bool) : Condition (.truth holds)
  compare {e given : Expr} (h : Operand e) (hgiven : Given given) {op : BinaryOp}
    (comparison : op.isComparison = true) : Condition (.binary op e given)
  isNull {e : Expr} (h : Operand e) (negated : Bool) : Condition (.isNull e negated)
  like {e pattern : Expr} (h : Operand e) (hpattern : Given pattern) (escape : Char)
    (negated : Bool) : Condition (.like e pattern escape negated)
  inList {e : Expr} (h : Operand e) {candidates : List Expr} (nonempty : candidates ≠ [])
    (hcandidates : ∀ c ∈ candidates, Given c) (negated : Bool) :
    Condition (.inList e candidates negated)
  join {l r : Expr} (hl : Condition l) (hr : Condition r) {op : BinaryOp}
    (logical : op.isLogical = true) : Condition (.binary op l r)

/-- Whether a property of expressions is kept by the forms that filters make of them. -/
structure FilterClosed (C : Expr → Prop) : Prop where
  literal (v : Value) : C (.literal v)
  truth (holds : Bool) : C (.truth holds)
  binary {l r : Expr} (hl : C l) (hr : C r) (op : BinaryOp) : C (.binary op l r)
  isNull {e : Expr} (h : C e) (negated : Bool) : C (.isNull e negated)
  cast {e : Expr} (h : C e) (type : CastType) : C (.cast e type)
  like {e pattern : Expr} (h : C e) (hpattern : C pattern) (escape : Char) (negated : Bool) :
    C (.like e pattern escape negated)
  /-- Filters call no aggregates. -/
  call {args : List Expr} (h : ∀ e ∈ args, C e) {name : String}
    (scalar : Aggregate.ofName? name = none) : C (.call name args false)
  inList {e : Expr} (h : C e) {candidates : List Expr} (hcandidates : ∀ c ∈ candidates, C c)
    (negated : Bool) : C (.inList e candidates negated)

/-- One property of all expressions fits if it is kept. -/
theorem FilterClosed.forms {C : Expr → Prop} (closed : FilterClosed C) : FilterForms C C C where
  cast := closed.cast
  lower := fun h => closed.call (by simpa using h) (by decide +kernel)
  literal := closed.literal
  concat := fun h => closed.call h (by decide +kernel)
  truth := closed.truth
  compare := fun h hgiven op _ => closed.binary h hgiven op
  isNull := closed.isNull
  like := closed.like
  inList := fun h _ _ hcandidates negated => closed.inList h hcandidates negated
  join := fun hl hr op _ => closed.binary hl hr op

variable {C Operand Given Condition : Expr → Prop}

namespace FilterForms

theorem joinAll (forms : FilterForms Operand Given Condition) {op : BinaryOp}
    (logical : op.isLogical = true) {es : List Expr} (h : ∀ e ∈ es, Condition e) (empty : Bool) :
    Condition (Expr.joinAll op empty es) := by
  have folded (rest : List Expr) (hrest : ∀ e ∈ rest, Condition e) :
      ∀ e, Condition e → Condition (rest.foldl (.binary op) e) := by
    induction rest with
    | nil => exact fun e he => he
    | cons f rest ih =>
        obtain ⟨hf, hrest⟩ := List.forall_mem_cons.1 hrest
        exact fun e he => ih hrest _ (forms.join he hf logical)
  cases es with
  | nil => exact forms.truth empty
  | cons e es =>
      obtain ⟨he, hes⟩ := List.forall_mem_cons.1 h
      exact folded es hes e he

theorem widen (forms : FilterForms Operand Given Condition) {e : Expr} (h : Operand e) :
    Operand e.widen := by
  unfold Expr.widen
  split
  · exact h
  · exact forms.cast h .decimal

theorem joinExprs (forms : FilterForms Operand Given Condition) (op : JoinOp) {es : List Expr}
    (h : ∀ e ∈ es, Condition e) :
    Condition (op.joinExprs es) := by
  cases op with
  | and => exact forms.joinAll rfl h true
  | or => exact forms.joinAll rfl h false

theorem of_synchronize (forms : FilterForms Operand Given Condition) {e : Expr} (h : Operand e)
    {type : ScalarType} {v : Value} {c : Comparable} (hc : synchronize e type v = .ok c) :
    Operand c.expr := by
  obtain ⟨value, -, rfl⟩ := map_ok_iff.1 hc
  dsimp only
  split
  · exact forms.widen h
  · exact h

theorem of_target_synchronize (forms : FilterForms Operand Given Condition)
    {target : FilterTarget} (h : Operand target.expr) {v : Value} {key : String} {c : Comparable}
    (hc : target.synchronize v key = .ok c) :
    Operand c.expr := by
  unfold FilterTarget.synchronize at hc
  split at hc
  · next found hfound =>
      cases hc
      exact forms.of_synchronize h hfound
  · cases hc

end FilterForms

/-! ## Hooks that keep a property -/

def TextForm.Fits (Operand Given : Expr → Prop) (form : TextForm) : Prop :=
  ∀ f, form.formatter = some f → ∀ e, (Operand e → Operand (f e)) ∧ (Given e → Given (f e))

/-- Whether the hooks in the rules of a column fit the forms of filters. -/
structure FilterRules.HooksFit (Operand Given Condition : Expr → Prop)
    (rules : Option FilterRules) : Prop where
  matcher : ∀ all ∈ rules, ∀ own m, Within (.text own) all → own.matcher = some m →
    ∀ given : TextMatch, Operand given.value → (∀ e ∈ given.filterText, Given e) →
      Condition (m given)
  textForm : ∀ all ∈ rules, ∀ own, Within (.text own) all → own.Fits Operand Given
  setForm : ∀ all ∈ rules, ∀ form, Within (.set form) all → form.Fits Operand Given

structure FilterRules.HooksKeep (C : Expr → Prop) (rules : Option FilterRules) : Prop where
  matcher : ∀ all ∈ rules, ∀ own m, Within (.text own) all → own.matcher = some m →
    ∀ given : TextMatch, C given.value → (∀ e ∈ given.filterText, C e) → C (m given)
  textForm : ∀ all ∈ rules, ∀ own f, Within (.text own) all → own.formatter = some f →
    ∀ e, C e → C (f e)
  setForm : ∀ all ∈ rules, ∀ form f, Within (.set form) all → form.formatter = some f →
    ∀ e, C e → C (f e)

namespace FilterRules

variable {rules : Option FilterRules}

theorem hooksKeep_iff : HooksKeep C rules ↔ HooksFit C C C rules := by
  constructor
  · intro h
    exact ⟨h.matcher, fun all hall own within f hf e =>
      ⟨h.textForm all hall own f within hf e, h.textForm all hall own f within hf e⟩,
      fun all hall form within f hf e =>
        ⟨h.setForm all hall form f within hf e, h.setForm all hall form f within hf e⟩⟩
  · intro h
    exact ⟨h.matcher, fun all hall own f within hf e => (h.textForm all hall own within f hf e).1,
      fun all hall form f within hf e => (h.setForm all hall form within f hf e).1⟩

theorem hooksFit_of_none
    (text : ∀ all ∈ rules, ∀ own, Within (.text own) all →
      own.matcher = none ∧ own.formatter = none)
    (set : ∀ all ∈ rules, ∀ form, Within (.set form) all → form.formatter = none) :
    HooksFit Operand Given Condition rules where
  matcher := by
    intro all hall own m within h
    rw [(text all hall own within).1] at h
    cases h
  textForm := by
    intro all hall own within f h
    rw [(text all hall own within).2] at h
    cases h
  setForm := by
    intro all hall form within f h
    rw [set all hall form within] at h
    cases h

theorem HooksFit.child (h : HooksFit Operand Given Condition rules) (index : Nat) :
    HooksFit Operand Given Condition (child? rules index) := by
  refine ⟨fun r hr own m hown => ?_, fun r hr own hown => ?_, fun r hr form hform => ?_⟩
  · obtain ⟨all, hall, within⟩ := child?_within hr
    exact h.matcher all hall own m (hown.trans within)
  · obtain ⟨all, hall, within⟩ := child?_within hr
    exact h.textForm all hall own (hown.trans within)
  · obtain ⟨all, hall, within⟩ := child?_within hr
    exact h.setForm all hall form (hform.trans within)

theorem HooksFit.text (h : HooksFit Operand Given Condition rules) :
    (∀ m, ((rules.bind textRules?).getD {}).matcher = some m → ∀ given : TextMatch,
      Operand given.value → (∀ e ∈ given.filterText, Given e) → Condition (m given)) ∧
      ((rules.bind textRules?).getD {}).Fits Operand Given := by
  cases hfound : rules.bind textRules? with
  | none => exact ⟨fun m hm => (by cases hm), fun f hf => (by cases hf)⟩
  | some found =>
      obtain ⟨all, hall, within⟩ := textRules?_within hfound
      exact ⟨fun m => h.matcher all hall _ m within, h.textForm all hall _ within⟩

theorem HooksFit.set (h : HooksFit Operand Given Condition rules) :
    ((rules.bind setForm?).getD defaultSet).Fits Operand Given := by
  cases hfound : rules.bind setForm? with
  | none => exact fun f hf => (by cases hf)
  | some found =>
      obtain ⟨all, hall, within⟩ := setForm?_within hfound
      exact h.setForm all hall _ within

end FilterRules

/-! ## Conditions -/

namespace FilterForms

variable {target : FilterTarget} {form : TextForm} {p : Expr}

theorem ofExpr (forms : FilterForms Operand Given Condition) (fits : form.Fits Operand Given)
    {e : Expr} (h : Operand e) :
    Operand (form.ofExpr e) := by
  unfold TextForm.ofExpr
  split
  · next f hf => exact (fits f hf e).1 h
  · split
    · exact h
    · exact forms.lower h

theorem ofText (forms : FilterForms Operand Given Condition) (fits : form.Fits Operand Given)
    (s : String) :
    Given (form.ofText s) := by
  unfold TextForm.ofText
  split
  · next f hf => exact (fits f hf _).2 (forms.literal _)
  · exact forms.literal _

theorem matching (forms : FilterForms Operand Given Condition) {e text : Expr} (he : Operand e)
    (htext : Given text) (leading trailing negated : Bool) :
    Condition (Predicate.matching e text leading trailing negated) := by
  have any (wanted : Bool) :
      ∀ c ∈ (if wanted then [Expr.ofText "%"] else []), Given c := by
    intro c hc
    cases wanted with
    | true =>
        cases List.mem_singleton.1 hc
        exact forms.literal _
    | false => cases hc
  refine forms.like he ?_ Predicate.likeEscape negated
  unfold Predicate.likePattern
  dsimp only
  split
  · exact forms.literal _
  · refine forms.concat fun c hc => ?_
    rcases List.mem_append.1 hc with hc | hc
    · rcases List.mem_append.1 hc with hc | hc
      · exact any leading c hc
      · cases List.mem_singleton.1 hc
        exact htext
    · exact any trailing c hc

theorem of_need {option : FilterOption} {key : String} {e? : Option Expr} {e : Expr}
    (h : ∀ e ∈ e?, C e) (hneed : target.need option key e? = .ok e) :
    C e := by
  unfold FilterTarget.need at hneed
  split at hneed
  · cases hneed
    exact h e rfl
  · cases hneed

theorem text (forms : FilterForms Operand Given Condition) {option : FilterOption}
    {filter : Option String} {rules : TextRules} (h : Operand target.expr)
    (fits : rules.Fits Operand Given)
    (matcher : ∀ m, rules.matcher = some m → ∀ given : TextMatch, Operand given.value →
      (∀ e ∈ given.filterText, Given e) → Condition (m given))
    (compiled : Predicate.text target option filter rules = .ok p) :
    Condition p := by
  have raw : Operand target.textExpr := by
    unfold FilterTarget.textExpr
    split
    · exact h
    · exact h
    · exact forms.cast h .text
  have value : Operand (rules.ofExpr target.textExpr) := forms.ofExpr fits raw
  have given {s : String → String} : ∀ e ∈ filter.map (fun t => rules.ofText (s t)), Given e := by
    intro e he
    obtain ⟨t, -, rfl⟩ := Option.map_eq_some_iff.1 he
    exact forms.ofText fits _
  have empty : Given (.ofText "") := forms.literal _
  unfold Predicate.text at compiled
  cases hm : rules.matcher with
  | some m =>
      simp only [hm] at compiled
      cases compiled
      exact matcher m hm _ value given
  | none =>
      simp only [hm] at compiled
      -- Operators that need a text share the way to it.
      have withText {f : Expr → Expr} {s : String → String}
          (h : (target.need option "filter" (filter.map fun t => rules.ofText (s t))).map f =
            .ok p)
          (hf : ∀ e, Given e → Condition (f e)) : Condition p := by
        obtain ⟨e, he, rfl⟩ := map_ok_iff.1 h
        exact hf e (of_need given he)
      cases option with
      | empty =>
          cases compiled
          exact forms.join (forms.isNull raw false) (forms.compare raw empty rfl) rfl
      | blank =>
          cases compiled
          exact forms.join (forms.isNull raw false) (forms.compare raw empty rfl) rfl
      | notBlank =>
          cases compiled
          exact forms.join (forms.isNull raw true) (forms.compare raw empty rfl) rfl
      | equals => exact withText compiled fun e he => forms.compare value he rfl
      | notEqual => exact withText compiled fun e he => forms.compare value he rfl
      | contains => exact withText compiled fun e he => forms.matching value he _ _ _
      | notContains => exact withText compiled fun e he => forms.matching value he _ _ _
      | startsWith => exact withText compiled fun e he => forms.matching value he _ _ _
      | endsWith => exact withText compiled fun e he => forms.matching value he _ _ _
      | _ => cases compiled

theorem scalar (forms : FilterForms Operand Given Condition) {option : FilterOption} {e : Expr}
    {low high : Option Expr} {rules : ScalarRules} (he : Operand e) (hlow : ∀ l ∈ low, Given l)
    (hhigh : ∀ l ∈ high, Given l)
    (compiled : Predicate.scalar target option e low high rules = .ok p) :
    Condition p := by
  have orBlank {q : Expr} (h : Condition q) :
      Condition (if rules.includesBlanks option then q.or (.isNull e false) else q) := by
    split
    · exact forms.join h (forms.isNull he false) rfl
    · exact h
  have compared {op : BinaryOp} (comparison : op.isComparison = true) {key : String}
      (h : (target.need option key low).map (fun l =>
        if rules.includesBlanks option then (Expr.binary op e l).or (.isNull e false)
        else .binary op e l) = .ok p) : Condition p := by
    obtain ⟨l, hl, rfl⟩ := map_ok_iff.1 h
    exact orBlank (forms.compare he (of_need hlow hl) comparison)
  cases option with
  | empty =>
      cases compiled
      exact forms.isNull he false
  | blank =>
      cases compiled
      exact forms.isNull he false
  | notBlank =>
      cases compiled
      exact forms.isNull he true
  | equals => exact compared rfl compiled
  | notEqual => exact compared rfl compiled
  | lessThan => exact compared rfl compiled
  | lessThanOrEqual => exact compared rfl compiled
  | greaterThan => exact compared rfl compiled
  | greaterThanOrEqual => exact compared rfl compiled
  | inRange =>
      obtain ⟨l, hl, compiled⟩ := bind_ok_iff.1 compiled
      obtain ⟨h, hh, compiled⟩ := bind_ok_iff.1 compiled
      cases compiled
      have above := of_need hlow hl
      have below := of_need hhigh hh
      refine orBlank ?_
      unfold Predicate.range
      split
      · exact forms.join (forms.compare he above rfl) (forms.compare he below rfl) rfl
      · exact forms.join (forms.compare he above rfl) (forms.compare he below rfl) rfl
  | _ => cases compiled

theorem date (forms : FilterForms Operand Given Condition) {f : DateFilter} {rules : DateRules}
    (h : Operand target.expr) (compiled : Predicate.date target f rules = .ok p) :
    Condition p := by
  have bound {key : String} {given : Option Timestamp} {c : Option Comparable}
      (hc : Predicate.dateBound target rules key given = .ok c) :
      ∀ found ∈ c, Operand found.expr := by
    intro found hfound
    cases given with
    | none =>
        cases hc
        cases hfound
    | some dt =>
        obtain ⟨_, -, hc⟩ := bind_ok_iff.1 hc
        obtain ⟨synced, hsynced, rfl⟩ := map_ok_iff.1 hc
        cases hfound
        exact forms.of_target_synchronize h hsynced
  obtain ⟨_, -, compiled⟩ := bind_ok_iff.1 compiled
  obtain ⟨low, hlow, compiled⟩ := bind_ok_iff.1 compiled
  obtain ⟨high, hhigh, compiled⟩ := bind_ok_iff.1 compiled
  have literals (c : Option Comparable) :
      ∀ e ∈ c.map (fun c => Expr.literal c.value), Given e := by
    intro e he
    obtain ⟨found, -, rfl⟩ := Option.map_eq_some_iff.1 he
    exact forms.literal _
  refine forms.scalar ?_ (literals low) (literals high) compiled
  cases high with
  | some found => exact bound hhigh found rfl
  | none =>
      cases low with
      | some found => exact bound hlow found rfl
      | none => exact h

theorem members (forms : FilterForms Operand Given Condition) {ms : List String}
    (h : Operand target.expr) (fits : form.Fits Operand Given) (nonempty : ms ≠ [])
    (compiled : Predicate.setMembers target form ms = .ok p) :
    Condition p := by
  have texts : ∀ e ∈ ms.map form.ofText, Given e := by
    intro e he
    obtain ⟨s, -, rfl⟩ := List.mem_map.1 he
    exact forms.ofText fits s
  have some_ : ms.map form.ofText ≠ [] := List.map_eq_nil_iff.not.2 nonempty
  unfold Predicate.setMembers at compiled
  split at compiled
  · cases compiled
    exact forms.inList (forms.ofExpr fits h) some_ texts false
  · cases compiled
    exact forms.inList (forms.ofExpr fits h) some_ texts false
  · obtain ⟨synced, hsynced, compiled⟩ := bind_ok_iff.1 compiled
    cases compiled
    have each := mapM_ok_iff.1 hsynced
    refine forms.inList ?_ ?_ (fun e he => ?_) false
    · cases hlast : synced.getLast? with
      | none => exact h
      | some c =>
          obtain ⟨s, -, hc⟩ := exists_of_mem_right each (List.mem_of_getLast? hlast)
          exact forms.of_target_synchronize h hc
    · rintro hnil
      rw [List.map_eq_nil_iff.1 hnil, List.forall₂_nil_right_iff] at each
      exact nonempty each
    · obtain ⟨c, -, rfl⟩ := List.mem_map.1 he
      exact forms.literal _

theorem set (forms : FilterForms Operand Given Condition) {values : List (Option String)}
    (h : Operand target.expr) (fits : form.Fits Operand Given)
    (compiled : Predicate.set target values form = .ok p) :
    Condition p := by
  unfold Predicate.set at compiled
  split at compiled
  · cases compiled
    exact forms.truth false
  · dsimp only at compiled
    split at compiled
    · cases compiled
      exact forms.isNull h false
    · next nonempty =>
        obtain ⟨q, hq, rfl⟩ := map_ok_iff.1 compiled
        have listed := forms.members h fits (fun hnil => nonempty (by rw [hnil]; rfl)) hq
        split
        · exact forms.join listed (forms.isNull h false) rfl
        · exact listed

/-! ## Filters -/

mutual

theorem compile (forms : FilterForms Operand Given Condition) (h : Operand target.expr) :
    ∀ {f : ColumnFilter} {rules : Option FilterRules} {p : Expr},
      FilterRules.HooksFit Operand Given Condition rules → f.compile target rules = .ok p →
        Condition p
  | .text f, rules, p, hooks, compiled => by
      obtain ⟨_, -, compiled⟩ := bind_ok_iff.1 compiled
      exact forms.text h hooks.text.2 hooks.text.1 compiled
  | .number f, rules, p, _, compiled => by
      obtain ⟨_, -, compiled⟩ := bind_ok_iff.1 compiled
      refine forms.scalar (forms.widen h) ?_ ?_ compiled
      · intro e he
        obtain ⟨d, -, rfl⟩ := Option.map_eq_some_iff.1 he
        exact forms.literal _
      · intro e he
        obtain ⟨d, -, rfl⟩ := Option.map_eq_some_iff.1 he
        exact forms.literal _
  | .date f, rules, p, _, compiled => forms.date h compiled
  | .set values, rules, p, hooks, compiled => forms.set h hooks.set compiled
  | .multi children, rules, p, hooks, compiled => by
      obtain ⟨es, hes, rfl⟩ := map_ok_iff.1 compiled
      exact forms.joinAll rfl (forms.compileChildren h hooks hes) true
  | .combined op conditions, rules, p, hooks, compiled => by
      obtain ⟨es, hes, rfl⟩ := map_ok_iff.1 compiled
      exact forms.joinExprs op (forms.compileAll h hooks hes)

theorem compileChildren (forms : FilterForms Operand Given Condition)
    (h : Operand target.expr) :
    ∀ {children : List (Option ColumnFilter)} {rules : Option FilterRules} {index : Nat}
      {es : List Expr}, FilterRules.HooksFit Operand Given Condition rules →
        ColumnFilter.compileChildren target rules index children = .ok es →
          ∀ e ∈ es, Condition e
  | [], rules, index, es, _, compiled => by
      cases compiled
      simp
  | none :: rest, rules, index, es, hooks, compiled => by
      rw [ColumnFilter.compileChildren] at compiled
      exact forms.compileChildren h hooks compiled
  | some child :: rest, rules, index, es, hooks, compiled => by
      obtain ⟨e, he, compiled⟩ := bind_ok_iff.1 compiled
      obtain ⟨others, hothers, compiled⟩ := bind_ok_iff.1 compiled
      cases compiled
      exact List.forall_mem_cons.2 ⟨forms.compile h (hooks.child index) he,
        forms.compileChildren h hooks hothers⟩

theorem compileAll (forms : FilterForms Operand Given Condition) (h : Operand target.expr) :
    ∀ {conditions : List ColumnFilter} {rules : Option FilterRules} {es : List Expr},
      FilterRules.HooksFit Operand Given Condition rules →
        ColumnFilter.compileAll target rules conditions = .ok es → ∀ e ∈ es, Condition e
  | [], rules, es, _, compiled => by
      cases compiled
      simp
  | f :: fs, rules, es, hooks, compiled => by
      obtain ⟨e, he, compiled⟩ := bind_ok_iff.1 compiled
      obtain ⟨others, hothers, compiled⟩ := bind_ok_iff.1 compiled
      cases compiled
      exact List.forall_mem_cons.2 ⟨forms.compile h hooks he, forms.compileAll h hooks hothers⟩

end

theorem condition (forms : FilterForms Operand Given Condition) {f : AdvancedCondition}
    {rules : Option FilterRules} (h : Operand target.expr)
    (hooks : FilterRules.HooksFit Operand Given Condition rules)
    (compiled : f.compile target rules = .ok p) :
    Condition p := by
  have onText {option : FilterOption} {filter : Option String}
      (compiled : Predicate.text target option filter
        ((rules.bind FilterRules.textRules?).getD {}) = .ok p) : Condition p :=
    forms.text h hooks.text.2 hooks.text.1 compiled
  have onDate {option : ScalarOption} {filter : Option Date}
      (compiled : AdvancedCondition.compileDate target rules option filter = .ok p) :
      Condition p := by
    unfold AdvancedCondition.compileDate at compiled
    cases filter with
    | none => exact forms.scalar h (by simp) (by simp) compiled
    | some d =>
        obtain ⟨_, -, compiled⟩ := bind_ok_iff.1 compiled
        obtain ⟨c, hc, compiled⟩ := bind_ok_iff.1 compiled
        refine forms.scalar (forms.of_target_synchronize h hc) ?_ (by simp) compiled
        intro l hl
        cases hl
        exact forms.literal _
  cases f with
  | text option filter => exact onText compiled
  | object option filter => exact onText compiled
  | number option filter =>
      refine forms.scalar (forms.widen h) (fun l hl => ?_) (by simp) compiled
      obtain ⟨d, -, rfl⟩ := Option.map_eq_some_iff.1 hl
      exact forms.literal _
  | date option filter => exact onDate compiled
  | dateString option filter => exact onDate compiled
  | boolean option =>
      cases compiled
      cases option with
      | isTrue => exact forms.compare h (forms.literal _) rfl
      | isFalse => exact forms.compare h (forms.literal _) rfl
      | blank => exact forms.isNull h false
      | notBlank => exact forms.isNull h true

mutual

/-- An advanced filter keeps what fits its columns, by induction over its joins. -/
theorem compileAdvanced (forms : FilterForms Operand Given Condition) {context : FilterContext}
    (columns : ∀ name, Operand (.col name))
    (hooks : ∀ field, FilterRules.HooksFit Operand Given Condition (context.rules field)) :
    ∀ {f : AdvancedFilter} {p : Expr}, context.compileAdvanced f = .ok p → Condition p
  | .column id f, p, compiled => forms.condition (columns id) (hooks id) compiled
  | .join op fs, p, compiled => by
      obtain ⟨es, hes, rfl⟩ := map_ok_iff.1 compiled
      exact forms.joinExprs op (forms.compileAllAdvanced columns hooks hes)

theorem compileAllAdvanced (forms : FilterForms Operand Given Condition)
    {context : FilterContext} (columns : ∀ name, Operand (.col name))
    (hooks : ∀ field, FilterRules.HooksFit Operand Given Condition (context.rules field)) :
    ∀ {fs : List AdvancedFilter} {es : List Expr}, context.compileAllAdvanced fs = .ok es →
      ∀ e ∈ es, Condition e
  | [], es, compiled => by
      cases compiled
      simp
  | f :: fs, es, compiled => by
      obtain ⟨e, he, compiled⟩ := bind_ok_iff.1 compiled
      obtain ⟨others, hothers, compiled⟩ := bind_ok_iff.1 compiled
      cases compiled
      exact List.forall_mem_cons.2 ⟨forms.compileAdvanced columns hooks he,
        forms.compileAllAdvanced columns hooks hothers⟩

end

theorem quick (forms : FilterForms Operand Given Condition) {q : QuickFilter}
    (columns : ∀ name, Operand (.col name)) (fits : q.Fits Operand Given)
    (matcher : ∀ f, q.matcher = some f → ∀ words searched, (∀ e ∈ words, Given e) →
      (∀ e ∈ searched, Operand e) → Condition (f words searched))
    {s : String} {fields : List Column} (h : q.predicate s fields = some p) :
    Condition p := by
  have searched (c : Column) : Operand (q.column c) := by
    refine forms.ofExpr fits ?_
    split
    · exact columns _
    · exact columns _
    · exact forms.cast (columns _) .text
  unfold QuickFilter.predicate at h
  dsimp only at h
  split at h
  · cases h
  · split at h
    · next f hf =>
        cases h
        exact matcher f hf _ _ (List.forall_mem_map.2 fun w _ => forms.ofText fits w)
          (List.forall_mem_map.2 fun c _ => searched c)
    · cases h
      refine forms.joinAll rfl (fun e he => ?_) true
      obtain ⟨word, hword, rfl⟩ := List.mem_map.1 he
      obtain ⟨w, -, rfl⟩ := List.mem_map.1 hword
      refine forms.joinAll rfl (fun e he => ?_) false
      obtain ⟨column, hcolumn, rfl⟩ := List.mem_map.1 he
      obtain ⟨c, -, rfl⟩ := List.mem_map.1 hcolumn
      exact forms.matching (searched c) (forms.ofText fits w) true true false

theorem groupKey (forms : FilterForms Operand Given Condition) {type : String → ScalarType}
    {index : Nat} {c : ColumnRef} {key : Json} (column : Operand (.col c.field))
    (h : groupKeyPredicate type index c key = .ok p) :
    Condition p := by
  unfold groupKeyPredicate at h
  split at h
  · cases h
    exact forms.isNull column false
  · split at h
    · next found hfound =>
        cases h
        exact forms.compare (forms.of_synchronize column hfound) (forms.literal _) rfl
    · cases h

end FilterForms

/-! ## One property of all expressions -/

namespace FilterClosed

variable {target : FilterTarget} {form : TextForm} {p : Expr}

theorem set (closed : FilterClosed C) {values : List (Option String)} (h : C target.expr)
    (formatter : ∀ f, form.formatter = some f → ∀ e, C e → C (f e))
    (compiled : Predicate.set target values form = .ok p) :
    C p :=
  closed.forms.set h (fun f hf e => ⟨formatter f hf e, formatter f hf e⟩) compiled

theorem compile (closed : FilterClosed C) (h : C target.expr) {f : ColumnFilter}
    {rules : Option FilterRules} (hooks : FilterRules.HooksKeep C rules)
    (compiled : f.compile target rules = .ok p) :
    C p :=
  closed.forms.compile h (FilterRules.hooksKeep_iff.1 hooks) compiled

theorem compileAdvanced (closed : FilterClosed C) {context : FilterContext}
    (columns : ∀ name, C (.col name))
    (hooks : ∀ field, FilterRules.HooksKeep C (context.rules field)) {f : AdvancedFilter}
    (compiled : context.compileAdvanced f = .ok p) :
    C p :=
  closed.forms.compileAdvanced columns (fun field => FilterRules.hooksKeep_iff.1 (hooks field))
    compiled

theorem quick (closed : FilterClosed C) {q : QuickFilter} (columns : ∀ name, C (.col name))
    (formatter : ∀ f, q.formatter = some f → ∀ e, C e → C (f e))
    (matcher : ∀ f, q.matcher = some f → ∀ words searched, (∀ e ∈ words, C e) →
      (∀ e ∈ searched, C e) → C (f words searched))
    {s : String} {fields : List Column} (h : q.predicate s fields = some p) :
    C p :=
  closed.forms.quick columns (fun f hf e => ⟨formatter f hf e, formatter f hf e⟩) matcher h

end FilterClosed

end GridSql
