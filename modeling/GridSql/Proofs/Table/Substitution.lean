import GridSql.Proofs.Filter.Forms
import GridSql.Proofs.Sql.ReadValue
import GridSql.Proofs.Table.Subquery

/-!
# A value in place of an expression

Where an expression has a value, any expression around it has the same value with this one
put in its place, as far as both are evaluated on the same row or group. So conditions on
an aggregate are conditions on what is shown of it.
-/

namespace GridSql

namespace Expr

open Classical in
/-- A value where the replaced expression stands, the given one elsewhere. -/
noncomputable def putAt (a : Expr) (v : Value) (e inner : Expr) : Expr :=
  if e = a then .literal v else inner

mutual

/--
Puts a value in place of an expression. The arguments of aggregates are evaluated on the
rows of a group and subqueries on their own rows, so nothing is replaced in them.
-/
noncomputable def put (a : Expr) (v : Value) : Expr → Expr
  | column table name => putAt a v (column table name) (column table name)
  | literal w => putAt a v (literal w) (literal w)
  | truth holds => putAt a v (truth holds) (truth holds)
  | star table => putAt a v (star table) (star table)
  | existsIn query negated => putAt a v (existsIn query negated) (existsIn query negated)
  | binary op l r => putAt a v (binary op l r) (binary op (put a v l) (put a v r))
  | unary op e => putAt a v (unary op e) (unary op (put a v e))
  | paren e => putAt a v (paren e) (paren (put a v e))
  | cast e type => putAt a v (cast e type) (cast (put a v e) type)
  | isNull e negated => putAt a v (isNull e negated) (isNull (put a v e) negated)
  | inQuery e query negated =>
      putAt a v (inQuery e query negated) (inQuery (put a v e) query negated)
  | inList e candidates negated =>
      putAt a v (inList e candidates negated) (inList (put a v e) (putAll a v candidates) negated)
  | between e low high negated =>
      putAt a v (between e low high negated)
        (between (put a v e) (put a v low) (put a v high) negated)
  | like e pattern escape negated =>
      putAt a v (like e pattern escape negated)
        (like (put a v e) (put a v pattern) escape negated)
  | choice subject branches otherwise =>
      putAt a v (choice subject branches otherwise)
        (choice (putOption a v subject) (putBranches a v branches) (putOption a v otherwise))
  | call name args distinct =>
      putAt a v (call name args distinct)
        (call name (if (Aggregate.ofName? name).isSome then args else putAll a v args) distinct)

noncomputable def putAll (a : Expr) (v : Value) : List Expr → List Expr
  | [] => []
  | e :: es => put a v e :: putAll a v es

noncomputable def putOption (a : Expr) (v : Value) : Option Expr → Option Expr
  | some e => some (put a v e)
  | none => none

noncomputable def putBranches (a : Expr) (v : Value) : List (Expr × Expr) → List (Expr × Expr)
  | [] => []
  | (condition, result) :: rest =>
      (put a v condition, put a v result) :: putBranches a v rest

end

end Expr

open GridSql.Expr

namespace Table

variable {t : Table} {s : Scope} {a : Expr} {v : Value} {rows : List Row}

/-! ## Values with and without the replacement -/

/-- An expression that is not replaced itself has its value if the new one keeps it. -/
theorem keeps_putAt (hv : t.Keeps s a (.literal v)) {e inner : Expr} (h : t.Keeps s e inner) :
    t.Keeps s e (putAt a v e inner) := by
  unfold putAt
  split
  · next same => rwa [same]
  · exact h

mutual

/-- Putting its value in place of an expression keeps all values around it. -/
theorem keeps_put (hv : t.Keeps s a (.literal v)) : ∀ e : Expr, t.Keeps s e (put a v e)
  | .column .. | .literal _ | .truth _ | .star _ | .existsIn .. => keeps_putAt hv (.refl _)
  | .binary _ l r => keeps_putAt hv ((keeps_put hv l).binary (keeps_put hv r))
  | .unary _ e => keeps_putAt hv ((keeps_put hv e).bind fun _ => .refl _)
  | .paren e => keeps_putAt hv (keeps_put hv e)
  | .cast e _ => keeps_putAt hv ((keeps_put hv e).bind fun _ => .refl _)
  | .isNull e _ => keeps_putAt hv ((keeps_put hv e).bind fun _ => .refl _)
  | .inQuery .. => keeps_putAt hv fun _ h => by cases h
  | .inList e candidates _ =>
      keeps_putAt hv ((keeps_put hv e).bind fun _ => .ite (.refl _) (extends_putIn hv candidates))
  | .between e low high _ =>
      keeps_putAt hv ((keeps_put hv e).bind fun _ => (keeps_put hv low).bind fun _ =>
        (keeps_put hv high).bind fun _ => .refl _)
  | .like e pattern _ _ =>
      keeps_putAt hv ((keeps_put hv e).bind fun _ => (keeps_put hv pattern).bind fun _ => .refl _)
  | .choice subject branches otherwise =>
      keeps_putAt hv ((extends_putOption hv subject).bind fun _ =>
        (extends_putBranches hv branches).bind fun found =>
          match found with
          | some _ => .refl _
          | none => (extends_putOption hv otherwise).bind fun _ => .refl _)
  | .call name args distinct => by
      refine keeps_putAt hv ?_
      unfold Keeps
      rw [eval, eval]
      cases Aggregate.ofName? name with
      | some _ => exact .refl _
      | none => exact (extends_putAll hv args).bind fun _ => .refl _

theorem extends_putAll (hv : t.Keeps s a (.literal v)) :
    ∀ es : List Expr, Extends (t.evalAll s es) (t.evalAll s (putAll a v es))
  | [] => .refl _
  | e :: es => (keeps_put hv e).bind fun _ => (extends_putAll hv es).bind fun _ => .refl _

theorem extends_putOption (hv : t.Keeps s a (.literal v)) :
    ∀ e : Option Expr, Extends (t.evalOption s e) (t.evalOption s (putOption a v e))
  | none => .refl _
  | some e => (keeps_put hv e).map

theorem extends_putBranches (hv : t.Keeps s a (.literal v)) {subject : Option Value} :
    ∀ branches : List (Expr × Expr), Extends (t.evalBranches s subject branches)
      (t.evalBranches s subject (putBranches a v branches))
  | [] => .refl _
  | (condition, result) :: rest =>
      (keeps_put hv condition).bind fun _ => .ite (keeps_put hv result).map
        (extends_putBranches hv rest)

theorem extends_putIn (hv : t.Keeps s a (.literal v)) {w : Value} {negated sawNull : Bool} :
    ∀ es : List Expr, Extends (t.evalIn s w negated sawNull es)
      (t.evalIn s w negated sawNull (putAll a v es))
  | [] => .refl _
  | e :: es => (keeps_put hv e).bind fun _ =>
      .ite (extends_putIn hv es) (.ite (.refl _) (extends_putIn hv es))

end

/-! ## Subqueries -/

/-- Running the subqueries of an expression keeps its value. -/
theorem keeps_resolved : ∀ {e : Expr} {p : Resolved}, t.resolve none e = .ok p → t.Keeps s e p.expr
  | .binary _ l r, p, h => by
      obtain ⟨left, hl, h⟩ := bind_ok_iff.1 h
      obtain ⟨right, hr, h⟩ := bind_ok_iff.1 h
      cases h
      exact (keeps_resolved hl).binary (keeps_resolved hr)
  | .unary _ e, p, h => by
      obtain ⟨operand, he, h⟩ := bind_ok_iff.1 h
      cases h
      exact (keeps_resolved he).bind fun _ => .refl _
  | .paren e, p, h => by
      obtain ⟨inner, he, h⟩ := bind_ok_iff.1 h
      cases h
      have keeps : t.Keeps s e inner.expr := keeps_resolved he
      exact keeps
  | .inQuery .., p, h => fun v hv => by cases hv
  | .existsIn .., p, h => fun v hv => by cases hv
  | .column .., p, h | .literal _, p, h | .truth _, p, h | .star _, p, h | .call .., p, h
  | .choice .., p, h | .cast .., p, h | .inList .., p, h | .between .., p, h | .isNull .., p, h
  | .like .., p, h => by
      cases h
      exact .refl _

/-- Whether a predicate keeps its value in another one once the subqueries of both are run. -/
def KeepsResolved (t : Table) (s : Scope) (e e' : Expr) : Prop :=
  ∀ p, t.resolve none e = .ok p → ∃ p', t.resolve none e' = .ok p' ∧ t.Keeps s p.expr p'.expr

theorem KeepsResolved.refl (e : Expr) : t.KeepsResolved s e e :=
  fun p hp => ⟨p, hp, .refl _⟩

theorem KeepsResolved.binary {op : BinaryOp} {l l' r r' : Expr} (hl : t.KeepsResolved s l l')
    (hr : t.KeepsResolved s r r') :
    t.KeepsResolved s (.binary op l r) (.binary op l' r') := by
  intro p h
  obtain ⟨left, hleft, h⟩ := bind_ok_iff.1 h
  obtain ⟨right, hright, h⟩ := bind_ok_iff.1 h
  cases h
  obtain ⟨left', hleft', keepsLeft⟩ := hl left hleft
  obtain ⟨right', hright', keepsRight⟩ := hr right hright
  exact ⟨_, bind_ok_iff.2 ⟨left', hleft', bind_ok_iff.2 ⟨right', hright', rfl⟩⟩,
    keepsLeft.binary keepsRight⟩

/-- Whether a value is that of an expression; a star has none, as it stands for many columns. -/
def IsValue (t : Table) (s : Scope) (a : Expr) (v : Value) : Prop :=
  a.isStar = false → t.eval s a = .ok v

theorem IsValue.keeps (hv : t.IsValue s a v) : t.Keeps s a (.literal v) := by
  intro w hw
  cases a with
  | star => cases hw
  | _ => rw [← hw, hv rfl]; rfl

theorem IsValue.keepsResolved (hv : t.IsValue s a v) : t.KeepsResolved s a (.literal v) := by
  intro p hp
  refine ⟨_, rfl, ?_⟩
  cases a with
  | star =>
      cases hp
      exact fun w hw => by cases hw
  | _ =>
      intro w hw
      rw [← hw, keeps_resolved hp v (hv rfl)]
      rfl

theorem keepsResolved_putAt (hv : t.IsValue s a v) {e inner : Expr}
    (h : t.KeepsResolved s e inner) :
    t.KeepsResolved s e (putAt a v e inner) := by
  unfold putAt
  split
  · next same =>
      rw [same]
      exact hv.keepsResolved
  · exact h

theorem isPlain_putAt {e inner : Expr} (h : t.IsPlain inner) :
    t.IsPlain (putAt a v e inner) := by
  unfold putAt
  split
  · rfl
  · exact h

/-- Predicates that are not looked into for subqueries are evaluated as they are. -/
theorem keepsResolved_of_plain (hv : t.IsValue s a v) {e : Expr} (plain : t.IsPlain e)
    (plain' : t.IsPlain (put a v e)) :
    t.KeepsResolved s e (put a v e) := by
  intro p hp
  obtain rfl := Except.ok.inj (plain.symm.trans hp)
  exact ⟨_, plain', keeps_put hv.keeps e⟩

/-- Putting its value in place of an expression keeps the values of predicates around it. -/
theorem keepsResolved_put (hv : t.IsValue s a v) : ∀ e : Expr, t.KeepsResolved s e (put a v e)
  | .binary _ l r => keepsResolved_putAt hv ((keepsResolved_put hv l).binary (keepsResolved_put hv r))
  | .unary op e => by
      refine keepsResolved_putAt hv fun p h => ?_
      obtain ⟨operand, he, h⟩ := bind_ok_iff.1 h
      cases h
      obtain ⟨operand', he', keeps⟩ := keepsResolved_put hv e operand he
      exact ⟨_, bind_ok_iff.2 ⟨operand', he', rfl⟩, keeps.bind fun _ => .refl _⟩
  | .paren e => by
      refine keepsResolved_putAt hv fun p h => ?_
      obtain ⟨inner, he, h⟩ := bind_ok_iff.1 h
      cases h
      obtain ⟨inner', he', keeps⟩ := keepsResolved_put hv e inner he
      exact ⟨_, bind_ok_iff.2 ⟨inner', he', rfl⟩, keeps⟩
  | .inQuery e query negated => by
      refine keepsResolved_putAt hv fun p h => ?_
      obtain ⟨result, hresult, h⟩ := bind_ok_iff.1 h
      obtain ⟨subject, he, h⟩ := bind_ok_iff.1 h
      cases h
      obtain ⟨subject', he', keeps⟩ := keepsResolved_put hv e subject he
      exact ⟨_, bind_ok_iff.2 ⟨result, hresult, bind_ok_iff.2 ⟨subject', he', rfl⟩⟩,
        keeps.bind fun _ => .refl _⟩
  | .existsIn .. => keepsResolved_putAt hv (.refl _)
  | .column .. | .literal _ | .truth _ | .star _ | .call .. | .choice .. | .cast .. | .inList ..
  | .between .. | .isNull .. | .like .. => keepsResolved_of_plain hv rfl (isPlain_putAt rfl)

/-! ## Groups that pass -/

theorem KeepsResolved.foldl {op : BinaryOp} {e e' : Expr} {es es' : List Expr}
    (h : t.KeepsResolved s e e') (hes : List.Forall₂ (t.KeepsResolved s) es es') :
    t.KeepsResolved s (es.foldl (.binary op) e) (es'.foldl (.binary op) e') := by
  induction hes generalizing e e' with
  | nil => exact h
  | cons hf _ ih => exact ih (h.binary hf)

theorem KeepsResolved.holds {e e' : Expr} (h : t.KeepsResolved (.group rows) e e')
    (he : t.HoldsOfGroup none rows e) :
    t.HoldsOfGroup none rows e' := by
  obtain ⟨p, hp, holds⟩ := he
  obtain ⟨p', hp', keeps⟩ := h p hp
  exact ⟨p', hp', keeps _ holds⟩

/--
Where a HAVING clause can be tested, a group passes it exactly if it passes predicates that
keep the values of those in the clause.
-/
theorem passesHaving_iff_of_keeps {es es' : List Expr}
    (h : List.Forall₂ (t.KeepsResolved (.group rows)) es es') {having_ : Option Resolved}
    (resolved : t.resolveOption none (whereClause es) = .ok having_)
    (tested : ∀ e ∈ having_.map (·.expr), ∃ b, t.test (.group rows) e = .ok b) :
    t.passesHaving (having_.map (·.expr)) rows = true ↔
      ∀ e' ∈ es', t.HoldsOfGroup none rows e' := by
  rw [passesHaving_whereClause_iff resolved]
  cases h with
  | nil => simp
  | @cons e e' es es' he hes =>
      rw [← holdsOfGroup_foldl_iff, ← holdsOfGroup_foldl_iff]
      have whole : t.KeepsResolved (.group rows) (es.foldl (.binary .and) e)
          (es'.foldl (.binary .and) e') := he.foldl hes
      refine ⟨whole.holds, fun ⟨q', hq', holds⟩ => ?_⟩
      obtain ⟨p, hp, rfl⟩ := map_ok_iff.1 resolved
      obtain ⟨p', hp', keeps⟩ := whole p hp
      obtain rfl := Except.ok.inj (hq'.symm.trans hp')
      -- The clause has a value, which is then that of the other predicates.
      obtain ⟨b, hb⟩ := tested p.expr rfl
      obtain ⟨value, hvalue, -⟩ := bind_ok_iff.1 hb
      have same := Except.ok.inj ((keeps value hvalue).symm.trans holds)
      exact ⟨p, hp, by rw [hvalue, same]⟩

/-! ## Predicates on the value alone -/

/-- Whether an expression has the same value on every row and on every group. -/
def Constant (t : Table) (e : Expr) : Prop :=
  t.IsPlain e ∧ ∀ s s', t.eval s e = t.eval s' e

theorem constant_literal (w : Value) : t.Constant (.literal w) :=
  ⟨rfl, fun _ _ => rfl⟩

theorem put_self (a : Expr) (v : Value) : put a v a = .literal v := by
  cases a <;> simp [put, putAt]

theorem Constant.putAt {e inner : Expr} (h : t.Constant inner) :
    t.Constant (Expr.putAt a v e inner) := by
  unfold Expr.putAt
  split
  · exact constant_literal v
  · exact h

theorem Constant.holdsOfGroup_iff {e : Expr} (h : t.Constant e) (rows rows' : List Row) :
    t.HoldsOfGroup none rows e ↔ t.HoldsOfGroup none rows' e := by
  rw [HoldsOfGroup, HoldsOfGroup, h.1]
  simp only [Except.ok.injEq, exists_eq_left', Resolved.plain, h.2 (.group rows) (.group rows')]

theorem evalAll_of_constant {es : List Expr} (h : ∀ e ∈ es, t.Constant (put a v e))
    (s s' : Scope) :
    t.evalAll s (putAll a v es) = t.evalAll s' (putAll a v es) := by
  induction es with
  | nil => rfl
  | cons e es ih =>
      obtain ⟨he, hes⟩ := List.forall_mem_cons.1 h
      rw [putAll, evalAll, evalAll, he.2 s s', ih hes]

theorem evalIn_of_constant {es : List Expr} (h : ∀ e ∈ es, t.Constant (put a v e)) (s s' : Scope)
    (w : Value) (negated sawNull : Bool) :
    t.evalIn s w negated sawNull (putAll a v es) =
      t.evalIn s' w negated sawNull (putAll a v es) := by
  induction es generalizing sawNull with
  | nil => rfl
  | cons e es ih =>
      obtain ⟨he, hes⟩ := List.forall_mem_cons.1 h
      simp only [putAll, evalIn, he.2 s s', ih hes]

/-- Filters read nothing but what they apply to, so with a value in its place they are constant. -/
theorem filterClosed_constant_put (t : Table) (a : Expr) (v : Value) :
    FilterClosed fun e => t.Constant (put a v e) where
  literal w := (constant_literal w).putAt
  truth holds := Constant.putAt ⟨rfl, fun _ _ => rfl⟩
  binary {l r} hl hr op := by
    refine Constant.putAt ⟨?_, fun s s' => ?_⟩
    · rw [IsPlain, resolve, hl.1, hr.1]
      rfl
    · cases op <;> simp only [eval, hl.2 s s', hr.2 s s']
  isNull h negated := Constant.putAt ⟨rfl, fun s s' => by rw [eval, eval, h.2 s s']⟩
  cast h type := Constant.putAt ⟨rfl, fun s s' => by rw [eval, eval, h.2 s s']⟩
  like h hpattern escape negated :=
    Constant.putAt ⟨rfl, fun s s' => by rw [eval, eval, h.2 s s', hpattern.2 s s']⟩
  call {args} h {name} scalar := by
    refine Constant.putAt ⟨rfl, fun s s' => ?_⟩
    rw [scalar, eval, eval, scalar]
    exact congrArg (· >>= _) (evalAll_of_constant h s s')
  inList {e} h {candidates} hcandidates negated := by
    refine Constant.putAt ⟨rfl, fun s s' => ?_⟩
    simp only [eval, h.2 s s', evalIn_of_constant hcandidates s s']

end Table

end GridSql
