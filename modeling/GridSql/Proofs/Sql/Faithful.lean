import GridSql.Proofs.Sql.ReadValue

/-!
# Faithful rendering

An expression is rendered faithfully if what is read has the same outcome on every row and
group, the same value or the same error. Tests, comparisons, casts, calls and CASE are if
their operands are, and so are conjunctions and disjunctions, however they are nested:
regrouping them changes neither the truth value nor the operand at which the evaluation fails.
-/

namespace GridSql

namespace Table

variable {t : Table} {s : Scope} {l l' r r' : Expr} {op : BinaryOp}

/-! ## Equal outcomes -/

theorem eval_grouped (needed : Bool) (e : Expr) :
    t.eval s (.grouped needed e) = t.eval s e := by
  cases needed <;> rfl

theorem eval_binary_congr (hl : t.eval s l' = t.eval s l) (hr : t.eval s r' = t.eval s r) :
    t.eval s (.binary op l' r') = t.eval s (.binary op l r) := by
  cases op <;> simp only [eval, hl, hr]

/-- A chain of AND or OR has the outcome of its operands joined, however they are grouped. -/
theorem eval_graft (logical : op.isLogical = true) (acc e : Expr) :
    t.eval s (.graft acc op e) = t.eval s (.binary op acc e) := by
  cases e with
  | binary op' l r =>
      rw [Expr.graft]
      split
      · next level =>
          rw [BinaryOp.eq_of_level logical level]
          exact (eval_binary_congr (eval_graft logical acc l) rfl).trans
            (eval_regrouped logical acc l r)
      · rfl
  | _ => rfl

end Table

namespace Expr

variable {e l r pattern : Expr} {es : List Expr} {op : BinaryOp}

/-- Whether an expression can be read and has the same outcome then, on every row and group. -/
structure Faithful (e : Expr) : Prop where
  upright : ∀ n ∈ e.nodes, n.Upright
  same : ∀ (t : Table) (s : Scope), t.eval s e.readBack = t.eval s e

theorem Faithful.read? (h : e.Faithful) (d : Dialect) :
    Expr.read? (e.tokens d) = some e.readBack :=
  read?_eq_readBack d h.upright

theorem isStar_readBack (e : Expr) : e.readBack.isStar = e.isStar := by
  cases e with
  | binary op l r =>
      rw [readBack]
      unfold graft
      split
      · split <;> rfl
      · rfl
  | inList e candidates negated =>
      rw [readBack]
      split <;> rfl
  | _ => rfl

theorem Binds.mono {m n : Nat} (h : e.Binds n) (hmn : m ≤ n) : e.Binds m :=
  h.imp_right hmn.trans

/-! ## What is faithful -/

namespace Faithful

theorem column (owner : Option String) (name : String) : (Expr.column owner name).Faithful :=
  ⟨by simp [nodes, Upright], fun _ _ => rfl⟩

theorem literal (v : Value) : (Expr.literal v).Faithful :=
  ⟨by simp [nodes, Upright], fun _ _ => rfl⟩

theorem truth (holds : Bool) : (Expr.truth holds).Faithful :=
  ⟨by simp [nodes, Upright], fun _ _ => rfl⟩

theorem grouped (h : e.Faithful) (needed : Bool) (t : Table) (s : Scope) :
    t.eval s (.grouped needed e.readBack) = t.eval s e :=
  (Table.eval_grouped needed _).trans (h.same t s)

theorem cast (h : e.Faithful) (type : CastType) : (Expr.cast e type).Faithful where
  upright := List.forall_mem_cons.2 ⟨trivial, h.upright⟩
  same t s := by simp only [readBack, Table.eval, h.same]

theorem isNull (h : e.Faithful) (binds : e.Binds 3) (negated : Bool) :
    (Expr.isNull e negated).Faithful where
  upright := List.forall_mem_cons.2 ⟨binds, h.upright⟩
  same t s := by simp only [readBack, Table.eval, h.grouped]

theorem like (h : e.Faithful) (binds : e.Binds 3) (hpattern : pattern.Faithful)
    (bindsPattern : pattern.Binds 4) (escape : Char) (negated : Bool) :
    (Expr.like e pattern escape negated).Faithful where
  upright := List.forall_mem_cons.2
    ⟨⟨binds, bindsPattern⟩, List.forall_mem_append.2 ⟨h.upright, hpattern.upright⟩⟩
  same t s := by simp only [readBack, Table.eval, h.grouped, hpattern.grouped]

theorem listUpright (h : ∀ e ∈ es, e.Faithful) : ∀ n ∈ listNodes es, n.Upright := by
  intro n hn
  obtain ⟨e, he, hne⟩ := mem_listNodes_iff.1 hn
  exact (h e he).upright n hne

theorem evalAll (h : ∀ e ∈ es, e.Faithful) (t : Table) (s : Scope) :
    t.evalAll s (readBackList es) = t.evalAll s es := by
  induction es with
  | nil => rfl
  | cons e es ih =>
      obtain ⟨he, hes⟩ := List.forall_mem_cons.1 h
      simp only [readBackList, Table.evalAll, he.same, ih hes]

theorem evalIn (h : ∀ e ∈ es, e.Faithful) (t : Table) (s : Scope) (v : Value)
    (negated sawNull : Bool) :
    t.evalIn s v negated sawNull (readBackList es) = t.evalIn s v negated sawNull es := by
  induction es generalizing sawNull with
  | nil => rfl
  | cons e es ih =>
      obtain ⟨he, hes⟩ := List.forall_mem_cons.1 h
      simp only [readBackList, Table.evalIn, he.same, ih hes]

/-- A list is looked through as it was, unless nothing is in it. -/
theorem inList (h : e.Faithful) (binds : e.Binds 3) (nonempty : es ≠ [])
    (hes : ∀ c ∈ es, c.Faithful) (negated : Bool) :
    (Expr.inList e es negated).Faithful where
  upright := List.forall_mem_cons.2
    ⟨binds, List.forall_mem_append.2 ⟨h.upright, listUpright hes⟩⟩
  same t s := by
    have some_ : es.isEmpty = false := List.isEmpty_eq_false_iff.2 nonempty
    simp only [readBack, some_, Bool.false_eq_true, if_false, Table.eval, h.grouped, evalIn hes]

/-- Calls keep their outcome; of aggregates, the star stays a star. -/
theorem call (h : ∀ e ∈ es, e.Faithful) (name : String) (distinct : Bool) :
    (Expr.call name es distinct).Faithful where
  upright := List.forall_mem_cons.2 ⟨trivial, listUpright h⟩
  same t s := by
    rw [readBack, Table.eval, Table.eval]
    cases Aggregate.ofName? name with
    | none => simp only [evalAll h]
    | some a =>
        cases s with
        | row r => rfl
        | group rows =>
            cases es with
            | nil => rfl
            | cons e es => simp only [readBackList, isStar_readBack, (h e List.mem_cons_self).same]

theorem optionUpright {e : Option Expr} (h : ∀ f ∈ e, f.Faithful) :
    ∀ n ∈ optionNodes e, n.Upright := by
  cases e with
  | none => exact fun n hn => absurd hn List.not_mem_nil
  | some e => exact (h e rfl).upright

theorem evalOption {e : Option Expr} (h : ∀ f ∈ e, f.Faithful) (t : Table) (s : Scope) :
    t.evalOption s (readBackOption e) = t.evalOption s e := by
  cases e with
  | none => rfl
  | some e => exact congrArg (Except.map some) ((h e rfl).same t s)

section

variable {branches : List (Expr × Expr)}

theorem branchUpright (h : ∀ branch ∈ branches, branch.1.Faithful ∧ branch.2.Faithful) :
    ∀ n ∈ branchNodes branches, n.Upright := by
  induction branches with
  | nil => exact fun n hn => absurd hn List.not_mem_nil
  | cons branch branches ih =>
      obtain ⟨own, others⟩ := List.forall_mem_cons.1 h
      exact List.forall_mem_append.2
        ⟨List.forall_mem_append.2 ⟨own.1.upright, own.2.upright⟩, ih others⟩

theorem evalBranches (h : ∀ branch ∈ branches, branch.1.Faithful ∧ branch.2.Faithful) (t : Table)
    (s : Scope) (subject : Option Value) :
    t.evalBranches s subject (readBackBranches branches) = t.evalBranches s subject branches := by
  induction branches with
  | nil => rfl
  | cons branch branches ih =>
      obtain ⟨own, others⟩ := List.forall_mem_cons.1 h
      simp only [readBackBranches, Table.evalBranches, own.1.same, own.2.same, ih others]

theorem choice {subject otherwise : Option Expr} (hsubject : ∀ e ∈ subject, e.Faithful)
    (h : ∀ branch ∈ branches, branch.1.Faithful ∧ branch.2.Faithful)
    (hotherwise : ∀ e ∈ otherwise, e.Faithful) :
    (Expr.choice subject branches otherwise).Faithful where
  upright := List.forall_mem_cons.2 ⟨trivial, List.forall_mem_append.2
    ⟨List.forall_mem_append.2 ⟨optionUpright hsubject, branchUpright h⟩,
      optionUpright hotherwise⟩⟩
  same t s := by
    simp only [readBack, Table.eval, evalOption hsubject, evalBranches h, evalOption hotherwise]

end

theorem binary (hl : l.Faithful) (bindsLeft : l.Binds op.level) (hr : r.Faithful)
    (single : r.operator? = none) (bindsRight : r.Binds (op.level + 1)) :
    (Expr.binary op l r).Faithful where
  upright := List.forall_mem_cons.2
    ⟨⟨bindsLeft, bindsRight⟩, List.forall_mem_append.2 ⟨hl.upright, hr.upright⟩⟩
  same t s := by
    rw [readBack, graft_of_operator? (operator?_grouped (operator?_readBack single))]
    exact Table.eval_binary_congr (hl.grouped _ t s) (hr.grouped _ t s)

/-- AND and OR of faithful operands are faithful, whatever chains the operands are. -/
theorem join (hl : l.Faithful) (hr : r.Faithful) (logical : op.isLogical = true) :
    (Expr.binary op l r).Faithful where
  upright := by
    have level : op.level ≤ 1 := by
      revert logical
      cases op <;> decide
    exact List.forall_mem_cons.2
      ⟨⟨(binds_two l).mono (by omega), (binds_two r).mono (by omega)⟩,
        List.forall_mem_append.2 ⟨hl.upright, hr.upright⟩⟩
  same t s := by
    rw [readBack, Table.eval_graft logical]
    exact Table.eval_binary_congr (hl.grouped _ t s) (hr.grouped _ t s)

end Faithful

end Expr

end GridSql
