import GridSql.Proofs.Sql.Nodes

/-!
# What is written of an expression

The operands whose tokens are among those of an expression, at its top and at any depth. These
are all of its parts, except those of a membership in an empty list, which is a constant.
-/

namespace GridSql

/-- The expressions of a statement that are in no other one. -/
def Query.exprs (q : Query) : List Expr :=
  q.select.map (·.expr) ++ q.filter.toList ++ q.groupBy ++ q.having.toList ++
    q.orderBy.map (·.expr)

/-- The operands that are written of an expression: an empty list of candidates leaves none. -/
def Expr.written : Expr → List Expr
  | .column .. | .literal _ | .truth _ | .star _ => []
  | .binary _ l r => [l, r]
  | .unary _ e | .cast e _ | .isNull e _ | .paren e => [e]
  | .call _ args _ => args
  | .choice subject branches otherwise =>
      subject.toList ++ branches.map (·.1) ++ branches.map (·.2) ++ otherwise.toList
  | .inList subject candidates _ => if candidates.isEmpty then [] else subject :: candidates
  | .inQuery subject query _ => subject :: query.exprs
  | .existsIn query _ => query.exprs
  | .between subject low high _ => [subject, low, high]
  | .like subject pattern _ _ => [subject, pattern]

namespace Expr

variable {m n c e : Expr} {q : Query}

/-! ## Operands are smaller -/

theorem sizeOf_exprs (h : c ∈ q.exprs) : sizeOf c < sizeOf q := by
  obtain ⟨select, distinct, source, filter, groupBy, having_, orderBy, window⟩ := q
  simp only [Query.exprs, List.mem_append, List.mem_map, Option.mem_toList] at h
  rw [Query.mk.sizeOf_spec]
  rcases h with (((⟨item, hitem, rfl⟩ | rfl) | hkey) | rfl) | ⟨key, hkey, rfl⟩
  · have inner := List.sizeOf_lt_of_mem hitem
    obtain ⟨e, asName⟩ := item
    simp at inner ⊢
    omega
  · simp
    omega
  · have inner := List.sizeOf_lt_of_mem hkey
    omega
  · simp
    omega
  · have inner := List.sizeOf_lt_of_mem hkey
    obtain ⟨e, direction, nulls⟩ := key
    simp at inner ⊢
    omega

theorem sizeOf_branch {branch : Expr × Expr} {branches : List (Expr × Expr)}
    (h : branch ∈ branches) :
    sizeOf branch.1 < sizeOf branches ∧ sizeOf branch.2 < sizeOf branches := by
  have inner := List.sizeOf_lt_of_mem h
  obtain ⟨condition, result⟩ := branch
  simp at inner ⊢
  omega

theorem sizeOf_written (h : c ∈ e.written) : sizeOf c < sizeOf e := by
  cases e with
  | column | literal | truth | star => simp [written] at h
  | unary | cast | isNull | paren =>
      rw [List.mem_singleton.1 h]
      simp <;> omega
  | binary | between | like =>
      simp only [written, List.mem_cons, List.not_mem_nil, or_false] at h
      rcases h with rfl | rfl | rfl <;> simp <;> omega
  | call name args distinct =>
      have inner : sizeOf c < sizeOf args := List.sizeOf_lt_of_mem h
      simp
      omega
  | choice subject branches otherwise =>
      simp only [written, List.mem_append, List.mem_map, Option.mem_toList] at h
      rcases h with ((rfl | ⟨branch, hbranch, rfl⟩) | ⟨branch, hbranch, rfl⟩) | rfl
      · simp
        omega
      · have inner := (sizeOf_branch hbranch).1
        simp
        omega
      · have inner := (sizeOf_branch hbranch).2
        simp
        omega
      · simp
        omega
  | inList subject candidates negated =>
      rw [written] at h
      split at h
      · cases h
      · rcases List.mem_cons.1 h with rfl | h
        · simp
          omega
        · have inner := List.sizeOf_lt_of_mem h
          simp
          omega
  | inQuery subject query negated =>
      rcases List.mem_cons.1 h with rfl | h
      · simp
        omega
      · have inner := sizeOf_exprs h
        simp
        omega
  | existsIn query negated =>
      have inner : sizeOf c < sizeOf query := sizeOf_exprs h
      simp
      omega

/-- An expression and, at any depth, the operands that are written of it. -/
inductive WrittenIn : Expr → Expr → Prop where
  | self (e : Expr) : WrittenIn e e
  | inside {n c e : Expr} (operand : c ∈ e.written) (deeper : WrittenIn n c) : WrittenIn n e

theorem writtenIn_iff :
    n.WrittenIn e ↔ n = e ∨ ∃ c ∈ e.written, n.WrittenIn c := by
  constructor
  · rintro (_ | ⟨operand, deeper⟩)
    · exact .inl rfl
    · exact .inr ⟨_, operand, deeper⟩
  · rintro (rfl | ⟨c, operand, deeper⟩)
    · exact .self _
    · exact .inside operand deeper

/-! ## Operands are parts -/

theorem mem_branchNodes_iff {branches : List (Expr × Expr)} :
    n ∈ branchNodes branches ↔ ∃ branch ∈ branches, n ∈ branch.1.nodes ∨ n ∈ branch.2.nodes := by
  induction branches with
  | nil => simp [branchNodes]
  | cons branch rest ih =>
      obtain ⟨condition, result⟩ := branch
      simp [branchNodes, ih, or_assoc]

theorem mem_nodes_of_exprs (hc : c ∈ q.exprs) (hn : n ∈ c.nodes) :
    n ∈ q.nodes := by
  obtain ⟨select, distinct, source, filter, groupBy, having_, orderBy, window⟩ := q
  simp only [Query.exprs, List.mem_append, List.mem_map, Option.mem_toList] at hc
  simp only [Query.nodes, List.mem_append, SelectItem.mem_listNodes_iff, mem_optionNodes_iff,
    mem_listNodes_iff, OrderKey.mem_listNodes_iff]
  rcases hc with (((⟨item, hitem, rfl⟩ | hc) | hc) | hc) | ⟨key, hkey, rfl⟩
  · exact .inl (.inl (.inl (.inl ⟨item, hitem, hn⟩)))
  · exact .inl (.inl (.inl (.inr ⟨c, hc, hn⟩)))
  · exact .inl (.inl (.inr ⟨c, hc, hn⟩))
  · exact .inl (.inr ⟨c, hc, hn⟩)
  · exact .inr ⟨key, hkey, hn⟩

theorem mem_nodes_of_written (hc : c ∈ e.written) (hn : n ∈ c.nodes) :
    n ∈ e.nodes := by
  cases e with
  | column | literal | truth | star => simp [written] at hc
  | unary | cast | isNull | paren =>
      rw [List.mem_singleton.1 hc] at hn
      exact List.mem_cons_of_mem _ hn
  | binary | between | like =>
      simp only [written, List.mem_cons, List.not_mem_nil, or_false] at hc
      rcases hc with rfl | rfl | rfl <;> simp [nodes, hn]
  | call name args distinct =>
      exact List.mem_cons_of_mem _ (mem_listNodes_iff.2 ⟨c, hc, hn⟩)
  | choice subject branches otherwise =>
      simp only [written, List.mem_append, List.mem_map, Option.mem_toList] at hc
      simp only [nodes, List.mem_cons, List.mem_append, mem_optionNodes_iff, mem_branchNodes_iff]
      rcases hc with ((hc | ⟨branch, hbranch, rfl⟩) | ⟨branch, hbranch, rfl⟩) | hc
      · exact .inr (.inl (.inl ⟨c, hc, hn⟩))
      · exact .inr (.inl (.inr ⟨branch, hbranch, .inl hn⟩))
      · exact .inr (.inl (.inr ⟨branch, hbranch, .inr hn⟩))
      · exact .inr (.inr ⟨c, hc, hn⟩)
  | inList subject candidates negated =>
      rw [written] at hc
      simp only [nodes, List.mem_cons, List.mem_append, mem_listNodes_iff]
      split at hc
      · cases hc
      · rcases List.mem_cons.1 hc with rfl | hc
        · exact .inr (.inl hn)
        · exact .inr (.inr ⟨c, hc, hn⟩)
  | inQuery subject query negated =>
      simp only [nodes, List.mem_cons, List.mem_append]
      rcases List.mem_cons.1 hc with rfl | hc
      · exact .inr (.inl hn)
      · exact .inr (.inr (mem_nodes_of_exprs hc hn))
  | existsIn query negated => exact List.mem_cons_of_mem _ (mem_nodes_of_exprs hc hn)

theorem WrittenIn.mem_nodes (h : n.WrittenIn e) : n ∈ e.nodes := by
  induction h with
  | self => exact Expr.mem_nodes _
  | inside operand _ ih => exact mem_nodes_of_written operand ih

theorem WrittenIn.trans (hm : m.WrittenIn n) (hn : n.WrittenIn e) :
    m.WrittenIn e := by
  induction hn with
  | self => exact hm
  | inside operand _ ih => exact .inside operand ih

end Expr

end GridSql
