import GridSql.Sql.Expr

/-!
# The parts of expressions

An expression and everything inside it, at any depth and in subqueries.
-/

namespace GridSql

mutual

def Expr.nodes : Expr → List Expr
  | .column owner name => [.column owner name]
  | .literal v => [.literal v]
  | .truth holds => [.truth holds]
  | .binary op l r => .binary op l r :: (l.nodes ++ r.nodes)
  | .unary op e => .unary op e :: e.nodes
  | .call name args distinct => .call name args distinct :: Expr.listNodes args
  | .choice subject branches otherwise =>
      .choice subject branches otherwise ::
        (Expr.optionNodes subject ++ Expr.branchNodes branches ++ Expr.optionNodes otherwise)
  | .cast e t => .cast e t :: e.nodes
  | .inList subject candidates negated =>
      .inList subject candidates negated :: (subject.nodes ++ Expr.listNodes candidates)
  | .inQuery subject query negated =>
      .inQuery subject query negated :: (subject.nodes ++ query.nodes)
  | .existsIn query negated => .existsIn query negated :: query.nodes
  | .between subject low high negated =>
      .between subject low high negated :: (subject.nodes ++ low.nodes ++ high.nodes)
  | .isNull subject negated => .isNull subject negated :: subject.nodes
  | .like subject pattern escape negated =>
      .like subject pattern escape negated :: (subject.nodes ++ pattern.nodes)
  | .star owner => [.star owner]
  | .paren e => .paren e :: e.nodes

def Expr.listNodes : List Expr → List Expr
  | [] => []
  | e :: es => e.nodes ++ Expr.listNodes es

def Expr.optionNodes : Option Expr → List Expr
  | some e => e.nodes
  | none => []

def Expr.branchNodes : List (Expr × Expr) → List Expr
  | [] => []
  | (condition, result) :: rest =>
      condition.nodes ++ result.nodes ++ Expr.branchNodes rest

def SelectItem.nodes : SelectItem → List Expr
  | ⟨e, _⟩ => e.nodes

def SelectItem.listNodes : List SelectItem → List Expr
  | [] => []
  | item :: items => item.nodes ++ SelectItem.listNodes items

def OrderKey.nodes : OrderKey → List Expr
  | ⟨e, _, _⟩ => e.nodes

def OrderKey.listNodes : List OrderKey → List Expr
  | [] => []
  | key :: keys => key.nodes ++ OrderKey.listNodes keys

def Query.nodes : Query → List Expr
  | ⟨select, _, _, filter, groupBy, having, orderBy, _⟩ =>
      SelectItem.listNodes select ++ Expr.optionNodes filter ++ Expr.listNodes groupBy ++
        Expr.optionNodes having ++ OrderKey.listNodes orderBy

end

theorem Expr.mem_nodes (e : Expr) : e ∈ e.nodes := by
  cases e <;> exact List.mem_cons_self

theorem Expr.mem_listNodes_iff {es : List Expr} {n : Expr} :
    n ∈ Expr.listNodes es ↔ ∃ e ∈ es, n ∈ e.nodes := by
  induction es with
  | nil => simp [Expr.listNodes]
  | cons e es ih => simp [Expr.listNodes, ih]

theorem Expr.mem_optionNodes_iff {e? : Option Expr} {n : Expr} :
    n ∈ Expr.optionNodes e? ↔ ∃ e ∈ e?, n ∈ e.nodes := by
  cases e? <;> simp [Expr.optionNodes]

theorem Expr.mem_nodes_joinAll {op : BinaryOp} {empty : Bool} {es : List Expr} {e n : Expr}
    (he : e ∈ es) (hn : n ∈ e.nodes) : n ∈ (Expr.joinAll op empty es).nodes := by
  have kept (rest : List Expr) : ∀ acc : Expr, n ∈ acc.nodes ∨ e ∈ rest →
      n ∈ (rest.foldl (Expr.binary op) acc).nodes := by
    induction rest with
    | nil => simp
    | cons next rest ih =>
        intro acc h
        refine ih _ ?_
        rw [Expr.nodes, List.mem_cons, List.mem_append]
        rcases h with h | h
        · exact .inl (.inr (.inl h))
        · rcases List.mem_cons.1 h with rfl | h
          · exact .inl (.inr (.inr hn))
          · exact .inr h
  cases es with
  | nil => cases he
  | cons first rest =>
      refine kept rest first ?_
      rcases List.mem_cons.1 he with rfl | he
      · exact .inl hn
      · exact .inr he

theorem SelectItem.mem_listNodes_iff {items : List SelectItem} {n : Expr} :
    n ∈ SelectItem.listNodes items ↔ ∃ item ∈ items, n ∈ item.expr.nodes := by
  induction items with
  | nil => simp [SelectItem.listNodes]
  | cons item items ih =>
      have own : item.nodes = item.expr.nodes := by cases item; rw [SelectItem.nodes]
      simp [SelectItem.listNodes, own, ih]

theorem OrderKey.mem_listNodes_iff {keys : List OrderKey} {n : Expr} :
    n ∈ OrderKey.listNodes keys ↔ ∃ key ∈ keys, n ∈ key.expr.nodes := by
  induction keys with
  | nil => simp [OrderKey.listNodes]
  | cons key keys ih =>
      have own : key.nodes = key.expr.nodes := by cases key; rw [OrderKey.nodes]
      simp [OrderKey.listNodes, own, ih]

/-- What holds inside every clause holds everywhere in a statement. -/
theorem Query.forall_nodes {P : Expr → Prop} {q : Query}
    (select : ∀ item ∈ q.select, ∀ n ∈ item.expr.nodes, P n)
    (filter : ∀ e ∈ q.filter, ∀ n ∈ e.nodes, P n)
    (groupBy : ∀ e ∈ q.groupBy, ∀ n ∈ e.nodes, P n)
    (having_ : ∀ e ∈ q.having, ∀ n ∈ e.nodes, P n)
    (orderBy : ∀ key ∈ q.orderBy, ∀ n ∈ key.expr.nodes, P n) :
    ∀ n ∈ q.nodes, P n := by
  obtain ⟨items, distinct, source, where_, keys, condition, order, window⟩ := q
  intro n hn
  simp only [Query.nodes, List.mem_append, SelectItem.mem_listNodes_iff,
    Expr.mem_optionNodes_iff, Expr.mem_listNodes_iff, OrderKey.mem_listNodes_iff] at hn
  rcases hn with (((⟨item, hitem, hn⟩ | ⟨e, he, hn⟩) | ⟨e, he, hn⟩) | ⟨e, he, hn⟩) | ⟨key, hkey, hn⟩
  · exact select item hitem n hn
  · exact filter e he n hn
  · exact groupBy e he n hn
  · exact having_ e he n hn
  · exact orderBy key hkey n hn

end GridSql
