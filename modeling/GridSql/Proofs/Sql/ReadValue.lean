import GridSql.Proofs.Sql.ReadBack
import GridSql.Proofs.Table.Matched
import Mathlib

-- The whole library is imported for the equations by which given expressions are evaluated.

/-!
# Values of rendered expressions

An expression that is rendered and read has the value that it had before, as far as its
sums and products can be calculated from the left and no empty list is searched for a null.
-/

namespace GridSql

/-- Whether a step gives what another one gives, if that succeeds. -/
def Extends {ε α : Type} (x y : Except ε α) : Prop :=
  ∀ a, x = .ok a → y = .ok a

namespace Extends

variable {ε α β : Type} {x y z : Except ε α}

theorem refl (x : Except ε α) : Extends x x :=
  fun _ => id

theorem trans (hxy : Extends x y) (hyz : Extends y z) : Extends x z :=
  fun a ha => hyz a (hxy a ha)

theorem bind {f g : α → Except ε β} (h : Extends x y) (hfg : ∀ a, Extends (f a) (g a)) :
    Extends (x >>= f) (y >>= g) := by
  intro b hb
  obtain ⟨a, ha, hfa⟩ := bind_ok_iff.1 hb
  exact bind_ok_iff.2 ⟨a, h a ha, hfg a b hfa⟩

theorem map {f : α → β} (h : Extends x y) : Extends (x.map f) (y.map f) := by
  intro b hb
  obtain ⟨a, ha, rfl⟩ := map_ok_iff.1 hb
  exact map_ok_iff.2 ⟨a, h a ha, rfl⟩

theorem ite {p : Prop} [Decidable p] {x' y' : Except ε α} (hx : Extends x x')
    (hy : Extends y y') : Extends (if p then x else y) (if p then x' else y') := by
  split
  · exact hx
  · exact hy

end Extends

namespace Table

variable {t : Table} {s : Scope} {l l' r r' e e' acc acc' : Expr} {op : BinaryOp}

/-- Whether an expression has the value of another one where that has one. -/
def Keeps (t : Table) (s : Scope) (e e' : Expr) : Prop :=
  Extends (t.eval s e) (t.eval s e')

theorem Keeps.binary (hl : t.Keeps s l l') (hr : t.Keeps s r r') :
    t.Keeps s (.binary op l r) (.binary op l' r') := by
  have value : Extends (t.eval s l >>= fun a => t.eval s r >>= fun b => lift (a.operate op b))
      (t.eval s l' >>= fun a => t.eval s r' >>= fun b => lift (a.operate op b)) :=
    hl.bind fun _ => hr.bind fun _ => .refl _
  unfold Keeps
  cases op with
  | and =>
      simp only [eval]
      refine hl.bind fun a => .bind (.refl _) fun left => ?_
      split
      · exact .refl _
      · exact hr.bind fun b => .refl _
  | or =>
      simp only [eval]
      refine hl.bind fun a => .bind (.refl _) fun left => ?_
      split
      · exact .refl _
      · exact hr.bind fun b => .refl _
  | _ =>
      simp only [eval]
      exact value

/-! ## Calculating from the left -/

/--
The operators and operands of the right operand of `op`, one by one as far as they are
written without parentheses on one level.
-/
def chain (op : BinaryOp) (wraps : Bool) : Expr → List (BinaryOp × Expr)
  | .binary op' l r =>
      if wraps = false ∧ op'.level = op.level then
        chain op (l.operator?.any (op'.wraps · false)) l ++
          chain op' (r.operator?.any (op'.wraps · true)) r
      else [(op, .binary op' l r)]
  | e => [(op, e)]

def joinLeft (e : Expr) (terms : List (BinaryOp × Expr)) : Expr :=
  terms.foldl (fun acc term => .binary term.1 acc term.2) e

/-- The expression with two operands in which the right one is calculated piece by piece. -/
def fromLeft (op : BinaryOp) (l r : Expr) : Expr :=
  joinLeft l (chain op (r.operator?.any (op.wraps · true)) r)

theorem joinLeft_append (terms others : List (BinaryOp × Expr)) :
    joinLeft e (terms ++ others) = joinLeft (joinLeft e terms) others :=
  List.foldl_append

theorem Keeps.refl (e : Expr) : t.Keeps s e e :=
  Extends.refl _

theorem Keeps.trans {e₁ e₂ e₃ : Expr} (h : t.Keeps s e₁ e₂) (h' : t.Keeps s e₂ e₃) :
    t.Keeps s e₁ e₃ :=
  Extends.trans h h'

theorem Keeps.grouped {needed : Bool} (h : t.Keeps s e e') :
    t.Keeps s e (.grouped needed e') := by
  cases needed <;> exact h

theorem keeps_fromLeft (hop : op.isLogical = true) (wraps : Bool) (l r : Expr) :
    t.Keeps s (.binary op l r) (joinLeft l (chain op wraps r)) := by
  cases r with
  | binary op' a b =>
      rw [chain]
      split
      · next hflat =>
          rw [joinLeft_append, BinaryOp.eq_of_level hop hflat.2]
          have first := keeps_fromLeft hop (a.operator?.any (op.wraps · false)) l a
          have regrouped : t.Keeps s (.binary op l (.binary op a b))
              (.binary op (.binary op l a) b) := by
            rw [Keeps, eval_regrouped hop]
            exact .refl _
          exact regrouped.trans ((first.binary (.refl b)).trans (keeps_fromLeft hop _ _ b))
      · exact .refl _
  | _ => exact .refl _

open GridSql.Expr in
theorem keeps_graft (op : BinaryOp) (wraps : Bool) {acc acc' : Expr}
    (hacc : t.Keeps s acc acc') (e : Expr) (h : ∀ n ∈ e.nodes, t.Keeps s n n.readBack) :
    t.Keeps s (joinLeft acc (chain op wraps e)) (graft acc' op (grouped wraps e.readBack)) := by
  have whole (last : graft acc' op (grouped wraps e.readBack) =
      .binary op acc' (grouped wraps e.readBack)) :
      t.Keeps s (joinLeft acc [(op, e)]) (graft acc' op (grouped wraps e.readBack)) := by
    rw [last]
    exact hacc.binary (.grouped (h e (mem_nodes e)))
  cases e with
  | binary op' l r =>
      rw [chain]
      split
      · next hflat =>
          obtain ⟨rfl, hlevel⟩ := hflat
          simp only [nodes, List.mem_cons, List.mem_append, or_imp, forall_and] at h
          rw [joinLeft_append, grouped, if_neg (by simp), readBack, graft_graft hlevel]
          exact keeps_graft op' _ (keeps_graft op _ hacc l h.2.1) r h.2.2
      · next hnot =>
          apply whole
          cases wraps with
          | true => rfl
          | false =>
              apply graft_of_level_ne
              rw [grouped, if_neg (by simp), level_readBack]
              exact fun hlevel => hnot ⟨rfl, hlevel.symm⟩
  | _ => exact whole (graft_of_operator? (operator?_grouped (operator?_readBack rfl)))

/-! ## Whole expressions -/

/--
Whether an expression has its value also if its right operand is calculated piece by piece,
and, if it is a test with an empty list, does not test a null.
-/
def Steady (t : Table) (s : Scope) : Expr → Prop
  | .binary op l r => op.isLogical = false → t.Keeps s (.binary op l r) (fromLeft op l r)
  | .inList e [] _ => ∀ v, t.eval s e = .ok v → v.isNull = false
  | _ => True

variable {row : Row}

open GridSql.Expr

theorem extends_evalAll {es : List Expr} (h : ∀ n ∈ listNodes es, t.Keeps s n n.readBack) :
    Extends (t.evalAll s es) (t.evalAll s (readBackList es)) := by
  induction es with
  | nil => exact .refl _
  | cons e es ih =>
      simp only [listNodes, List.mem_append, or_imp, forall_and] at h
      exact (h.1 e (mem_nodes e)).bind fun _ => (ih h.2).bind fun _ => .refl _

theorem extends_evalOption {e : Option Expr} (h : ∀ n ∈ optionNodes e, t.Keeps s n n.readBack) :
    Extends (t.evalOption s e) (t.evalOption s (readBackOption e)) := by
  cases e with
  | none => exact .refl _
  | some e => exact (h e (mem_nodes e)).map

theorem extends_evalBranches {subject : Option Value} {branches : List (Expr × Expr)}
    (h : ∀ n ∈ branchNodes branches, t.Keeps s n n.readBack) :
    Extends (t.evalBranches s subject branches)
      (t.evalBranches s subject (readBackBranches branches)) := by
  induction branches with
  | nil => exact .refl _
  | cons branch branches ih =>
      obtain ⟨condition, result⟩ := branch
      simp only [branchNodes, List.mem_append, or_imp, forall_and] at h
      exact (h.1.1 condition (mem_nodes condition)).bind fun _ =>
        .ite (h.1.2 result (mem_nodes result)).map (ih h.2)

theorem extends_evalIn {v : Value} {negated sawNull : Bool} {es : List Expr}
    (h : ∀ n ∈ listNodes es, t.Keeps s n n.readBack) :
    Extends (t.evalIn s v negated sawNull es) (t.evalIn s v negated sawNull (readBackList es)) := by
  induction es generalizing sawNull with
  | nil => exact .refl _
  | cons e es ih =>
      simp only [listNodes, List.mem_append, or_imp, forall_and] at h
      exact (h.1 e (mem_nodes e)).bind fun _ => .ite (ih h.2) (.ite (.refl _) (ih h.2))

/-- One step: an expression keeps its value if all inside it do. -/
theorem keeps_readBack (steady : t.Steady (.row row) e)
    (h : ∀ n ∈ e.nodes.tail, t.Keeps (.row row) n n.readBack) :
    t.Keeps (.row row) e e.readBack := by
  cases e with
  | binary op l r =>
      simp only [nodes, List.tail_cons, List.mem_append, or_imp, forall_and] at h
      have left : t.Keeps (.row row) (.binary op l r) (fromLeft op l r) := by
        cases hop : op.isLogical with
        | true => exact keeps_fromLeft hop _ l r
        | false => exact steady hop
      exact left.trans (keeps_graft op _ (.grouped (h.1 l (mem_nodes l))) r h.2)
  | unary op e => exact (Keeps.grouped (h e (mem_nodes e))).bind fun _ => .refl _
  | call name args distinct =>
      simp only [nodes, List.tail_cons] at h
      unfold Keeps
      rw [readBack, eval, eval]
      cases Aggregate.ofName? name with
      | some a =>
          intro v hv
          cases hv
      | none => exact (extends_evalAll h).bind fun _ => .refl _
  | choice subject branches otherwise =>
      simp only [nodes, List.tail_cons, List.mem_append, or_imp, forall_and] at h
      refine (extends_evalOption h.1.1).bind fun v => (extends_evalBranches h.1.2).bind fun r => ?_
      cases r with
      | some result => exact .refl _
      | none => exact (extends_evalOption h.2).bind fun _ => .refl _
  | cast e type => exact (h e (mem_nodes e)).bind fun _ => .refl _
  | inList e candidates negated =>
      cases candidates with
      | nil =>
          intro v hv
          obtain ⟨w, hw, hv⟩ := bind_ok_iff.1 hv
          rw [steady w hw] at hv
          exact hv
      | cons first others =>
          simp only [nodes, List.tail_cons, List.mem_append, or_imp, forall_and] at h
          exact (Keeps.grouped (h.1 e (mem_nodes e))).bind fun _ =>
            .ite (.refl _) (extends_evalIn h.2)
  | between e low high negated =>
      simp only [nodes, List.tail_cons, List.mem_append, or_imp, forall_and] at h
      exact (Keeps.grouped (h.1.1 e (mem_nodes e))).bind fun _ =>
        (Keeps.grouped (h.1.2 low (mem_nodes low))).bind fun _ =>
          (Keeps.grouped (h.2 high (mem_nodes high))).bind fun _ => .refl _
  | isNull e negated => exact (Keeps.grouped (h e (mem_nodes e))).bind fun _ => .refl _
  | like e pattern escape negated =>
      simp only [nodes, List.tail_cons, List.mem_append, or_imp, forall_and] at h
      exact (Keeps.grouped (h.1 e (mem_nodes e))).bind fun _ =>
        (Keeps.grouped (h.2 pattern (mem_nodes pattern))).bind fun _ => .refl _
  | paren e => exact h e (mem_nodes e)
  | _ => exact .refl _

/-- Everything inside an expression keeps its value. -/
def AllKeep (t : Table) (row : Row) (es : List Expr) : Prop :=
  (∀ n ∈ es, n.Upright ∧ t.Steady (.row row) n) → ∀ n ∈ es, t.Keeps (.row row) n n.readBack

theorem AllKeep.nil : t.AllKeep row [] :=
  fun _ _ hn => absurd hn List.not_mem_nil

theorem AllKeep.append {es fs : List Expr} (hes : t.AllKeep row es) (hfs : t.AllKeep row fs) :
    t.AllKeep row (es ++ fs) := by
  intro h
  rw [List.forall_mem_append] at h ⊢
  exact ⟨hes h.1, hfs h.2⟩

theorem AllKeep.self (h : t.AllKeep row e.nodes.tail) : t.AllKeep row e.nodes := by
  have whole : e.nodes = e :: e.nodes.tail := by cases e <;> rfl
  rw [whole]
  intro hall
  rw [List.forall_mem_cons] at hall ⊢
  exact ⟨keeps_readBack hall.1.2 (h hall.2), h hall.2⟩

theorem AllKeep.not_upright (hn : ¬ e.Upright) : t.AllKeep row e.nodes :=
  fun h => absurd (h e (mem_nodes e)).1 hn

mutual

theorem nodes_keep : ∀ e : Expr, t.AllKeep row e.nodes
  | .column .. | .literal _ | .truth _ | .star _ => AllKeep.self .nil
  | .binary _ l r => AllKeep.self ((nodes_keep l).append (nodes_keep r))
  | .unary _ e | .cast e _ | .isNull e _ | .paren e => AllKeep.self (nodes_keep e)
  | .call _ args _ => AllKeep.self (listNodes_keep args)
  | .choice subject branches otherwise =>
      AllKeep.self (((optionNodes_keep subject).append (branchNodes_keep branches)).append
        (optionNodes_keep otherwise))
  | .inList e candidates _ => AllKeep.self ((nodes_keep e).append (listNodes_keep candidates))
  | .inQuery .. | .existsIn .. => AllKeep.not_upright id
  | .between e low high _ =>
      AllKeep.self (((nodes_keep e).append (nodes_keep low)).append (nodes_keep high))
  | .like e pattern _ _ => AllKeep.self ((nodes_keep e).append (nodes_keep pattern))

theorem listNodes_keep : ∀ es : List Expr, t.AllKeep row (listNodes es)
  | [] => .nil
  | e :: es => (nodes_keep e).append (listNodes_keep es)

theorem optionNodes_keep : ∀ e : Option Expr, t.AllKeep row (optionNodes e)
  | none => .nil
  | some e => nodes_keep e

theorem branchNodes_keep : ∀ branches : List (Expr × Expr), t.AllKeep row (branchNodes branches)
  | [] => .nil
  | (condition, result) :: rest =>
      ((nodes_keep condition).append (nodes_keep result)).append (branchNodes_keep rest)

end

end Table

namespace Expr

open Token

theorem read?_eq_readBack {e : Expr} (d : Dialect) (upright : ∀ n ∈ e.nodes, n.Upright) :
    read? (e.tokens d) = some e.readBack := by
  have ends : Stops 0 [] := by simp [Stops]
  have read := (readsAs (d := d) upright).readAt_of_stops (Nat.zero_le _) ends
  rw [List.append_nil] at read
  rw [read?, read]

/--
The tokens of an expression are read as one that has the same value on every row on which
the expression is steady.
-/
theorem read?_tokens (d : Dialect) (e : Expr) (upright : ∀ n ∈ e.nodes, n.Upright) :
    ∃ e', read? (e.tokens d) = some e' ∧
      ∀ (t : Table) (row : Row) (v : Value), (∀ n ∈ e.nodes, t.Steady (.row row) n) →
        t.eval (.row row) e = .ok v → t.eval (.row row) e' = .ok v := by
  refine ⟨e.readBack, read?_eq_readBack d upright, fun t row v steady => ?_⟩
  exact Table.nodes_keep e (fun n hn => ⟨upright n hn, steady n hn⟩) e (mem_nodes e) v

def price : Expr :=
  binary .add (col "net") (binary .sub (col "tax") (ofInt 2))

def priceCheck : Expr :=
  (binary .gt price (ofInt 3)).and
    ((binary .lt (col "net") (ofInt 5)).and (not (isNull (col "tax") false)))

theorem read?_tokens_priceCheck :
    let t : Table := ⟨"prices", [⟨"net", .integer⟩, ⟨"tax", .integer⟩], []⟩
    let row : Row := [("net", .int 4), ("tax", .int 3)]
    ∃ e', read? (priceCheck.tokens .postgres) = some e' ∧
      t.eval (.row row) e' = .ok (.bool true) := by
  intro t row
  have upright : ∀ n ∈ priceCheck.nodes, n.Upright := by
    simp [priceCheck, price, Expr.and, Expr.not, col, ofInt, nodes, Upright, Binds, operator?,
      level, BinaryOp.level]
  have whole : t.eval (.row row) price = t.eval (.row row)
      (binary .sub (binary .add (col "net") (col "tax")) (ofInt 2)) := rfl
  have sum : t.Steady (.row row) price := by
    intro _ v hv
    exact whole.symm.trans hv
  have all : priceCheck.nodes =
      [priceCheck, binary .gt price (ofInt 3), price, col "net",
        binary .sub (col "tax") (ofInt 2), col "tax", ofInt 2, ofInt 3,
        (binary .lt (col "net") (ofInt 5)).and (not (isNull (col "tax") false)),
        binary .lt (col "net") (ofInt 5), col "net", ofInt 5,
        not (isNull (col "tax") false), isNull (col "tax") false, col "tax"] := rfl
  have steady : ∀ n ∈ priceCheck.nodes, t.Steady (.row row) n := by
    rw [all]
    simp only [List.forall_mem_cons]
    have joined {l r : Expr} : t.Steady (.row row) (l.and r) :=
      fun h => absurd h (by decide)
    exact ⟨joined, fun _ => .refl _, sum, trivial, fun _ => .refl _, trivial, trivial, trivial,
      joined, fun _ => .refl _, trivial, trivial, trivial, trivial, trivial, by simp⟩
  obtain ⟨e', hread, hvalue⟩ := read?_tokens .postgres priceCheck upright
  exact ⟨e', hread, hvalue t row (.bool true) steady rfl⟩

/-- Whether an expression is read as one with the same value on every row, as it is. -/
def ReadsSame (e : Expr) : Prop :=
  ∀ d : Dialect, ∃ e', read? (e.tokens d) = some e' ∧
    ∀ (t : Table) (row : Row) (v : Value),
      t.eval (.row row) e = .ok v → t.eval (.row row) e' = .ok v

theorem not_readsSame {e e' : Expr} {v w : Value} (read : read? (e.tokens .postgres) = some e')
    (he : (default : Table).eval (.row []) e = .ok v)
    (he' : (default : Table).eval (.row []) e' = .ok w) (hne : w ≠ v) :
    ¬ e.ReadsSame := by
  intro same
  obtain ⟨found, hfound, hvalue⟩ := same .postgres
  rw [read, Option.some.injEq] at hfound
  have kept := hvalue default [] v he
  rw [← hfound, he', Except.ok.injEq] at kept
  exact hne kept

def thirds : Expr :=
  binary .mul (ofInt 3) (binary .div (ofInt 1) (ofInt 3))

/--
Three times a third is calculated as a third of three once it is written, and the test of a
negation as the negation of a test. An empty list is written as a constant, which is no null.
-/
theorem not_read?_tokens :
    ¬ thirds.ReadsSame ∧ ¬ (isNull (not (.truth true)) false).ReadsSame ∧
      ¬ (inList null [] false).ReadsSame := by
  have regrouped : read? (thirds.tokens .postgres) =
      some (binary .div (binary .mul (ofInt 3) (ofInt 1)) (ofInt 3)) := by
    cbv
  have negated : read? ((isNull (not (.truth true)) false).tokens .postgres) =
      some (not (isNull (.truth true) false)) := by
    cbv
  have constant : read? ((inList null [] false).tokens .postgres) = some (.truth false) := by
    cbv
  refine ⟨not_readsSame regrouped rfl rfl ?_,
    not_readsSame (v := .bool false) (w := .bool true) negated rfl rfl (by simp),
    not_readsSame (v := .null) (w := .bool false) constant rfl rfl (by simp)⟩
  intro same
  injection same with same
  exact absurd same (by decide)

end Expr

end GridSql
