import GridSql.Proofs.Sql.Nodes
import GridSql.Table.Run

/-!
# Columns put in place of columns

What stands in for the columns of an expression depends on the columns in it only.
-/

namespace GridSql

namespace Expr

mutual

/-- Puts an expression in place of every column. Subqueries inside are left as they are. -/
def mapColumns (f : Option String → String → Expr) : Expr → Expr
  | column owner name => f owner name
  | literal v => literal v
  | truth holds => truth holds
  | star owner => star owner
  | binary op l r => binary op (l.mapColumns f) (r.mapColumns f)
  | unary op e => unary op (e.mapColumns f)
  | paren e => paren (e.mapColumns f)
  | call name args distinct => call name (mapAllColumns f args) distinct
  | cast e type => cast (e.mapColumns f) type
  | isNull e negated => isNull (e.mapColumns f) negated
  | inList e candidates negated => inList (e.mapColumns f) (mapAllColumns f candidates) negated
  | between e low high negated =>
      between (e.mapColumns f) (low.mapColumns f) (high.mapColumns f) negated
  | like e pattern escape negated => like (e.mapColumns f) (pattern.mapColumns f) escape negated
  | choice subject branches otherwise =>
      choice (mapOptionColumns f subject) (mapBranchColumns f branches)
        (mapOptionColumns f otherwise)
  | inQuery e query negated => inQuery e query negated
  | existsIn query negated => existsIn query negated

def mapAllColumns (f : Option String → String → Expr) : List Expr → List Expr
  | [] => []
  | e :: es => e.mapColumns f :: mapAllColumns f es

def mapOptionColumns (f : Option String → String → Expr) : Option Expr → Option Expr
  | some e => some (e.mapColumns f)
  | none => none

def mapBranchColumns (f : Option String → String → Expr) :
    List (Expr × Expr) → List (Expr × Expr)
  | [] => []
  | (condition, result) :: rest =>
      (condition.mapColumns f, result.mapColumns f) :: mapBranchColumns f rest

end

/-- What stands in for a column inside a row: its cell, unless it is a subquery's own column. -/
def outerColumn (o : OuterRow) : Option String → String → Expr
  | some owner, name =>
      if Text.eqIgnoringCase owner o.innerName then column (some owner) name
      else literal (o.row.cell name)
  | none, name => column none name

mutual

theorem bindOuter_eq_mapColumns (o : OuterRow) :
    ∀ e : Expr, e.bindOuter o = e.mapColumns (outerColumn o)
  | column (some _) _ | column none _ | literal _ | truth _ | star _ | inQuery .. | existsIn .. =>
      rfl
  | unary _ e | paren e | cast e _ | isNull e _ => by
      simp only [bindOuter, mapColumns, bindOuter_eq_mapColumns o e]
  | binary _ e e' | like e e' _ _ => by
      simp only [bindOuter, mapColumns, bindOuter_eq_mapColumns o e, bindOuter_eq_mapColumns o e']
  | call _ args _ => by
      simp only [bindOuter, mapColumns, bindOuterAll_eq_mapAllColumns o args]
  | inList e candidates _ => by
      simp only [bindOuter, mapColumns, bindOuter_eq_mapColumns o e,
        bindOuterAll_eq_mapAllColumns o candidates]
  | between e low high _ => by
      simp only [bindOuter, mapColumns, bindOuter_eq_mapColumns o e, bindOuter_eq_mapColumns o low,
        bindOuter_eq_mapColumns o high]
  | choice subject branches otherwise => by
      simp only [bindOuter, mapColumns, bindOuterOption_eq_mapOptionColumns o subject,
        bindOuterBranches_eq_mapBranchColumns o branches,
        bindOuterOption_eq_mapOptionColumns o otherwise]

theorem bindOuterAll_eq_mapAllColumns (o : OuterRow) :
    ∀ es : List Expr, bindOuterAll o es = mapAllColumns (outerColumn o) es
  | [] => rfl
  | e :: es => by
      simp only [bindOuterAll, mapAllColumns, bindOuter_eq_mapColumns o e,
        bindOuterAll_eq_mapAllColumns o es]

theorem bindOuterOption_eq_mapOptionColumns (o : OuterRow) :
    ∀ e : Option Expr, bindOuterOption o e = mapOptionColumns (outerColumn o) e
  | some e => by simp only [bindOuterOption, mapOptionColumns, bindOuter_eq_mapColumns o e]
  | none => rfl

theorem bindOuterBranches_eq_mapBranchColumns (o : OuterRow) :
    ∀ branches : List (Expr × Expr),
      bindOuterBranches o branches = mapBranchColumns (outerColumn o) branches
  | [] => rfl
  | (condition, result) :: rest => by
      simp only [bindOuterBranches, mapBranchColumns, bindOuter_eq_mapColumns o condition,
        bindOuter_eq_mapColumns o result, bindOuterBranches_eq_mapBranchColumns o rest]

end

/-! ## Columns that are looked at -/

/-- Whether two ways to read columns agree on the columns among some expressions. -/
def Agree (f g : Option String → String → Expr) (es : List Expr) : Prop :=
  ∀ owner name, column owner name ∈ es → f owner name = g owner name

variable {f g : Option String → String → Expr} {es fs : List Expr} {e : Expr}

theorem agree_append_iff : Agree f g (es ++ fs) ↔ Agree f g es ∧ Agree f g fs := by
  simp only [Agree, List.mem_append, or_imp, forall_and]

theorem agree_cons_iff (h : ∀ owner name, e ≠ column owner name) :
    Agree f g (e :: es) ↔ Agree f g es := by
  have other (owner : Option String) (name : String) : column owner name ≠ e := (h owner name).symm
  simp only [Agree, List.mem_cons, other, false_or]

mutual

theorem mapColumns_congr : ∀ {e : Expr}, Agree f g e.nodes → e.mapColumns f = e.mapColumns g
  | column owner name, h => h owner name List.mem_cons_self
  | literal _, _ | truth _, _ | star _, _ | inQuery .., _ | existsIn .., _ => rfl
  | unary _ e, h | paren e, h | cast e _, h | isNull e _, h => by
      rw [nodes, agree_cons_iff (by simp)] at h
      simp only [mapColumns, mapColumns_congr h]
  | binary _ e e', h | like e e' _ _, h => by
      rw [nodes, agree_cons_iff (by simp), agree_append_iff] at h
      simp only [mapColumns, mapColumns_congr h.1, mapColumns_congr h.2]
  | call _ args _, h => by
      rw [nodes, agree_cons_iff (by simp)] at h
      simp only [mapColumns, mapAllColumns_congr h]
  | inList e candidates _, h => by
      rw [nodes, agree_cons_iff (by simp), agree_append_iff] at h
      simp only [mapColumns, mapColumns_congr h.1, mapAllColumns_congr h.2]
  | between e low high _, h => by
      rw [nodes, agree_cons_iff (by simp), agree_append_iff, agree_append_iff] at h
      simp only [mapColumns, mapColumns_congr h.1.1, mapColumns_congr h.1.2,
        mapColumns_congr h.2]
  | choice subject branches otherwise, h => by
      rw [nodes, agree_cons_iff (by simp), agree_append_iff, agree_append_iff] at h
      simp only [mapColumns, mapOptionColumns_congr h.1.1, mapBranchColumns_congr h.1.2,
        mapOptionColumns_congr h.2]

theorem mapAllColumns_congr :
    ∀ {es : List Expr}, Agree f g (listNodes es) → mapAllColumns f es = mapAllColumns g es
  | [], _ => rfl
  | e :: es, h => by
      rw [listNodes, agree_append_iff] at h
      simp only [mapAllColumns, mapColumns_congr h.1, mapAllColumns_congr h.2]

theorem mapOptionColumns_congr :
    ∀ {e : Option Expr}, Agree f g (optionNodes e) → mapOptionColumns f e = mapOptionColumns g e
  | none, _ => rfl
  | some e, h => by
      rw [optionNodes] at h
      simp only [mapOptionColumns, mapColumns_congr h]

theorem mapBranchColumns_congr :
    ∀ {branches : List (Expr × Expr)}, Agree f g (branchNodes branches) →
      mapBranchColumns f branches = mapBranchColumns g branches
  | [], _ => rfl
  | (condition, result) :: rest, h => by
      rw [branchNodes, agree_append_iff, agree_append_iff] at h
      simp only [mapBranchColumns, mapColumns_congr h.1.1, mapColumns_congr h.1.2,
        mapBranchColumns_congr h.2]

end

mutual

theorem mapColumns_column : ∀ e : Expr, e.mapColumns column = e
  | column .. | literal _ | truth _ | star _ | inQuery .. | existsIn .. => rfl
  | unary _ e | paren e | cast e _ | isNull e _ => by
      simp only [mapColumns, mapColumns_column e]
  | binary _ e e' | like e e' _ _ => by
      simp only [mapColumns, mapColumns_column e, mapColumns_column e']
  | call _ args _ => by simp only [mapColumns, mapAllColumns_column args]
  | inList e candidates _ => by
      simp only [mapColumns, mapColumns_column e, mapAllColumns_column candidates]
  | between e low high _ => by
      simp only [mapColumns, mapColumns_column e, mapColumns_column low, mapColumns_column high]
  | choice subject branches otherwise => by
      simp only [mapColumns, mapOptionColumns_column subject, mapBranchColumns_column branches,
        mapOptionColumns_column otherwise]

theorem mapAllColumns_column : ∀ es : List Expr, mapAllColumns column es = es
  | [] => rfl
  | e :: es => by simp only [mapAllColumns, mapColumns_column e, mapAllColumns_column es]

theorem mapOptionColumns_column : ∀ e : Option Expr, mapOptionColumns column e = e
  | none => rfl
  | some e => by simp only [mapOptionColumns, mapColumns_column e]

theorem mapBranchColumns_column :
    ∀ branches : List (Expr × Expr), mapBranchColumns column branches = branches
  | [] => rfl
  | (condition, result) :: rest => by
      simp only [mapBranchColumns, mapColumns_column condition, mapColumns_column result,
        mapBranchColumns_column rest]

end

theorem mapColumns_self (h : Agree f column e.nodes) : e.mapColumns f = e :=
  (mapColumns_congr h).trans (mapColumns_column e)

end Expr

end GridSql
