import GridSql.Sql.Expr

/-!
# Equality of expressions and queries

Two trees are equal if they have the same form and equal values; a NaN equals
nothing, as among values.
-/

namespace GridSql

mutual

def Expr.beq : Expr → Expr → Bool
  | .column t n, .column t' n' => t == t' && n == n'
  | .literal v, .literal v' => v == v'
  | .truth b, .truth b' => b == b'
  | .binary op l r, .binary op' l' r' => op == op' && l.beq l' && r.beq r'
  | .unary op e, .unary op' e' => op == op' && e.beq e'
  | .call f es d, .call f' es' d' => f == f' && d == d' && Expr.beqAll es es'
  | .choice s bs e, .choice s' bs' e' =>
      Expr.beqOption s s' && Expr.beqBranches bs bs' && Expr.beqOption e e'
  | .cast e t, .cast e' t' => t == t' && e.beq e'
  | .inList e cs n, .inList e' cs' n' => n == n' && e.beq e' && Expr.beqAll cs cs'
  | .inQuery e q n, .inQuery e' q' n' => n == n' && e.beq e' && q.beq q'
  | .existsIn q n, .existsIn q' n' => n == n' && q.beq q'
  | .between e l h n, .between e' l' h' n' =>
      n == n' && e.beq e' && l.beq l' && h.beq h'
  | .isNull e n, .isNull e' n' => n == n' && e.beq e'
  | .like e p c n, .like e' p' c' n' => n == n' && c == c' && e.beq e' && p.beq p'
  | .star t, .star t' => t == t'
  | .paren e, .paren e' => e.beq e'
  | _, _ => false

def Expr.beqAll : List Expr → List Expr → Bool
  | [], [] => true
  | e :: es, f :: fs => e.beq f && Expr.beqAll es fs
  | _, _ => false

def Expr.beqOption : Option Expr → Option Expr → Bool
  | none, none => true
  | some e, some f => e.beq f
  | _, _ => false

def Expr.beqBranches : List (Expr × Expr) → List (Expr × Expr) → Bool
  | [], [] => true
  | (c, r) :: es, (c', r') :: fs => c.beq c' && r.beq r' && Expr.beqBranches es fs
  | _, _ => false

def SelectItem.beqAll : List SelectItem → List SelectItem → Bool
  | [], [] => true
  | ⟨e, a⟩ :: es, ⟨f, b⟩ :: fs => e.beq f && a == b && SelectItem.beqAll es fs
  | _, _ => false

def OrderKey.beqAll : List OrderKey → List OrderKey → Bool
  | [], [] => true
  | ⟨e, d, n⟩ :: es, ⟨f, d', n'⟩ :: fs =>
      e.beq f && d == d' && n == n' && OrderKey.beqAll es fs
  | _, _ => false

def Query.beq : Query → Query → Bool
  | ⟨select, distinct, source, filter, groupBy, having, orderBy, window⟩,
    ⟨select', distinct', source', filter', groupBy', having', orderBy', window'⟩ =>
      SelectItem.beqAll select select' && distinct == distinct' && source == source' &&
        Expr.beqOption filter filter' && Expr.beqAll groupBy groupBy' &&
        Expr.beqOption having having' && OrderKey.beqAll orderBy orderBy' &&
        window == window'

end

instance : BEq Expr := ⟨Expr.beq⟩

instance : BEq Query := ⟨Query.beq⟩

end GridSql
